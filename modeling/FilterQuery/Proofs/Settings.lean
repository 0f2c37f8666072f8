import FilterQuery.Definition.Source
import FilterQuery.Proofs.Cut

/-!
# What the checks guarantee

`Settings.fault?` runs through the settings until it finds a fault.  `Settings.Sound` states as one
condition what it looks for, without order and without messages, and `fault?_eq_none` says that
settings without a fault are the sound ones.  So `Definition.sound` holds of whatever is searched
with, wherever it comes from.
-/

namespace FilterQuery

/-- The predicate is on a field and has a value of the right shape. -/
def Predicate.Fit (p : Predicate) : Prop := p.field ≠ "" ∧ p.WellShaped

namespace Settings

/-- Settings that queries can be searched with. -/
structure Sound (s : Settings) : Prop where
  separator_free : s.punctuation.separator ∉
    [':', '_', s.punctuation.listOpen, s.punctuation.listClose, s.punctuation.delimiter]
  listOpen_ne_listClose : s.punctuation.listOpen ≠ s.punctuation.listClose
  delimiter_ne_listOpen : s.punctuation.delimiter ≠ s.punctuation.listOpen
  delimiter_ne_listClose : s.punctuation.delimiter ≠ s.punctuation.listClose
  param_ne : s.param ≠ ""
  defaultOperator_ne : s.defaultOperator ≠ .range
  alias_ne : ∀ e ∈ s.fields.entries, e.1 ≠ ""
  field_ne : ∀ e ∈ s.fields.entries, e.2 ≠ ""
  colon_not_mem : ∀ e ∈ s.fields.entries, ':' ∉ e.1.toList
  mark_not_infix : ∀ e ∈ s.fields.entries, ¬ ['_', '_'] <:+: e.1.toList
  not_ends : ∀ e ∈ s.fields.entries, e.1.toList.getLast? ≠ some '_'
  separator_not_mem : ∀ e ∈ s.fields.entries, s.punctuation.separator ∉ e.1.toList
  mandatory_fit : ∀ p ∈ s.mandatory, p.Fit
  defaults_fit : ∀ p ∈ s.defaults, p.Fit

namespace Sound

variable {s : Settings}

theorem separator_ne_colon (h : s.Sound) : s.punctuation.separator ≠ ':' :=
  fun e => h.separator_free (by simp [e])

theorem separator_ne_underscore (h : s.Sound) : s.punctuation.separator ≠ '_' :=
  fun e => h.separator_free (by simp [e])

theorem separator_not_mem_marks (h : s.Sound) : s.punctuation.separator ∉
    [s.punctuation.listOpen, s.punctuation.listClose, s.punctuation.delimiter] :=
  fun hmem => h.separator_free (List.mem_cons_of_mem _ (List.mem_cons_of_mem _ hmem))

end Sound

theorem punctuationFault?_eq_none {marks : Punctuation} :
    punctuationFault? marks = none ↔
      marks.separator ∉ [':', '_', marks.listOpen, marks.listClose, marks.delimiter] ∧
        marks.listOpen ≠ marks.listClose ∧ marks.delimiter ≠ marks.listOpen ∧
        marks.delimiter ≠ marks.listClose := by
  rw [punctuationFault?]
  split
  · next h => exact iff_of_false (by simp) fun hno => hno.1 h
  · next h =>
    rw [and_iff_right h]
    split
    · next h' => exact iff_of_false (by simp) fun hno => by simp [hno] at h'
    · next h' => exact iff_of_true rfl (by simpa only [not_or] using h')

theorem isReserved_eq_false {separator : Char} {aliasName : List Char} :
    isReserved separator aliasName = false ↔
      ':' ∉ aliasName ∧ ¬ ['_', '_'] <:+: aliasName ∧ aliasName.getLast? ≠ some '_' ∧
        separator ∉ aliasName := by
  rw [isReserved, ← Text.cutMark?_isSome]
  simp only [Bool.or_eq_false_iff, List.contains_eq_mem, decide_eq_false_iff_not,
    Bool.not_eq_true, beq_eq_false_iff_ne, ne_eq, and_assoc]

theorem entryFault?_eq_none {separator : Char} {entry : String × String} :
    entryFault? separator entry = none ↔
      entry.1 ≠ "" ∧ entry.2 ≠ "" ∧ isReserved separator entry.1.toList = false := by
  rw [entryFault?]
  split
  · next h => exact iff_of_false (by simp) fun ⟨ha, hf, _⟩ => h.elim ha hf
  · next h =>
    obtain ⟨ha, hf⟩ := not_or.mp h
    rw [and_iff_right ha, and_iff_right hf]
    cases isReserved separator entry.1.toList <;> simp

theorem predicateFault?_eq_none {set : PredicateSet} {p : Predicate} :
    predicateFault? set p = none ↔ p.Fit := by
  rw [predicateFault?, Predicate.Fit]
  split
  · next h => exact iff_of_false (by simp) fun hno => hno.1 h
  · next h =>
    rw [and_iff_right h]
    split
    · next hw => exact iff_of_true rfl hw
    · next hw => exact iff_of_false (by simp) hw

/-- **Settings pass the checks if and only if they are sound.** -/
theorem fault?_eq_none {s : Settings} : s.fault? = none ↔ s.Sound := by
  simp only [fault?, faultIn, Option.orElse_eq_orElse, Option.orElse_eq_or, Option.or_eq_none_iff,
    List.findSome?_eq_none_iff, punctuationFault?_eq_none, entryFault?_eq_none,
    isReserved_eq_false, predicateFault?_eq_none, ite_eq_right_iff, reduceCtorEq, imp_false]
  constructor
  · rintro ⟨⟨hsep, hoc, hdo, hdc⟩, hparam, hop, hentries, hmandatory, hdefaults⟩
    exact ⟨hsep, hoc, hdo, hdc, hparam, hop, fun e he => (hentries e he).1,
      fun e he => (hentries e he).2.1, fun e he => (hentries e he).2.2.1,
      fun e he => (hentries e he).2.2.2.1, fun e he => (hentries e he).2.2.2.2.1,
      fun e he => (hentries e he).2.2.2.2.2, hmandatory, hdefaults⟩
  · intro h
    exact ⟨⟨h.separator_free, h.listOpen_ne_listClose, h.delimiter_ne_listOpen,
      h.delimiter_ne_listClose⟩, h.param_ne, h.defaultOperator_ne,
      fun e he => ⟨h.alias_ne e he, h.field_ne e he, h.colon_not_mem e he, h.mark_not_infix e he,
        h.not_ends e he, h.separator_not_mem e he⟩, h.mandatory_fit, h.defaults_fit⟩

/-- **The check gives back exactly the settings it was given, if they are sound.** -/
theorem check_eq_ok {s : Settings} {d : Definition} :
    s.check = .ok d ↔ d.toSettings = s := by
  rw [check]
  constructor
  · intro h
    split at h
    · cases h
      rfl
    · cases h
  · rintro rfl
    split
    · rfl
    · next fault h => exact absurd (h.symm.trans d.valid) (by simp)

/-- What the check refuses settings for is their first fault. -/
theorem check_eq_error {s : Settings} {fault : Fault} :
    s.check = .error fault ↔ s.fault? = some fault := by
  rw [check]
  constructor
  · intro h
    split at h
    · cases h
    · next hfault =>
      cases h
      exact hfault
  · intro h
    split
    · next hnone => exact absurd (hnone.symm.trans h) (by simp)
    · next hfault => rw [Option.some.inj (hfault.symm.trans h)]

end Settings

theorem Definition.sound (d : Definition) : d.toSettings.Sound :=
  Settings.fault?_eq_none.mp d.valid

end FilterQuery
