import FilterQuery.Definition.Source
import FilterQuery.Proofs.Writing
import Mathlib.Data.List.Perm.Basic

/-!
# All ways lead to the same definition

Settings may be put together from a mapping and a list of changes, or be read from a JSON text.
`Settings.Left` says what the changes leave behind without making them one by one, and
`Settings.CarriedBy` which documents mean it; `Definition.sources_agree` says that the two ways then
come to the same definition, or to the same fault.

The entries of a mapping have no order of their own, and the check takes them as they stand.
Through `Settings.faultIn` it could take them in any other order: whether there is a fault does not
depend on it, and the fault itself only if two entries are at fault.
-/

namespace FilterQuery

open Json (Document)

/-! ### Searching a list in any order -/

section Perm

variable {α β : Type} {f : α → Option β} {l l' : List α}

theorem findSome?_eq_none_of_perm (h : l.Perm l') :
    l.findSome? f = none ↔ l'.findSome? f = none := by
  rw [List.findSome?_eq_none_iff, List.findSome?_eq_none_iff]
  exact forall_congr' fun a => imp_congr_left h.mem_iff

theorem findSome?_eq_of_perm (h : l.Perm l')
    (hone : ∀ a ∈ l, ∀ b ∈ l, f a ≠ none → f b ≠ none → a = b) :
    l.findSome? f = l'.findSome? f := by
  cases hl : l.findSome? f with
  | none => exact ((findSome?_eq_none_of_perm h).mp hl).symm
  | some x =>
    cases hl' : l'.findSome? f with
    | none =>
      rw [(findSome?_eq_none_of_perm h).mpr hl'] at hl
      cases hl
    | some y =>
      obtain ⟨a, ha, hfa⟩ := List.exists_of_findSome?_eq_some hl
      obtain ⟨b, hb, hfb⟩ := List.exists_of_findSome?_eq_some hl'
      have hsame : a = b := by
        refine hone a ha b (h.mem_iff.mpr hb) ?_ ?_
        · rw [hfa]
          exact Option.some_ne_none x
        · rw [hfb]
          exact Option.some_ne_none y
      rw [← hfa, ← hfb, hsame]

end Perm

namespace Settings

/-! ### What changes leave behind -/

/-- The changes leave these settings, after a mapping of these pairs: the last value of each setting
and for each alias, and the predicates in the order in which they were added. -/
structure Left (pairs : List (String × String)) (edits : List Edit) (s : Settings) : Prop where
  param : s.param =
    (edits.filterMap fun | .param name => some name | _ => none).getLast?.getD "q"
  defaultOperator : s.defaultOperator =
    (edits.filterMap fun | .defaultOperator op => some op | _ => none).getLast?.getD .equals
  unmapped : s.unmapped =
    (edits.filterMap fun | .unmapped policy => some policy | _ => none).getLast?.getD .warn
  punctuation : s.punctuation =
    (edits.filterMap fun | .punctuation marks => some marks | _ => none).getLast?.getD
      ⟨'+', '[', ']', ','⟩
  fields : ∀ aliasName, s.fields.get? aliasName =
    (pairs ++ edits.filterMap fun | .field aliasName field => some (aliasName, field) | _ => none
      ).reverse.lookup aliasName
  mandatory : s.mandatory = edits.filterMap fun | .mandatory p => some p | _ => none
  defaults : s.defaults = edits.filterMap fun | .default p => some p | _ => none

variable {pairs : List (String × String)} {edits : List Edit} {s s' : Settings}

theorem Left.apply (h : s.Left pairs edits) (e : Edit) :
    (s.apply e).Left pairs (edits ++ [e]) := by
  obtain ⟨hparam, hoperator, hunmapped, hpunctuation, hfields, hmandatory, hdefaults⟩ := h
  -- a change is the last one of its own kind, and the lists of the other kinds stay as they are
  cases e
  all_goals
    constructor
    all_goals
      simp [Settings.apply, List.filterMap_append, Fields.get?_insert, Fields.lookup_cons, *]

theorem left_edit (pairs : List (String × String)) (edits : List Edit) :
    (({ fields := .ofList pairs } : Settings).edit edits).Left pairs edits := by
  induction edits using List.reverseRecOn with
  | nil =>
    refine ⟨rfl, rfl, rfl, rfl, fun aliasName => ?_, rfl, rfl⟩
    rw [List.filterMap_nil, List.append_nil]
    exact Fields.get?_ofList pairs aliasName
  | append_singleton edits e ih =>
    have hconcat : ({ fields := .ofList pairs } : Settings).edit (edits ++ [e]) =
        (({ fields := .ofList pairs } : Settings).edit edits).apply e := by
      rw [edit, List.foldl_append]
      rfl
    rw [hconcat]
    exact ih.apply e

theorem Left.unique (h : s.Left pairs edits) (h' : s'.Left pairs edits) : s = s' := by
  have hfields : s.fields = s'.fields :=
    Fields.ext_get? fun aliasName => (h.fields aliasName).trans (h'.fields aliasName).symm
  have hparam := h.param.trans h'.param.symm
  have hoperator := h.defaultOperator.trans h'.defaultOperator.symm
  have hunmapped := h.unmapped.trans h'.unmapped.symm
  have hpunctuation := h.punctuation.trans h'.punctuation.symm
  have hmandatory := h.mandatory.trans h'.mandatory.symm
  have hdefaults := h.defaults.trans h'.defaults.symm
  cases s
  cases s'
  simp_all

/-- **Changes leave one thing behind**: what comes of making them one after the other. -/
theorem left_iff :
    s.Left pairs edits ↔ s = ({ fields := .ofList pairs } : Settings).edit edits := by
  constructor
  · exact fun h => h.unique (left_edit pairs edits)
  · rintro rfl
    exact left_edit pairs edits

/-! ### The order of the entries -/

/-- At most one entry of the map is at fault. -/
def OneBadEntry (s : Settings) : Prop :=
  ∀ e ∈ s.fields.entries, ∀ e' ∈ s.fields.entries,
    entryFault? s.punctuation.separator e ≠ none → entryFault? s.punctuation.separator e' ≠ none →
      e = e'

/-- **Whether there is a fault does not depend on the order of the entries.** -/
theorem faultIn_eq_none_of_perm {order : List (String × String)}
    (h : order.Perm s.fields.entries) : s.faultIn order = none ↔ s.fault? = none := by
  simp only [fault?, faultIn, Option.orElse_eq_orElse, Option.orElse_eq_or, Option.or_eq_none_iff,
    findSome?_eq_none_of_perm h]

theorem faultIn_eq_of_perm {order : List (String × String)} (h : order.Perm s.fields.entries)
    (hone : s.OneBadEntry) : s.faultIn order = s.fault? := by
  have hfound : s.fields.entries.findSome? (entryFault? s.punctuation.separator) =
      order.findSome? (entryFault? s.punctuation.separator) := findSome?_eq_of_perm h.symm hone
  rw [fault?, faultIn, faultIn, hfound]

end Settings

namespace Definition

/-- **Settings in a document are as good as settings made by changes.**  If a mapping and changes
leave the settings that a text holds, both ways come to the same definition, or neither comes to one
and the text is refused for the fault that the changes are.  Whatever order the entries of the map
are gone through, there is a fault or there is none, and if at most one entry is at fault it is the
same fault.  A definition in writing is read as itself. -/
theorem sources_agree :
    (∀ (pairs : List (String × String)) (edits : List Edit) (s : Settings) (document : Document)
        (text : String), s.Left pairs edits → s.CarriedBy document → document.HeldBy text →
      (∀ d, (Source.settings pairs edits).definition = .ok d ↔
        (Source.json text).definition = .ok d) ∧
      (∀ d, (Source.json text).definition = .ok d → d.toSettings = s) ∧
      ((¬ ∃ d, (Source.settings pairs edits).definition = .ok d) → ∃ fault,
        s.fault? = some fault ∧
        (Source.settings pairs edits).definition = .error (.settings fault) ∧
        (Source.json text).definition = .error (.json (.settings fault)) ∧
        (SourceFault.json (.settings fault)).message =
          "invalid search definition: cannot parse JSON: "
            ++ (SourceFault.settings fault).message) ∧
      (∀ order : List (String × String), order.Perm s.fields.entries →
        (s.faultIn order = none ↔ s.fault? = none) ∧
        (s.OneBadEntry → s.faultIn order = s.fault?))) ∧
    ∀ d : Definition, (Source.json d.toText).definition = .ok d := by
  refine ⟨fun pairs edits s document text hleft hcarried hheld => ?_, fun d => ?_⟩
  · have hmade : (Source.settings pairs edits).definition = s.check.mapError .settings := by
      rw [Settings.left_iff.mp hleft]
      rfl
    have hread : (Source.json text).definition = (s.check.mapError .settings).mapError .json := by
      rw [Source.definition, ofText_of_heldBy hcarried hheld]
    refine ⟨fun d => ?_, fun d hd => ?_, fun hno => ?_, fun order horder => ?_⟩
    · rw [hmade, hread, Results.mapError_eq_ok, Results.mapError_eq_ok, Results.mapError_eq_ok]
    · rw [hread, Results.mapError_eq_ok, Results.mapError_eq_ok] at hd
      exact Settings.check_eq_ok.mp hd
    · cases hcheck : s.check with
      | ok d =>
        rw [hcheck] at hmade
        exact absurd ⟨d, hmade⟩ hno
      | error fault =>
        rw [hcheck] at hmade hread
        exact ⟨fault, Settings.check_eq_error.mp hcheck, hmade, hread, rfl⟩
    · exact ⟨Settings.faultIn_eq_none_of_perm horder, Settings.faultIn_eq_of_perm horder⟩
  · rw [Source.definition, ofText_toText]
    rfl

/-- A small definition of which most settings are the standard ones. -/
def small : Definition where
  fields := .ofList [("author", "author__name"), ("name", "name")]
  unmapped := .reject
  mandatory := [⟨"status", .equals, .scalar "on"⟩]
  valid := by decide

/-- It with the keys out of order, keys that mean nothing, and an alias twice. -/
def disordered : Document :=
  .ofRecord [("unmapped", .ofText "reject"), ("note", .null),
    ("fields", .ofRecord [("name", .ofText "name"), ("author", .ofText "author"),
      ("author", .ofText "author__name")]),
    ("mandatory", .ofList [.ofRecord [("value", .ofText "on"), ("since", .bool true),
      ("field", .ofText "status"), ("op", .ofText "eq")]])]

theorem carriedBy_disordered : small.toSettings.CarriedBy disordered := by
  have hfields : (Fields.ofList [("author", "author__name"), ("name", "name")]).CarriedBy
      (.ofRecord [("name", .ofText "name"), ("author", .ofText "author"),
        ("author", .ofText "author__name")]) := by
    refine ⟨_, [("name", "name"), ("author", "author"), ("author", "author__name")],
      Document.hasMembers_ofRecord _, ?_, fun aliasName => ?_⟩
    · simp [Document.says_ofText]
    · rw [Fields.get?_ofList]
      simp only [List.reverse_cons, List.reverse_nil, List.nil_append, List.cons_append,
        Fields.lookup_cons, List.lookup_nil]
      grind
  have hpredicate : (⟨"status", .equals, .scalar "on"⟩ : Predicate).CarriedBy
      (.ofRecord [("value", .ofText "on"), ("since", .bool true), ("field", .ofText "status"),
        ("op", .ofText "eq")]) := by
    refine ⟨_, Document.hasMembers_ofRecord _, by decide, ?_, ?_, ?_⟩
    · simp [Predicate.slots, Value.CarriedBy, Operator.code, Document.says_ofText]
    · simp [Predicate.slots]
    · simp [Predicate.slots, (Document.Whole.bool true).skipFault?_eq_none]
  refine ⟨_, Document.hasMembers_ofRecord _, by decide, ?_, ?_, ?_⟩
  · simp [Settings.slots, small, UnmappedPolicy.code, Document.says_ofText, hfields]
    exact ⟨_, rfl, .cons hpredicate .nil⟩
  · simp [Settings.slots, small]
  · simp [Settings.slots, Document.Whole.null.skipFault?_eq_none]

theorem whole_disordered : disordered.Whole := by
  have hfields : (Document.ofRecord [("name", .ofText "name"), ("author", .ofText "author"),
      ("author", .ofText "author__name")]).Whole :=
    Document.whole_ofRecord (by simp [Document.whole_ofText])
  have hpredicate : (Document.ofRecord [("value", .ofText "on"), ("since", .bool true),
      ("field", .ofText "status"), ("op", .ofText "eq")]).Whole :=
    Document.whole_ofRecord (by simp [Document.whole_ofText, Document.Whole.bool])
  refine Document.whole_ofRecord ?_
  simp only [List.forall_mem_cons, List.not_mem_nil, false_implies, implies_true, and_true]
  exact ⟨Document.whole_ofText _, .null, hfields,
    Document.whole_ofList (List.forall_mem_singleton.mpr hpredicate)⟩

/-- Two ways to one definition: changes that override each other, and a text out of order. -/
theorem sources_agree_disordered :
    (Source.settings [("author", "writer"), ("name", "name")] [.unmapped .ignore,
        .field "author" "author__name", .strict,
        .mandatory ⟨"status", .equals, .scalar "on"⟩]).definition = .ok small ∧
      (Source.json disordered.text).definition = .ok small := by
  have hmade : small.toSettings = ({ fields := .ofList [("author", "writer"), ("name", "name")] } :
      Settings).edit [.unmapped .ignore, .field "author" "author__name", .strict,
        .mandatory ⟨"status", .equals, .scalar "on"⟩] := by decide
  have hagree := (sources_agree.1 _ _ _ _ _ (Settings.left_iff.mpr hmade) carriedBy_disordered
    whole_disordered.heldBy_text).1 small
  have hsmall : (Source.settings [("author", "writer"), ("name", "name")] [.unmapped .ignore,
      .field "author" "author__name", .strict,
      .mandatory ⟨"status", .equals, .scalar "on"⟩]).definition = .ok small := by
    rw [Source.definition, Results.mapError_eq_ok, Settings.check_eq_ok]
    exact hmade
  exact ⟨hsmall, hagree.mp hsmall⟩

end Definition

end FilterQuery
