import FilterQuery.Compose
import Mathlib.Data.List.Basic
import Mathlib.Data.List.Induction
import Mathlib.Data.List.Nodup

/-!
# One predicate for each field

`Compose.lastPerField` is a loop that overwrites places of a list.  Seen from the outside it does
two things that have nothing to do with places:

* `map_field_lastPerField`: its fields are those of the list, each where it stood **first**;
* `mem_lastPerField`: what it keeps on a field is the **last** predicate there, `lastOn`.

Both run on one step, `keep`: `map_field_keep` and `mem_keep`.  The second fixes what is kept up to
order, `perm_lastPerField`.  Together they leave only one list, `lastPerField_eq`, and with it the
loop over two lists in a row is known: `lastPerField_append`.

Fields are only compared with each other, so their names do not matter: `lastPerField_map`.
-/

namespace FilterQuery

/-- The same predicate on the field with its new name. -/
def Predicate.rename (names : String → String) (p : Predicate) : Predicate :=
  { p with field := names p.field }

namespace Compose

/-- The last predicate on a field. -/
def lastOn (ps : List Predicate) (field : String) : Option Predicate :=
  (ps.filter (·.field == field)).getLast?

theorem lastOn_concat (ps : List Predicate) (p : Predicate) (field : String) :
    lastOn (ps ++ [p]) field = if p.field = field then some p else lastOn ps field := by
  unfold lastOn
  by_cases h : p.field = field
  · rw [List.filter_append, if_pos h, List.filter_cons_of_pos (by simpa using h), List.filter_nil,
      List.getLast?_concat]
  · rw [List.filter_append, if_neg h, List.filter_cons_of_neg (by simpa using h), List.filter_nil,
      List.append_nil]

theorem lastOn_eq_some {ps : List Predicate} {field : String} {p : Predicate}
    (h : lastOn ps field = some p) : p ∈ ps ∧ p.field = field := by
  have hp := List.mem_filter.mp (List.mem_of_getLast? h)
  exact ⟨hp.1, by simpa using hp.2⟩

/-! ### One step -/

theorem keep_cons (q : Predicate) (kept : List Predicate) (p : Predicate) :
    keep (q :: kept) p = if q.field = p.field then p :: kept else q :: keep kept p := by
  unfold keep slot?
  rw [List.findIdx?_cons]
  by_cases h : q.field = p.field
  · rw [if_pos (by simpa using h), if_pos h]
    rfl
  · rw [if_neg (by simpa using h), if_neg h]
    cases kept.findIdx? (·.field == p.field) <;> rfl

theorem keep_of_not_mem {kept : List Predicate} {p : Predicate}
    (h : p.field ∉ kept.map (·.field)) : keep kept p = kept ++ [p] := by
  induction kept with
  | nil => rfl
  | cons q kept ih =>
    rw [List.map_cons, List.mem_cons, not_or] at h
    obtain ⟨hq, hkept⟩ := h
    rw [keep_cons, if_neg fun e => hq e.symm, ih hkept, List.cons_append]

theorem map_field_keep (kept : List Predicate) (p : Predicate) :
    (keep kept p).map (·.field) =
      if p.field ∈ kept.map (·.field) then kept.map (·.field)
      else kept.map (·.field) ++ [p.field] := by
  induction kept with
  | nil => rfl
  | cons q kept ih =>
    rw [keep_cons]
    by_cases h : q.field = p.field
    · simp [h]
    · have hne : p.field ≠ q.field := fun e => h e.symm
      rw [if_neg h, List.map_cons, ih, List.map_cons]
      simp only [List.mem_cons, hne, false_or]
      split <;> rfl

theorem nodup_keep {kept : List Predicate} (h : (kept.map (·.field)).Nodup) (p : Predicate) :
    ((keep kept p).map (·.field)).Nodup := by
  rw [map_field_keep]
  split
  · exact h
  · next hp =>
    refine List.nodup_append.mpr ⟨h, by simp, fun a ha b hb hab => hp ?_⟩
    rwa [← List.mem_singleton.mp hb, ← hab]

theorem mem_keep {kept : List Predicate} (h : (kept.map (·.field)).Nodup) (p q : Predicate) :
    q ∈ keep kept p ↔ q = p ∨ q ∈ kept ∧ q.field ≠ p.field := by
  induction kept with
  | nil => simp [keep, slot?]
  | cons r kept ih =>
    obtain ⟨hr, hkept⟩ := List.nodup_cons.mp h
    have hne : ∀ q ∈ kept, q.field ≠ r.field :=
      fun q hq e => hr (List.mem_map.mpr ⟨q, hq, e⟩)
    rw [keep_cons]
    by_cases hrp : r.field = p.field
    · rw [if_pos hrp, List.mem_cons, List.mem_cons]
      refine or_congr_right ⟨fun hq => ⟨.inr hq, hrp ▸ hne q hq⟩, ?_⟩
      rintro ⟨rfl | hq, hqp⟩
      · exact absurd hrp hqp
      · exact hq
    · rw [if_neg hrp, List.mem_cons, List.mem_cons, ih hkept]
      constructor
      · rintro (rfl | rfl | ⟨hq, hqp⟩)
        · exact .inr ⟨.inl rfl, hrp⟩
        · exact .inl rfl
        · exact .inr ⟨.inr hq, hqp⟩
      · rintro (rfl | ⟨rfl | hq, hqp⟩)
        · exact .inr (.inl rfl)
        · exact .inl rfl
        · exact .inr (.inr ⟨hq, hqp⟩)

/-! ### The whole loop -/

theorem lastPerField_concat (ps : List Predicate) (p : Predicate) :
    lastPerField (ps ++ [p]) = keep (lastPerField ps) p := by
  rw [lastPerField, List.foldl_append]
  rfl

theorem nodup_lastPerField (ps : List Predicate) : ((lastPerField ps).map (·.field)).Nodup := by
  induction ps using List.reverseRecOn with
  | nil => exact List.nodup_nil
  | append_singleton ps p ih =>
    rw [lastPerField_concat]
    exact nodup_keep ih p

/-- **The fields kept are all fields of the list, in the order of their first predicates.** -/
theorem map_field_lastPerField (ps : List Predicate) :
    (lastPerField ps).map (·.field) = (ps.map (·.field)).eraseDups := by
  induction ps using List.reverseRecOn with
  | nil => rfl
  | append_singleton ps p ih =>
    rw [lastPerField_concat, map_field_keep, ih, List.map_append, List.eraseDups_append,
      List.map_singleton, List.removeAll]
    by_cases h : p.field ∈ ps.map (·.field)
    · rw [if_pos (List.mem_eraseDups.mpr h), List.filter_cons_of_neg (by simpa using h)]
      simp
    · rw [if_neg (mt List.mem_eraseDups.mp h), List.filter_cons_of_pos (by simpa using h)]
      rfl

/-- **What is kept on a field is the last predicate on it.** -/
theorem mem_lastPerField {ps : List Predicate} {q : Predicate} :
    q ∈ lastPerField ps ↔ lastOn ps q.field = some q := by
  induction ps using List.reverseRecOn with
  | nil => exact iff_of_false List.not_mem_nil (by simp [lastOn])
  | append_singleton ps p ih =>
    rw [lastPerField_concat, mem_keep (nodup_lastPerField ps), ih, lastOn_concat]
    by_cases h : p.field = q.field
    · rw [if_pos h, Option.some.injEq, eq_comm]
      exact or_iff_left fun ⟨_, hne⟩ => hne h.symm
    · rw [if_neg h]
      constructor
      · rintro (rfl | ⟨hq, -⟩)
        · exact absurd rfl h
        · exact hq
      · exact fun hq => .inr ⟨hq, fun e => h e.symm⟩

theorem mem_of_mem_lastPerField {ps : List Predicate} {q : Predicate}
    (h : q ∈ lastPerField ps) : q ∈ ps :=
  (lastOn_eq_some (mem_lastPerField.mp h)).1

/-- Lists with the same last predicate on every field keep the same, up to order. -/
theorem perm_lastPerField {ps qs : List Predicate}
    (h : ∀ field, lastOn ps field = lastOn qs field) :
    (lastPerField ps).Perm (lastPerField qs) := by
  have hnodup : ∀ rs, (lastPerField rs).Nodup :=
    fun rs => List.Nodup.of_map _ (nodup_lastPerField rs)
  rw [List.perm_ext_iff_of_nodup (hnodup ps) (hnodup qs)]
  intro p
  rw [mem_lastPerField, mem_lastPerField, h]

/-- **The defaults left alone are those on fields without a predicate.** -/
theorem untouched_lastPerField (ps defaults : List Predicate) :
    untouched (lastPerField ps) defaults =
      defaults.filter fun d => d.field ∉ ps.map (·.field) := by
  refine List.filter_congr fun d _ => ?_
  rw [Bool.eq_iff_iff, decide_eq_true_iff, ← List.mem_eraseDups, ← map_field_lastPerField]
  simp only [List.all_eq_true, bne_iff_ne, List.mem_map, not_exists, not_and]

/-! ### Two lists in a row -/

/-- What is kept, as one expression: for each field, where it stood first, the last predicate. -/
theorem lastPerField_eq (ps : List Predicate) :
    lastPerField ps = (ps.map (·.field)).eraseDups.filterMap (lastOn ps) := by
  have hself : (lastPerField ps).filterMap (fun p => lastOn ps p.field) = lastPerField ps := by
    rw [List.filterMap_congr fun p hp => mem_lastPerField.mp hp, List.filterMap_some]
  rw [← map_field_lastPerField, List.filterMap_map]
  exact hself.symm

theorem lastOn_append (ps qs : List Predicate) (field : String) :
    lastOn (ps ++ qs) field = (lastOn qs field).or (lastOn ps field) := by
  rw [lastOn, List.filter_append, List.getLast?_append]
  rfl

theorem find?_lastPerField (ps : List Predicate) (field : String) :
    (lastPerField ps).find? (·.field == field) = lastOn ps field := by
  cases hfind : (lastPerField ps).find? (·.field == field) with
  | some p =>
    have hfield : p.field = field := by simpa using List.find?_some hfind
    rw [← mem_lastPerField.mp (List.mem_of_find?_eq_some hfind), hfield]
  | none =>
    cases hlast : lastOn ps field with
    | none => rfl
    | some p =>
      have hfield := (lastOn_eq_some hlast).2
      have hp : p ∈ lastPerField ps := mem_lastPerField.mpr (hfield ▸ hlast)
      exact absurd hfield (by simpa using List.find?_eq_none.mp hfind p hp)

theorem eraseDups_filter (test : String → Bool) (fields : List String) :
    (fields.filter test).eraseDups = fields.eraseDups.filter test := by
  induction fields using List.reverseRecOn with
  | nil => rfl
  | append_singleton fields f ih =>
    rw [List.filter_append, List.eraseDups_append, List.eraseDups_append, List.filter_append, ih]
    congr 1
    cases htest : test f <;> by_cases hmem : f ∈ fields <;>
      simp [List.removeAll, List.eraseDups_cons, htest, hmem]

/-- The predicates of `us`, each replaced by the one of `vs` on its field if there is one, and then
those of `vs` on other fields. -/
def overlay (us vs : List Predicate) : List Predicate :=
  us.map (fun p => (vs.find? (·.field == p.field)).getD p) ++
    vs.filter fun q => q.field ∉ us.map (·.field)

/-- **Of two lists in a row the second is laid over the first.** -/
theorem lastPerField_append (ps qs : List Predicate) :
    lastPerField (ps ++ qs) = overlay (lastPerField ps) (lastPerField qs) := by
  have hleft : ∀ p ∈ lastPerField ps, lastOn (ps ++ qs) p.field =
      some (((lastPerField qs).find? (·.field == p.field)).getD p) := by
    intro p hp
    rw [lastOn_append, mem_lastPerField.mp hp, find?_lastPerField]
    cases lastOn qs p.field <;> rfl
  have hright : ∀ q ∈ lastPerField qs, lastOn (ps ++ qs) q.field = some q := by
    intro q hq
    rw [lastOn_append, mem_lastPerField.mp hq, Option.some_or]
  have hfields : ((qs.map (·.field)).removeAll (ps.map (·.field))).eraseDups =
      ((lastPerField qs).filter fun q => q.field ∉ (lastPerField ps).map (·.field)).map
        (·.field) := by
    rw [List.removeAll, eraseDups_filter, ← map_field_lastPerField, List.filter_map]
    congr 1
    refine List.filter_congr fun q _ => ?_
    rw [map_field_lastPerField, Function.comp_apply, List.elem_eq_mem, ← decide_not]
    simp only [List.mem_eraseDups]
  rw [lastPerField_eq (ps ++ qs), List.map_append, List.eraseDups_append, List.filterMap_append,
    hfields, ← map_field_lastPerField, List.filterMap_map, List.filterMap_map, overlay]
  congr 1
  · rw [← List.filterMap_eq_map]
    exact List.filterMap_congr hleft
  · refine (List.filterMap_congr fun q hq => hright q ?_).trans List.filterMap_some
    exact List.mem_of_mem_filter hq

theorem lastPerField_append_self (ps : List Predicate) :
    lastPerField (ps ++ ps) = lastPerField ps := by
  have hsame : ∀ p ∈ lastPerField ps,
      ((lastPerField ps).find? (·.field == p.field)).getD p = p := by
    intro p hp
    rw [find?_lastPerField, mem_lastPerField.mp hp, Option.getD_some]
  have hnone :
      ((lastPerField ps).filter fun q => q.field ∉ (lastPerField ps).map (·.field)) = [] := by
    refine List.filter_eq_nil_iff.mpr fun q hq => ?_
    simpa using List.mem_map_of_mem (f := (·.field)) hq
  rw [lastPerField_append, overlay, hnone, List.append_nil, List.map_congr_left hsame, List.map_id']

/-- Where no field occurs twice, everything is kept. -/
theorem lastPerField_of_nodup {ps : List Predicate} (h : (ps.map (·.field)).Nodup) :
    lastPerField ps = ps := by
  induction ps using List.reverseRecOn with
  | nil => rfl
  | append_singleton ps p ih =>
    rw [List.map_append, List.map_singleton, List.nodup_append] at h
    obtain ⟨hps, -, hdisjoint⟩ := h
    have hp : p.field ∉ ps.map (·.field) :=
      fun hmem => hdisjoint p.field hmem p.field List.mem_cons_self rfl
    rw [lastPerField_concat, ih hps, keep_of_not_mem hp]

theorem lastPerField_lastPerField (ps : List Predicate) :
    lastPerField (lastPerField ps) = lastPerField ps :=
  lastPerField_of_nodup (nodup_lastPerField ps)

/-- **Of the first of two lists only what is kept of it matters.** -/
theorem lastPerField_append_left (ps qs : List Predicate) :
    lastPerField (lastPerField ps ++ qs) = lastPerField (ps ++ qs) := by
  rw [lastPerField_append, lastPerField_append, lastPerField_lastPerField]

/-! ### Other names for the fields -/

theorem keep_map {names : String → String} {kept : List Predicate} {p : Predicate}
    (hinj : ∀ q ∈ kept, names q.field = names p.field → q.field = p.field) :
    keep (kept.map (·.rename names)) (p.rename names) = (keep kept p).map (·.rename names) := by
  induction kept with
  | nil => rfl
  | cons q kept ih =>
    obtain ⟨hq, hkept⟩ := List.forall_mem_cons.mp hinj
    have hsame : (q.rename names).field = (p.rename names).field ↔ q.field = p.field :=
      ⟨hq, congrArg names⟩
    rw [List.map_cons, keep_cons, keep_cons, ih hkept]
    by_cases h : q.field = p.field
    · rw [if_pos (hsame.mpr h), if_pos h, List.map_cons]
    · rw [if_neg (mt hsame.mp h), if_neg h, List.map_cons]

/-- **What is kept does not depend on what the fields are called**, if no two get one name. -/
theorem lastPerField_map {names : String → String} {ps : List Predicate}
    (hinj : ∀ p ∈ ps, ∀ q ∈ ps, names p.field = names q.field → p.field = q.field) :
    lastPerField (ps.map (·.rename names)) = (lastPerField ps).map (·.rename names) := by
  induction ps using List.reverseRecOn with
  | nil => rfl
  | append_singleton ps p ih =>
    have hps : ∀ q ∈ ps, q ∈ ps ++ [p] := fun q hq => List.mem_append_left _ hq
    have hp : p ∈ ps ++ [p] := by simp
    rw [List.map_append, List.map_singleton, lastPerField_concat, lastPerField_concat,
      ih fun q hq r hr => hinj q (hps q hq) r (hps r hr)]
    refine keep_map fun q hq => ?_
    exact hinj q (hps q (mem_of_mem_lastPerField hq)) p hp

end Compose

end FilterQuery
