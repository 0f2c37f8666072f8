import FilterQuery.Fields
import Mathlib.Data.List.Induction
import Mathlib.Data.List.Nodup

/-!
# Maps by their look-ups

A map is its look-ups: `Fields.ext_get?`.  So a map that was filled entry by entry is described by
the last entry for each alias (`Fields.get?_ofList`), whatever place the entries took.
-/

namespace FilterQuery.Fields

variable {fields : Fields} {aliasName field : String}

theorem mem_of_get?_eq_some (h : fields.get? aliasName = some field) :
    (aliasName, field) ∈ fields.entries := by
  obtain ⟨before, after, heq, -⟩ := List.lookup_eq_some_iff.mp h
  exact heq ▸ List.mem_append_right _ List.mem_cons_self

theorem Sorted.nodup {entries : List (String × String)} (h : Sorted entries) :
    (entries.map (·.1)).Nodup := by
  refine List.pairwise_map.mpr (h.imp fun hlt heq => ?_)
  rw [heq] at hlt
  exact String.lt_irrefl _ hlt

theorem lookup_of_mem {entries : List (String × String)} (hnodup : (entries.map (·.1)).Nodup)
    (h : (aliasName, field) ∈ entries) : entries.lookup aliasName = some field := by
  induction entries with
  | nil => cases h
  | cons entry rest ih =>
    obtain ⟨hfirst, hrest⟩ := List.nodup_cons.mp hnodup
    rcases List.mem_cons.mp h with rfl | h
    · exact List.lookup_cons_self
    · have hne : (aliasName == entry.1) = false := by
        rw [beq_eq_false_iff_ne]
        rintro rfl
        exact hfirst (List.mem_map_of_mem (f := (·.1)) h)
      rw [List.lookup_cons, hne]
      exact ih hrest h

/-- **An alias stands for the field of its entry**, and there is only one such entry. -/
theorem get?_eq_some_iff :
    fields.get? aliasName = some field ↔ (aliasName, field) ∈ fields.entries :=
  ⟨mem_of_get?_eq_some, lookup_of_mem fields.sorted.nodup⟩

/-- **Maps with the same look-ups are the same.** -/
theorem ext_get? {fields' : Fields}
    (h : ∀ aliasName, fields.get? aliasName = fields'.get? aliasName) :
    fields = fields' := by
  have hmem : ∀ entry, entry ∈ fields.entries ↔ entry ∈ fields'.entries := by
    intro entry
    rw [← get?_eq_some_iff, ← get?_eq_some_iff, h]
  have hperm : fields.entries.Perm fields'.entries :=
    (List.perm_ext_iff_of_nodup (List.Nodup.of_map _ fields.sorted.nodup)
      (List.Nodup.of_map _ fields'.sorted.nodup)).mpr hmem
  have hsame : fields.entries = fields'.entries := by
    refine hperm.eq_of_pairwise (fun e e' _ _ hlt hgt => ?_) fields.sorted fields'.sorted
    exact absurd (String.lt_trans hlt hgt) (String.lt_irrefl _)
  cases fields
  cases fields'
  cases hsame
  rfl

theorem lookup_cons (entry : String × String) (rest : List (String × String)) (name : String) :
    (entry :: rest).lookup name = if name = entry.1 then some entry.2 else rest.lookup name := by
  by_cases h : name = entry.1
  · rw [if_pos h, h]
    exact List.lookup_cons_self
  · rw [if_neg h, List.lookup_cons, beq_eq_false_iff_ne.mpr h]

theorem lookup_insertEntry (aliasName field : String) (entries : List (String × String))
    (name : String) : (insertEntry aliasName field entries).lookup name =
      if name = aliasName then some field else entries.lookup name := by
  induction entries with
  | nil => rw [insertEntry, lookup_cons]
  | cons entry rest ih =>
    obtain ⟨a, f⟩ := entry
    rw [insertEntry]
    split
    · rw [lookup_cons]
    · split
      · next heq =>
        rw [lookup_cons, lookup_cons, heq]
        split <;> rfl
      · next hne =>
        rw [lookup_cons, ih, lookup_cons]
        by_cases hname : name = a
        · rw [if_pos hname, if_pos hname, if_neg (hname ▸ Ne.symm hne)]
        · rw [if_neg hname, if_neg hname]

/-- Of entries with different aliases it does not matter which come first. -/
theorem lookup_reverse (fields : Fields) (aliasName : String) :
    fields.entries.reverse.lookup aliasName = fields.get? aliasName := by
  have hnodup : (fields.entries.reverse.map (·.1)).Nodup := by
    rw [List.map_reverse, List.nodup_reverse]
    exact fields.sorted.nodup
  refine Option.ext fun field => ?_
  rw [get?_eq_some_iff]
  constructor
  · intro h
    obtain ⟨before, after, heq, -⟩ := List.lookup_eq_some_iff.mp h
    rw [← List.mem_reverse, heq]
    exact List.mem_append_right _ List.mem_cons_self
  · intro h
    exact lookup_of_mem hnodup (List.mem_reverse.mpr h)

/-- An entry put in counts for its alias and for no other. -/
theorem get?_insert (fields : Fields) (aliasName field name : String) :
    (fields.insert aliasName field).get? name =
      if name = aliasName then some field else fields.get? name :=
  lookup_insertEntry aliasName field fields.entries name

/-- **A map filled from a list stands for the last pair of each alias.** -/
theorem get?_ofList (pairs : List (String × String)) (name : String) :
    (ofList pairs).get? name = pairs.reverse.lookup name := by
  induction pairs using List.reverseRecOn with
  | nil => rfl
  | append_singleton pairs pair ih =>
    have hconcat : ofList (pairs ++ [pair]) = (ofList pairs).insert pair.1 pair.2 := by
      rw [ofList, List.foldl_append]
      rfl
    rw [hconcat, get?_insert, List.reverse_append, List.reverse_singleton, List.singleton_append,
      lookup_cons, ih]

theorem eq_ofList_iff {pairs : List (String × String)} :
    fields = ofList pairs ↔ ∀ name, fields.get? name = pairs.reverse.lookup name := by
  constructor
  · rintro rfl
    exact get?_ofList pairs
  · intro h
    exact ext_get? fun name => (h name).trans (get?_ofList pairs name).symm

end FilterQuery.Fields
