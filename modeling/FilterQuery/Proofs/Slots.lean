import FilterQuery.Proofs.LastPerField

/-!
# Places in a table

`Compose.keep` looks through all predicates kept so far for the one on a field.  `Slots` notes their
places in a hash table and never looks through them.  A step that finds a place in the table writes
there, and it fails if there is no such place: nothing else protects it.

* `Slots.take?_of_agrees`: a step does not fail if the table says of every field what the search
  would say (`Slots.Agrees`); then it does what `keep` does, and the table agrees again.
* `lastPerField_by_slots`: so the loop never fails, its table is right between any two steps, and it
  ends with `lastPerField`.  The beginning of a list may be replaced by what is kept of it.

The table stands for the fields of the predicates, not for the predicates: writing over one of them
leaves the fields alone (`map_field_set`), so only a predicate on a new field changes the table.
-/

namespace FilterQuery.Compose

/-- The predicates kept so far, and the place of the one on each field. -/
structure Slots where
  places : Std.HashMap String Nat
  kept : List Predicate

namespace Slots

/-- Before the first predicate. -/
def start : Slots := ⟨∅, []⟩

/-- With `p` at the place noted for its field, or else at the end, which is then noted.  It fails if
the place is none of those in the list. -/
def take? (s : Slots) (p : Predicate) : Option Slots :=
  match s.places[p.field]? with
  | some i => if i < s.kept.length then some { s with kept := s.kept.set i p } else none
  | none => some ⟨s.places.insert p.field s.kept.length, s.kept ++ [p]⟩

/-- The loop over all predicates. -/
def run? (ps : List Predicate) : Option Slots := ps.foldlM take? start

/-- The table holds the fields of the predicates taken so far and no others.  The place of each is
one in the list, and there is a predicate on that field. -/
structure Tracks (s : Slots) (taken : List Predicate) : Prop where
  mem_places : ∀ field, field ∈ s.places ↔ field ∈ taken.map (·.field)
  place : ∀ field i, s.places[field]? = some i →
    ∃ h : i < s.kept.length, s.kept[i].field = field

/-- The table says of every field what a search through the predicates would say. -/
def Agrees (s : Slots) : Prop := ∀ field, s.places[field]? = slot? s.kept field

end Slots

/-! ### The search -/

theorem slot?_eq_findIdx? (kept : List Predicate) (field : String) :
    slot? kept field = (kept.map (·.field)).findIdx? (· == field) := by
  rw [List.findIdx?_map]
  rfl

theorem slot?_eq_some {kept : List Predicate} {field : String} {i : Nat}
    (h : slot? kept field = some i) : ∃ h : i < kept.length, kept[i].field = field := by
  obtain ⟨hlength, hfield, -⟩ := List.findIdx?_eq_some_iff_getElem.mp h
  exact ⟨hlength, by simpa using hfield⟩

theorem slot?_isSome {kept : List Predicate} {field : String} :
    (slot? kept field).isSome ↔ field ∈ kept.map (·.field) := by
  rw [slot?, List.findIdx?_isSome, List.any_eq_true, List.mem_map]
  simp only [beq_iff_eq]

/-- Writing over a predicate on the same field leaves the fields alone. -/
theorem map_field_set {kept : List Predicate} {i : Nat} (hi : i < kept.length) {p : Predicate}
    (h : kept[i].field = p.field) : (kept.set i p).map (·.field) = kept.map (·.field) := by
  have hi' : i < (kept.map (·.field)).length := by rwa [List.length_map]
  have hsame : (kept.map (·.field))[i] = p.field := by rw [List.getElem_map, h]
  rw [List.map_set, ← hsame, List.set_getElem_self]

theorem slot?_concat (kept : List Predicate) (p : Predicate) (field : String) :
    slot? (kept ++ [p]) field =
      (slot? kept field).or (if p.field = field then some kept.length else none) := by
  rw [slot?, List.findIdx?_append, List.findIdx?_singleton]
  by_cases h : p.field = field
  · simp [h, slot?]
  · simp [h, slot?]

namespace Slots

/-! ### One step -/

/-- **A step of a table that agrees does not fail**, and does what a step with a search does. -/
theorem take?_of_agrees {s : Slots} (h : s.Agrees) (p : Predicate) :
    ∃ after, s.take? p = some after ∧ after.Agrees ∧ after.kept = keep s.kept p := by
  unfold take? keep
  rw [h p.field]
  cases hslot : slot? s.kept p.field with
  | some i =>
    obtain ⟨hi, hfield⟩ := slot?_eq_some hslot
    refine ⟨{ s with kept := s.kept.set i p }, if_pos hi, ?_, rfl⟩
    -- the fields stay as they are, and the search looks at nothing else
    intro field
    rw [slot?_eq_findIdx?, map_field_set hi hfield, ← slot?_eq_findIdx?]
    exact h field
  | none =>
    refine ⟨_, rfl, ?_, rfl⟩
    -- the search finds the new predicate only if it found none before, as the table does
    intro field
    rw [slot?_concat, ← h field, Std.HashMap.getElem?_insert]
    by_cases hfield : p.field = field
    · rw [if_pos (beq_iff_eq.mpr hfield), if_pos hfield, h field, ← hfield, hslot, Option.none_or]
    · rw [if_neg (mt beq_iff_eq.mp hfield), if_neg hfield, Option.or_none]

/-! ### All steps -/

theorem start_agrees : start.Agrees := by
  intro field
  rw [start, Std.HashMap.getElem?_empty]
  rfl

theorem foldlM_take?_of_agrees {s : Slots} (h : s.Agrees) (ps : List Predicate) :
    ∃ after, ps.foldlM take? s = some after ∧ after.Agrees ∧ after.kept = ps.foldl keep s.kept := by
  induction ps generalizing s with
  | nil => exact ⟨s, rfl, h, rfl⟩
  | cons p ps ih =>
    obtain ⟨next, htake, hnext, hkept⟩ := take?_of_agrees h p
    obtain ⟨after, hafter, hagrees, hall⟩ := ih hnext
    refine ⟨after, ?_, hagrees, ?_⟩
    · rw [List.foldlM_cons, htake]
      exact hafter
    · rw [hall, hkept, List.foldl_cons]

/-- **The loop does not fail**, and ends with one predicate for each field. -/
theorem exists_run? (ps : List Predicate) :
    ∃ s, run? ps = some s ∧ s.Agrees ∧ s.kept = lastPerField ps :=
  foldlM_take?_of_agrees start_agrees ps

theorem tracks_of_agrees {s : Slots} {taken : List Predicate} (h : s.Agrees)
    (hkept : s.kept = lastPerField taken) : s.Tracks taken where
  mem_places field := by
    rw [Std.HashMap.mem_iff_isSome_getElem?, h field, slot?_isSome, hkept, map_field_lastPerField,
      List.mem_eraseDups]
  place field i hi := by
    rw [h field] at hi
    exact slot?_eq_some hi

end Slots

/-- **The table is right at every step.**  After any number of steps the loop has not failed, and
the table holds the fields seen so far with the place of each in the list.  At the end every field
is kept once, where it stood first, with the last predicate on it.  A second loop changes nothing,
and the beginning of a list may be replaced by what is kept of it. -/
theorem lastPerField_by_slots (ps : List Predicate) :
    (∀ steps, ∃ s, Slots.run? (ps.take steps) = some s ∧ s.Tracks (ps.take steps) ∧
      Slots.run? ps = (ps.drop steps).foldlM Slots.take? s) ∧
    (Slots.run? ps).map (·.kept) = some (lastPerField ps) ∧
    ((lastPerField ps).map (·.field)).Nodup ∧
    (lastPerField ps).map (·.field) = (ps.map (·.field)).eraseDups ∧
    (∀ p ∈ lastPerField ps, lastOn ps p.field = some p) ∧
    lastPerField (lastPerField ps) = lastPerField ps ∧
    ∀ qs, lastPerField (ps ++ qs) = lastPerField (lastPerField ps ++ qs) := by
  refine ⟨?_, ?_, nodup_lastPerField ps, map_field_lastPerField ps,
    fun p hp => mem_lastPerField.mp hp, lastPerField_lastPerField ps,
    fun qs => (lastPerField_append_left ps qs).symm⟩
  · intro steps
    obtain ⟨s, hrun, hagrees, hkept⟩ := Slots.exists_run? (ps.take steps)
    refine ⟨s, hrun, Slots.tracks_of_agrees hagrees hkept, ?_⟩
    conv_lhs => rw [← List.take_append_drop steps ps, Slots.run?, List.foldlM_append]
    rw [Slots.run?] at hrun
    rw [hrun]
    rfl
  · obtain ⟨s, hrun, -, hkept⟩ := Slots.exists_run? ps
    rw [hrun, Option.map_some, hkept]

end FilterQuery.Compose
