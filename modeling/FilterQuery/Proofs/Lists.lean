import FilterQuery.Clause.Written
import FilterQuery.Proofs.Grammar

/-!
# The written form of a list

Many texts are read as one list: blanks around an item are taken off, and blanks alone in brackets
are no item.  Every list that is read at all has one text that is its own, `listText`, and
`listItems?_canonical` says which lists these are, for any punctuation, also where a bracket is the
delimiter or a blank.

`Canonical` leaves out what the reader would change or not give.  The last of its conditions is
about the items together: one empty item, or blank items between blank delimiters, would be read as
no items.  That what is read is canonical rests on `isAllBlank_join_trim`: trimming the items takes
away blanks only, and no delimiter.
-/

namespace FilterQuery

theorem Text.isAllBlank_eq_false {s : List Char} :
    isAllBlank s = false ↔ ∃ c ∈ s, isBlank c = false := by
  rw [isAllBlank, List.all_eq_false]
  simp only [Bool.not_eq_true]

/-- Trimming the stretches of a text leaves what is to be seen in it. -/
theorem Text.isAllBlank_join_trim {delimiter : Char} {stretches : List (List Char)}
    (h : isAllBlank (join [delimiter] stretches) = false) :
    isAllBlank (join [delimiter] (stretches.map trim)) = false := by
  rw [isAllBlank_eq_false] at h ⊢
  obtain ⟨c, hc, hblank⟩ := h
  refine ⟨c, ?_, hblank⟩
  match stretches with
  | [] => cases hc
  | [s] => exact mem_trim hc hblank
  | s :: t :: rest =>
    rcases mem_join hc with hc | ⟨u, hu, hc⟩
    · -- between two stretches there is a delimiter, whatever becomes of them
      rw [List.map_cons, List.map_cons, join]
      · exact List.mem_append_left _ (List.mem_append_right _ hc)
      · simp
    · exact mem_join_of_mem (List.mem_map_of_mem hu) (mem_trim hc hblank)

namespace Clause

variable {marks : Punctuation} {raw : List Char} {items : List (List Char)}

/-- A list that its text is read as. -/
structure Canonical (marks : Punctuation) (items : List (List Char)) : Prop where
  trimmed : ∀ s ∈ items, Text.trim s = s
  delimiter_not_mem : ∀ s ∈ items, marks.delimiter ∉ s
  /-- There is nothing to be seen in the brackets only where there is nothing. -/
  visible : items = [] ∨ Text.isAllBlank (Text.join [marks.delimiter] items) = false

theorem Canonical.lists (h : Canonical marks items) : Lists marks (listText marks items) items := by
  rcases h.visible with rfl | hvisible
  · exact .empty rfl
  · have hlists := Lists.items h.delimiter_not_mem hvisible
    rwa [List.map_congr_left h.trimmed, List.map_id'] at hlists

theorem Lists.canonical (h : Lists marks raw items) : Canonical marks items := by
  cases h with
  | empty => exact ⟨by simp, by simp, .inl rfl⟩
  | @items stretches hfree hblank =>
    refine ⟨?_, ?_, .inr (Text.isAllBlank_join_trim hblank)⟩
    · rw [List.forall_mem_map]
      exact fun s _ => Text.trim_trim s
    · rw [List.forall_mem_map]
      exact fun s hs hmem => hfree s hs ((Text.trim_infix s).subset hmem)

/-- **The lists that are read are those that their own text is read as.** -/
theorem listItems?_canonical (marks : Punctuation) :
    (∀ items, (∃ raw, listItems? marks raw = some items) ↔ Canonical marks items) ∧
    (∀ items, listItems? marks (listText marks items) = some items ↔ Canonical marks items) ∧
    ∀ raw, listItems? marks raw = none ↔
      ∀ inner, raw ≠ marks.listOpen :: inner ++ [marks.listClose] := by
  have hread : ∀ raw items, listItems? marks raw = some items → Canonical marks items :=
    fun raw items h => (listItems?_eq_some.mp h).canonical
  have hwritten : ∀ items, Canonical marks items →
      listItems? marks (listText marks items) = some items :=
    fun items h => listItems?_eq_some.mpr h.lists
  refine ⟨fun items => ⟨?_, fun h => ⟨_, hwritten items h⟩⟩,
    fun items => ⟨hread _ items, hwritten items⟩, fun raw => ?_⟩
  · rintro ⟨raw, h⟩
    exact hread raw items h
  · rw [← Option.not_isSome_iff_eq_none, listItems?_isSome, Bracketed, not_exists]

example : listText {} [[]] = listText {} [] ∧ listItems? {} "[]".toList = some [] := by decide

end Clause

end FilterQuery
