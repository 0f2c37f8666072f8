import FilterQuery.Proofs.Composition
import FilterQuery.Proofs.Paths

/-!
# Fields and columns

A search is composed by comparing paths as they are written; a statement compares the columns that
the paths lead to.  The two agree as long as nothing has two names:

* `Sql.Respells`: two paths lead to one column of one relation.  By `Sql.ofPath_eq_iff` paths share
  a column only if they are the same path or one respells the other.
* `Sql.Standard`: a path is written with `__` alone, between segments that are not empty.  By
  `Sql.Respells.eq_of_standard` such paths do not respell each other.
* `compose_columns`: the leaves of a search have different columns exactly as far as no path in it
  respells another.

What stands before the last segment is compared after it was joined again, so `a___b__c` respells
`a_.b.c`, though no segment of the one is one of the other.
-/

namespace FilterQuery

namespace Sql

/-- Both paths lead through a relation, under one name, to a last segment, under one name. -/
def Respells (path path' : String) : Prop :=
  ∃ before before' last, before ≠ [] ∧ before' ≠ [] ∧
    segments path.toList = before ++ [last] ∧ segments path'.toList = before' ++ [last] ∧
    Text.join ['_', '_'] before = Text.join ['_', '_'] before'

/-- The path is written with `__` alone, and nowhere is a segment empty. -/
def Standard (path : String) : Prop :=
  '.' ∉ path.toList ∧ [] ∉ Text.splitMark path.toList

instance (path : String) : Decidable (Standard path) := inferInstanceAs (Decidable (_ ∧ _))

variable {path path' : String}

theorem Respells.ofPath_eq (h : Respells path path') :
    Column.ofPath path = Column.ofPath path' := by
  obtain ⟨before, before', last, hne, hne', hpath, hpath', hjoin⟩ := h
  rw [ofPath_of_segments hne hpath, ofPath_of_segments hne' hpath', hjoin]

/-- **Two paths lead to one column if and only if they are one path, or lead through a relation of
one name to a segment of one name.** -/
theorem ofPath_eq_iff :
    Column.ofPath path = Column.ofPath path' ↔ path = path' ∨ Respells path path' := by
  constructor
  · intro h
    rcases segments_or_ofPath path with ⟨before, last, hne, hpath⟩ | hpath
    · rw [ofPath_of_segments hne hpath] at h
      rcases segments_or_ofPath path' with ⟨before', last', hne', hpath'⟩ | hpath'
      · rw [ofPath_of_segments hne' hpath', Column.mk.injEq, Option.some.injEq,
          String.ofList_inj, String.ofList_inj] at h
        obtain ⟨hjoin, rfl⟩ := h
        exact .inr ⟨before, before', last, hne, hne', hpath, hpath', hjoin⟩
      · rw [hpath'] at h
        cases h
    · rw [hpath] at h
      rcases segments_or_ofPath path' with ⟨before', last', hne', hpath'⟩ | hpath'
      · rw [ofPath_of_segments hne' hpath'] at h
        cases h
      · rw [hpath', Column.mk.injEq] at h
        exact .inl h.2
  · rintro (rfl | h)
    · rfl
    · exact h.ofPath_eq

-- An underscore beside a separator may belong to either segment.
example : Column.ofPath "a___b__c" = Column.ofPath "a_.b.c" := by decide

theorem segments_of_standard (h : Standard path) :
    segments path.toList = Text.splitMark path.toList := by
  obtain ⟨hdot, hempty⟩ := h
  have hstretches : stretches path.toList = Text.splitMark path.toList := by
    rw [← flatMap_splitMark_split, Text.split_of_not_mem hdot, List.flatMap_singleton]
  rw [segments_eq_filter_stretches, hstretches]
  refine List.filter_eq_self.mpr fun s hs => ?_
  have hne : s ≠ [] := fun e => hempty (e ▸ hs)
  simpa using hne

/-- **Paths in standard spelling do not respell each other.** -/
theorem Respells.eq_of_standard (h : Respells path path') (hpath : Standard path)
    (hpath' : Standard path') : path = path' := by
  obtain ⟨before, before', last, hne, hne', hsegments, hsegments', hjoin⟩ := h
  rw [segments_of_standard hpath] at hsegments
  rw [segments_of_standard hpath'] at hsegments'
  rw [← String.toList_inj, ← Text.join_splitMark path.toList, ← Text.join_splitMark path'.toList,
    hsegments, hsegments', Text.join_concat hne, Text.join_concat hne', hjoin]

theorem ofPath_inj_of_standard (hpath : Standard path) (hpath' : Standard path')
    (h : Column.ofPath path = Column.ofPath path') : path = path' := by
  rcases ofPath_eq_iff.mp h with h | h
  · exact h
  · exact h.eq_of_standard hpath hpath'

end Sql

/-- The column that the predicate compares. -/
def Predicate.column (p : Predicate) : Sql.Column := Sql.Column.ofPath p.field

namespace Compose

variable {user defaults : List Predicate}

/-- The fields kept are those asked for. -/
theorem exists_kept_iff {P : String → Prop} :
    (∃ p ∈ lastPerField user, P p.field) ↔ ∃ p ∈ user, P p.field := by
  have hfields : ∀ f, f ∈ (lastPerField user).map (·.field) ↔ f ∈ user.map (·.field) := by
    intro f
    rw [map_field_lastPerField, List.mem_eraseDups]
  constructor
  · rintro ⟨p, hp, h⟩
    exact ⟨p, mem_of_mem_lastPerField hp, h⟩
  · rintro ⟨p, hp, h⟩
    obtain ⟨q, hq, hqp⟩ := List.mem_map.mp ((hfields p.field).mpr (List.mem_map_of_mem hp))
    exact ⟨q, hq, hqp ▸ h⟩

/-- **The kept predicates have different columns exactly if each column asked for is written in one
way.** -/
theorem nodup_column_lastPerField :
    ((lastPerField user).map Predicate.column).Nodup ↔
      ∀ p ∈ user, ∀ q ∈ user, p.column = q.column → p.field = q.field := by
  have hnodup : (lastPerField user).Nodup := .of_map _ (nodup_lastPerField user)
  rw [List.nodup_map_iff_inj_on hnodup]
  constructor
  · intro h p hp q hq hcolumn
    obtain ⟨p', hp', hfield⟩ := exists_kept_iff.mpr ⟨p, hp, rfl⟩
    obtain ⟨q', hq', hfield'⟩ := exists_kept_iff.mpr ⟨q, hq, rfl⟩
    have hsame : p' = q' := by
      refine h p' hp' q' hq' ?_
      rw [Predicate.column, ← hfield, Predicate.column, ← hfield']
      exact hcolumn
    rw [hfield, hfield', hsame]
  · intro h p hp q hq hcolumn
    have hfield := h p (mem_of_mem_lastPerField hp) q (mem_of_mem_lastPerField hq) hcolumn
    have hlast := mem_lastPerField.mp hp
    rw [hfield, mem_lastPerField.mp hq] at hlast
    exact (Option.some.inj hlast).symm

/-- **No default is injected on the column of a kept predicate exactly if each default on a column
asked for is on a path asked for.** -/
theorem column_ne_untouched_iff :
    (∀ p ∈ lastPerField user, ∀ q ∈ untouched (lastPerField user) defaults, p.column ≠ q.column) ↔
      ∀ p ∈ user, ∀ q ∈ defaults, p.column = q.column → q.field ∈ user.map (·.field) := by
  have hinjected : ∀ q, q ∈ untouched (lastPerField user) defaults ↔
      q ∈ defaults ∧ q.field ∉ user.map (·.field) := by
    intro q
    rw [untouched_lastPerField, List.mem_filter, decide_eq_true_iff]
  constructor
  · intro h p hp q hq hcolumn
    by_contra hfield
    obtain ⟨p', hp', hsame⟩ := exists_kept_iff.mpr ⟨p, hp, rfl⟩
    refine h p' hp' q ((hinjected q).mpr ⟨hq, hfield⟩) ?_
    rw [Predicate.column, ← hsame]
    exact hcolumn
  · intro h p hp q hq hcolumn
    obtain ⟨hdefault, hfield⟩ := (hinjected q).mp hq
    exact hfield (h p (mem_of_mem_lastPerField hp) q hdefault hcolumn)

/-- Where columns and paths are the same thing, what is kept is the last predicate on the column. -/
theorem getLast?_filter_column (h : ∀ p ∈ user, ∀ q ∈ user, p.column = q.column → p.field = q.field)
    {p : Predicate} (hp : p ∈ lastPerField user) :
    (user.filter (·.column = p.column)).getLast? = some p := by
  have hsame : user.filter (·.column = p.column) = user.filter (·.field == p.field) := by
    refine List.filter_congr fun q hq => ?_
    rw [Bool.eq_iff_iff, decide_eq_true_iff, beq_iff_eq]
    refine ⟨h q hq p (mem_of_mem_lastPerField hp), fun hfield => ?_⟩
    rw [Predicate.column, hfield, Predicate.column]
  rw [hsame]
  exact mem_lastPerField.mp hp

/-- Where columns and paths are the same thing, the defaults left alone are those on other
columns. -/
theorem untouched_eq_filter_column
    (h : ∀ p ∈ user, ∀ q ∈ defaults, p.column = q.column → p.field = q.field) :
    untouched (lastPerField user) defaults =
      defaults.filter fun q => q.column ∉ user.map Predicate.column := by
  rw [untouched_lastPerField]
  refine List.filter_congr fun q hq => ?_
  rw [Bool.eq_iff_iff, decide_eq_true_iff, decide_eq_true_iff, not_iff_not, List.mem_map,
    List.mem_map]
  constructor
  · rintro ⟨p, hp, hfield⟩
    exact ⟨p, hp, congrArg Sql.Column.ofPath hfield⟩
  · rintro ⟨p, hp, hcolumn⟩
    exact ⟨p, hp, h p hp q hq hcolumn⟩

end Compose

open Compose (lastPerField untouched)

/-- **A search compares fields by their paths, and two paths may lead to one column.**  The leaves
of the client's are on different columns exactly if no clause respells the path of another, and no
default is on the column of a clause exactly if no clause respells the path of a default that none
is on.  Paths in standard spelling do not respell each other: where the clauses and the defaults
keep to it, the last clause on a column is the one that counts, and a clause on a column switches
its defaults off. -/
theorem compose_columns (user mandatory defaults : List Predicate) :
    (compose user mandatory defaults).result =
      .all ((lastPerField user ++ mandatory ++ untouched (lastPerField user) defaults).map .leaf) ∧
    (((lastPerField user).map Predicate.column).Nodup ↔
      ∀ p ∈ user, ∀ q ∈ user, Sql.Respells p.field q.field → p.field = q.field) ∧
    ((∀ p ∈ lastPerField user, ∀ q ∈ untouched (lastPerField user) defaults,
        p.column ≠ q.column) ↔
      ∀ p ∈ user, ∀ q ∈ defaults, Sql.Respells p.field q.field →
        q.field ∈ user.map (·.field)) ∧
    (∀ path path', Sql.Respells path path' → Sql.Standard path → Sql.Standard path' →
      path = path') ∧
    ((∀ p ∈ user ++ defaults, Sql.Standard p.field) →
      ((lastPerField user).map Predicate.column).Nodup ∧
      (∀ p ∈ lastPerField user, (user.filter (·.column = p.column)).getLast? = some p) ∧
      (∀ p ∈ user, ∃ q ∈ lastPerField user, q.column = p.column) ∧
      untouched (lastPerField user) defaults =
        defaults.filter fun q => q.column ∉ user.map Predicate.column) := by
  refine ⟨rfl, ?_, ?_, fun path path' => Sql.Respells.eq_of_standard, fun hstandard => ?_⟩
  · rw [Compose.nodup_column_lastPerField]
    simp only [Predicate.column, Sql.ofPath_eq_iff, or_imp, imp_self, true_and]
  · rw [Compose.column_ne_untouched_iff]
    simp only [Predicate.column, Sql.ofPath_eq_iff, or_imp]
    refine forall₂_congr fun p hp => forall₂_congr fun q _ => and_iff_right fun hfield => ?_
    exact List.mem_map.mpr ⟨p, hp, hfield⟩
  · have hone : ∀ p ∈ user ++ defaults, ∀ q ∈ user ++ defaults, p.column = q.column →
        p.field = q.field :=
      fun p hp q hq => Sql.ofPath_inj_of_standard (hstandard p hp) (hstandard q hq)
    have huser : ∀ p ∈ user, ∀ q ∈ user, p.column = q.column → p.field = q.field :=
      fun p hp q hq => hone p (List.mem_append_left _ hp) q (List.mem_append_left _ hq)
    refine ⟨Compose.nodup_column_lastPerField.mpr huser,
      fun p => Compose.getLast?_filter_column huser,
      fun p hp => (Compose.exists_kept_iff (P := fun path => Sql.Column.ofPath path = p.column)).mpr
        ⟨p, hp, rfl⟩,
      Compose.untouched_eq_filter_column fun p hp q hq => ?_⟩
    exact hone p (List.mem_append_left _ hp) q (List.mem_append_right _ hq)

/-- One column under two paths: two clauses stay side by side, and so do a clause and a default. -/
theorem compose_respelled :
    Sql.Column.ofPath "author.name" = Sql.Column.ofPath "author__name" ∧
    (compose [⟨"author.name", .equals, .scalar "a"⟩, ⟨"author__name", .equals, .scalar "b"⟩]
        [] []).result =
      .all [.leaf ⟨"author.name", .equals, .scalar "a"⟩,
        .leaf ⟨"author__name", .equals, .scalar "b"⟩] ∧
    (compose [⟨"author.name", .equals, .scalar "a"⟩] []
        [⟨"author__name", .equals, .scalar "b"⟩]).result =
      .all [.leaf ⟨"author.name", .equals, .scalar "a"⟩,
        .leaf ⟨"author__name", .equals, .scalar "b"⟩] := by
  decide

end FilterQuery
