import FilterQuery.Proofs.Cut
import FilterQuery.Sql.Column

/-!
# The segments of a path

`Sql.segments` goes over a path in two rounds.  The first cuts it at the marks `__`, the second cuts
what is left at the points, and after each of them the empty stretches are left out.  The same
segments are found by one scan, `Sql.scan`, and by the two rounds in the other order:
`Sql.segments_by_scan`.

* `flatMap_split_splitMark`, `flatMap_splitMark_split`: before anything is left out, the stretches
  are the same in either order, namely those that `stretches` cuts off at points and marks alike.
* `filter_flatMap_filter`: what is left out between the rounds would be left out in the end.
* `scan_eq_filter_stretches`: the scan finds the stretches that are not empty.
* `ofPath_of_segments`, `segments_or_ofPath`: the column that the segments lead to.

A point is not part of a mark, so a point never moves a cut at a mark: between two points a run of
underscores is cut in pairs from its left end, and an odd one stays with what follows, whichever
round is the first.
-/

namespace FilterQuery

namespace Sql

open FilterQuery.Text (split splitMark)

/-- One round over several texts: each is cut, and what is empty is left out. -/
def cutEach (cut : List Char → List (List Char)) (texts : List (List Char)) : List (List Char) :=
  (texts.flatMap cut).filter (!·.isEmpty)

/-- The stretches between the points and marks of a text, from left to right; there is always at
least one. -/
def stretches : List Char → List (List Char)
  | '.' :: rest => [] :: stretches rest
  | '_' :: '_' :: rest => [] :: stretches rest
  | c :: rest => (stretches rest).modifyHead (c :: ·)
  | [] => [[]]

/-- The word in front of the segments found later, unless it is empty. -/
def closeWord (word : List Char) (later : List (List Char)) : List (List Char) :=
  if word.isEmpty then later else word :: later

/-- The segments that one scan from left to right finds; `word` is what it has read since it last
cut.  It cuts at a point and at a mark, at whichever it meets first. -/
def scan (word : List Char) : List Char → List (List Char)
  | '.' :: rest => closeWord word (scan [] rest)
  | '_' :: '_' :: rest => closeWord word (scan [] rest)
  | c :: rest => scan (word ++ [c]) rest
  | [] => closeWord word []

/-! ### Points and marks -/

/-- A character in front of the first text is in front of its first stretch, if the text is not cut
at it. -/
theorem flatMap_modifyHead {cut : List Char → List (List Char)} {c : Char} {t : List Char}
    (hcut : cut (c :: t) = (cut t).modifyHead (c :: ·)) (hne : cut t ≠ [])
    (ts : List (List Char)) :
    ((t :: ts).modifyHead (c :: ·)).flatMap cut =
      ((t :: ts).flatMap cut).modifyHead (c :: ·) := by
  obtain ⟨first, others, hfirst⟩ := List.exists_cons_of_ne_nil hne
  rw [List.modifyHead_cons, List.flatMap_cons, List.flatMap_cons, hcut, hfirst]
  rfl

/-- Cut at the marks first and then at the points. -/
theorem flatMap_split_splitMark (s : List Char) :
    (splitMark s).flatMap (split '.') = stretches s := by
  fun_induction stretches s with
  | case1 rest ih =>
    obtain ⟨t, ts, hsplit⟩ := List.exists_cons_of_ne_nil (Text.splitMark_ne_nil rest)
    -- the round at the marks leaves the point in front of its first stretch
    have hmark : splitMark ('.' :: rest) = ('.' :: t) :: ts := by
      rw [Text.splitMark_cons (by simp), hsplit, List.modifyHead_cons]
    rw [← ih, hmark, hsplit, List.flatMap_cons, List.flatMap_cons, split, if_pos rfl]
    rfl
  | case2 rest ih =>
    rw [splitMark, List.flatMap_cons, ih]
    rfl
  | case3 c rest hpoint hmark ih =>
    obtain ⟨t, ts, hsplit⟩ := List.exists_cons_of_ne_nil (Text.splitMark_ne_nil rest)
    have hcut : split '.' (c :: t) = (split '.' t).modifyHead (c :: ·) := by
      rw [split, if_neg hpoint]
    rw [Text.splitMark_cons (Text.not_mark_of_pattern hmark), hsplit,
      flatMap_modifyHead hcut (Text.split_ne_nil '.' t), ← hsplit, ih]
  | case4 => rfl

/-- Cut at the points first and then at the marks. -/
theorem flatMap_splitMark_split (s : List Char) :
    (split '.' s).flatMap splitMark = stretches s := by
  fun_induction stretches s with
  | case1 rest ih =>
    rw [split, if_pos rfl, List.flatMap_cons, ih]
    rfl
  | case2 rest ih =>
    obtain ⟨t, ts, hsplit⟩ := List.exists_cons_of_ne_nil (Text.split_ne_nil '.' rest)
    -- the round at the points leaves the mark in front of its first stretch
    have hpoint : split '.' ('_' :: '_' :: rest) = ('_' :: '_' :: t) :: ts := by
      rw [split, if_neg (by decide), split, if_neg (by decide), hsplit]
      rfl
    rw [← ih, hpoint, hsplit, List.flatMap_cons, List.flatMap_cons, splitMark]
    rfl
  | case3 c rest hpoint hmark ih =>
    obtain ⟨t, ts, hsplit⟩ := List.exists_cons_of_ne_nil (Text.split_ne_nil '.' rest)
    have hcut : splitMark (c :: t) = (splitMark t).modifyHead (c :: ·) := by
      refine Text.splitMark_cons ?_
      rintro ⟨hc, ht⟩
      -- the first stretch begins with what the text begins with
      rw [Text.split_eq_cons, List.cons.injEq] at hsplit
      rw [← hsplit.1, List.head?_takeWhile, Option.filter_eq_some_iff] at ht
      exact Text.not_mark_of_pattern hmark ⟨hc, ht.1⟩
    rw [split, if_neg hpoint, hsplit, flatMap_modifyHead hcut (Text.splitMark_ne_nil t), ← hsplit,
      ih]
  | case4 => rfl

theorem of_mem_stretches {s t : List Char} (h : t ∈ stretches s) :
    '.' ∉ t ∧ ¬ ['_', '_'] <:+: t := by
  constructor
  · rw [← flatMap_split_splitMark] at h
    obtain ⟨u, -, ht⟩ := List.mem_flatMap.mp h
    exact Text.not_mem_of_mem_split ht
  · rw [← flatMap_splitMark_split] at h
    obtain ⟨u, -, ht⟩ := List.mem_flatMap.mp h
    exact Text.not_mark_of_mem_splitMark ht

/-! ### What is left out -/

/-- An empty text has only an empty stretch, so it may be left out before the round or after it. -/
theorem filter_flatMap_filter {cut : List Char → List (List Char)} (hcut : cut [] = [[]])
    (texts : List (List Char)) :
    ((texts.filter (!·.isEmpty)).flatMap cut).filter (!·.isEmpty) =
      (texts.flatMap cut).filter (!·.isEmpty) := by
  induction texts with
  | nil => rfl
  | cons t texts ih =>
    cases t with
    | nil =>
      rw [List.filter_cons_of_neg (by simp), ih, List.flatMap_cons, hcut, List.filter_append]
      rfl
    | cons c t =>
      rw [List.filter_cons_of_pos rfl, List.flatMap_cons, List.flatMap_cons, List.filter_append,
        List.filter_append, ih]

theorem cutEach_cutEach {cut cut' : List Char → List (List Char)} (hcut' : cut' [] = [[]])
    (s : List Char) :
    cutEach cut' (cutEach cut [s]) = ((cut s).flatMap cut').filter (!·.isEmpty) := by
  rw [cutEach, cutEach, List.flatMap_singleton, filter_flatMap_filter hcut']

theorem segments_eq_cutEach (s : List Char) :
    segments s = cutEach (split '.') (cutEach splitMark [s]) := by
  rw [cutEach, cutEach, List.flatMap_singleton]
  rfl

theorem segments_eq_filter_stretches (s : List Char) :
    segments s = (stretches s).filter (!·.isEmpty) := by
  rw [segments_eq_cutEach, cutEach_cutEach rfl, flatMap_split_splitMark]

theorem cutEach_splitMark_cutEach_split (s : List Char) :
    cutEach splitMark (cutEach (split '.') [s]) = segments s := by
  rw [cutEach_cutEach rfl, flatMap_splitMark_split, segments_eq_filter_stretches]

/-! ### The scan -/

theorem closeWord_filter (word : List Char) (ss : List (List Char)) :
    closeWord word (ss.filter (!·.isEmpty)) = (word :: ss).filter (!·.isEmpty) := by
  cases word with
  | nil => rfl
  | cons c word => rfl

/-- Nothing in front of the first text changes nothing. -/
theorem modifyHead_nil_append (ss : List (List Char)) : ss.modifyHead ([] ++ ·) = ss := by
  cases ss <;> rfl

/-- What was read since the last cut is the beginning of the first stretch. -/
theorem scan_eq_filter_stretches (word s : List Char) :
    scan word s = ((stretches s).modifyHead (word ++ ·)).filter (!·.isEmpty) := by
  fun_induction scan word s with
  | case1 word rest ih | case2 word rest ih =>
    rw [ih, modifyHead_nil_append, closeWord_filter, stretches, List.modifyHead_cons,
      List.append_nil]
  | case3 word c rest hpoint hmark ih =>
    have hstretches : stretches (c :: rest) = (stretches rest).modifyHead (c :: ·) := by
      rw [stretches]
      · exact hpoint
      · exact hmark
    have hword : (word ++ [c] ++ ·) = (word ++ ·) ∘ (c :: ·) := by
      funext t
      exact List.append_assoc ..
    rw [ih, hstretches, List.modifyHead_modifyHead, hword]
  | case4 word =>
    rw [stretches, List.modifyHead_cons, List.append_nil, ← closeWord_filter]
    rfl

/-! ### The column -/

variable {path : String}

theorem ofPath_of_segments {before : List (List Char)} {last : List Char} (hne : before ≠ [])
    (h : segments path.toList = before ++ [last]) :
    Column.ofPath path =
      ⟨some (String.ofList (Text.join ['_', '_'] before)), String.ofList last⟩ := by
  obtain ⟨first, rest, hreverse⟩ := List.exists_cons_of_ne_nil (List.reverse_ne_nil_iff.mpr hne)
  have hbefore : before = (first :: rest).reverse := by rw [← hreverse, List.reverse_reverse]
  rw [Column.ofPath, h, List.reverse_append, List.reverse_singleton, hreverse, hbefore]
  rfl

/-- A path leads through a relation, or it is the name of a column as it stands. -/
theorem segments_or_ofPath (path : String) :
    (∃ before last, before ≠ [] ∧ segments path.toList = before ++ [last]) ∨
      Column.ofPath path = ⟨none, path⟩ := by
  rw [Column.ofPath]
  cases hreverse : (segments path.toList).reverse with
  | nil => exact .inr rfl
  | cons last before =>
    cases before with
    | nil => exact .inr rfl
    | cons first rest =>
      refine .inl ⟨(first :: rest).reverse, last, by simp, ?_⟩
      rw [← List.reverse_reverse (segments path.toList), hreverse, List.reverse_cons]

theorem two_le_length_iff {ss : List (List Char)} :
    2 ≤ ss.length ↔ ∃ before last, before ≠ [] ∧ ss = before ++ [last] := by
  constructor
  · intro h
    rcases List.eq_nil_or_concat ss with rfl | ⟨before, last, rfl⟩
    · cases h
    · refine ⟨before, last, ?_, List.concat_eq_append⟩
      rintro rfl
      simp at h
  · rintro ⟨before, last, hne, rfl⟩
    have hpos := List.length_pos_iff.mpr hne
    rw [List.length_append, List.length_singleton]
    omega

theorem ofPath_of_length_lt (h : (segments path.toList).length < 2) :
    Column.ofPath path = ⟨none, path⟩ := by
  rcases segments_or_ofPath path with hsegments | hpath
  · exact absurd (two_le_length_iff.mpr hsegments) (Nat.not_le_of_lt h)
  · exact hpath

theorem relation_isSome_iff :
    (Column.ofPath path).relation.isSome ↔ 2 ≤ (segments path.toList).length := by
  constructor
  · intro hsome
    by_contra hlt
    rw [ofPath_of_length_lt (Nat.lt_of_not_le hlt)] at hsome
    cases hsome
  · intro h
    obtain ⟨before, last, hne, hsegments⟩ := two_le_length_iff.mp h
    rw [ofPath_of_segments hne hsegments]
    rfl

/-- **A path is cut by one scan.**  Cut at the marks and then at the points it has the segments that
a scan from left to right finds, and that it has cut at the points and then at the marks.  None of
them is empty or has a point or a mark in it.  If there are two or more, the last is a column and
the others, joined with marks, its relation; if not, the path is a column as it stands. -/
theorem segments_by_scan (path : String) :
    segments path.toList = cutEach (split '.') (cutEach splitMark [path.toList]) ∧
    segments path.toList = scan [] path.toList ∧
    segments path.toList = cutEach splitMark (cutEach (split '.') [path.toList]) ∧
    (∀ s ∈ segments path.toList, s ≠ [] ∧ '.' ∉ s ∧ ¬ ['_', '_'] <:+: s) ∧
    ((Column.ofPath path).relation.isSome ↔ 2 ≤ (segments path.toList).length) ∧
    (2 ≤ (segments path.toList).length → ∃ before last,
      segments path.toList = before ++ [last] ∧
      Column.ofPath path =
        ⟨some (String.ofList (Text.join ['_', '_'] before)), String.ofList last⟩) ∧
    ((segments path.toList).length < 2 → Column.ofPath path = ⟨none, path⟩) := by
  refine ⟨segments_eq_cutEach _, ?_, (cutEach_splitMark_cutEach_split _).symm, ?_,
    relation_isSome_iff, ?_, ofPath_of_length_lt⟩
  · rw [scan_eq_filter_stretches, modifyHead_nil_append, segments_eq_filter_stretches]
  · intro s hs
    rw [segments_eq_filter_stretches] at hs
    obtain ⟨hmem, hne⟩ := List.mem_filter.mp hs
    exact ⟨by simpa using hne, of_mem_stretches hmem⟩
  · intro h
    obtain ⟨before, last, hne, hsegments⟩ := two_le_length_iff.mp h
    exact ⟨before, last, hsegments, ofPath_of_segments hne hsegments⟩

-- The last of three underscores belongs to what follows, and to nothing else before a point.
example : scan [] "a___b___.c".toList = ["a".toList, "_b".toList, "_".toList, "c".toList] := by
  decide

end Sql

end FilterQuery
