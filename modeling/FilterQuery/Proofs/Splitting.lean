import FilterQuery.Clause.Cursor
import FilterQuery.Proofs.Pieces

/-!
# Queries are cut exactly

The pieces of a query, the places they are told with, and what is left between the places, for any
separator: `Piece.all_cuts_exactly`.

* `PieceCursor.yields_scan`: a walk over the pieces, one at a time, comes to its end.
* `Piece.exact_all`: the pieces are the stretches between separators, at their places.
* `Piece.map_text_joined`: joined with separators they are cut apart again.

Two of the facts are about all places at once, and are proved along the walk: that two places do not
touch (`pairwise_scan`), since a separator stands behind every piece that is not the last, and that
every other byte is one of a separator (`exists_separator_of_outside`).  What is said of one piece
comes from where it stands (`StandsIn`).
-/

namespace FilterQuery

namespace PieceCursor

variable {separator : Char}

theorem next?_nil (position : Nat) : next? separator ⟨position, []⟩ = none := rfl

/-- A separator that comes next is passed. -/
theorem next?_separator (position : Nat) (rest : List Char) :
    next? separator ⟨position, separator :: rest⟩ =
      next? separator ⟨position + separator.utf8Size, rest⟩ := by
  have hskip : skip separator ⟨position, separator :: rest⟩ =
      skip separator ⟨position + separator.utf8Size, rest⟩ := by
    simp [skip, Text.byteLength_cons, Nat.add_assoc]
  rw [next?, next?, hskip]

/-- Anything else begins a piece. -/
theorem next?_cons {c : Char} (h : c ≠ separator) (position : Nat) (rest : List Char) :
    let word := c :: rest.takeWhile (· ≠ separator)
    let stop := position + Text.byteLength word
    next? separator ⟨position, c :: rest⟩ =
      some (⟨String.ofList word, ⟨position, stop⟩⟩, ⟨stop, rest.dropWhile (· ≠ separator)⟩) := by
  have hskip : skip separator ⟨position, c :: rest⟩ = ⟨position, c :: rest⟩ := by
    simp [skip, h, Text.byteLength]
  rw [next?, hskip]
  simp [h]

/-- **A walk comes to its end, and has then met the pieces of the text.** -/
theorem yields_scan (start : Nat) (s : List Char) :
    Yields separator ⟨start, s⟩ (Piece.scan separator start s) := by
  fun_induction Piece.scan separator start s with
  | case1 start => exact .done (next?_nil start)
  | case2 start rest ih =>
    -- the walk over the rest is also one from before the separator
    generalize Piece.scan separator (start + separator.utf8Size) rest = pieces at ih
    cases ih with
    | done h => exact .done ((next?_separator start rest).trans h)
    | step h hrest => exact .step ((next?_separator start rest).trans h) hrest
  | case3 start c rest h word stop ih => exact .step (next?_cons h start rest) ih

theorem Yields.unique {cursor : PieceCursor} {pieces pieces' : List Piece}
    (h : Yields separator cursor pieces) (h' : Yields separator cursor pieces') :
    pieces = pieces' := by
  induction h generalizing pieces' with
  | done h =>
    cases h' with
    | done => rfl
    | step h' => rw [h] at h'; cases h'
  | step h _ ih =>
    cases h' with
    | done h' => rw [h] at h'; cases h'
    | step h' hrest' =>
      rw [h] at h'
      cases h'
      rw [ih hrest']

theorem yields_start (query : String) {pieces : List Piece} :
    Yields separator (start query) pieces ↔ pieces = Piece.all separator query := by
  have hall : Yields separator (start query) (Piece.all separator query) :=
    yields_scan 0 query.toList
  exact ⟨fun h => h.unique hall, fun h => h ▸ hall⟩

end PieceCursor

/-- The byte `i` is one of those at this place. -/
def Span.Holds (span : Span) (i : Nat) : Prop := span.start ≤ i ∧ i < span.stop

namespace Piece

variable {separator : Char} {query : String} {piece : Piece}

/-! ### One piece -/

theorem StandsIn.start_lt_stop (h : piece.StandsIn query) (hne : piece.text ≠ "") :
    piece.span.start < piece.span.stop := by
  obtain ⟨before, after, -, hspan⟩ := h
  have hsize : piece.text.utf8ByteSize ≠ 0 := by simpa using hne
  rw [hspan]
  show before.utf8ByteSize < before.utf8ByteSize + piece.text.utf8ByteSize
  omega

theorem StandsIn.stop_le (h : piece.StandsIn query) : piece.span.stop ≤ query.utf8ByteSize := by
  obtain ⟨before, after, rfl, hspan⟩ := h
  rw [hspan, String.utf8ByteSize_append, String.utf8ByteSize_append]
  exact Nat.le_add_right _ _

theorem StandsIn.isValid (h : piece.StandsIn query) :
    (⟨piece.span.start⟩ : String.Pos.Raw).IsValid query ∧
      (⟨piece.span.stop⟩ : String.Pos.Raw).IsValid query := by
  obtain ⟨before, after, rfl, hspan⟩ := h
  rw [hspan]
  constructor
  · exact String.Pos.Raw.isValid_iff_exists_append.mpr
      ⟨before, piece.text ++ after, String.append_assoc .., rfl⟩
  · refine String.Pos.Raw.isValid_iff_exists_append.mpr ⟨before ++ piece.text, after, rfl, ?_⟩
    rw [String.rawEndPos, String.utf8ByteSize_append]

/-! ### All pieces -/

theorem start_le_of_mem_scan {start : Nat} {s : List Char} (h : piece ∈ scan separator start s) :
    start ≤ piece.span.start := by
  obtain ⟨before, after, -, hspan⟩ := exists_around_of_mem_scan h
  rw [hspan]
  exact Nat.le_add_right _ _

theorem lt_start_of_mem_scan_dropWhile {start : Nat} {s : List Char}
    (h : piece ∈ scan separator start (s.dropWhile (· ≠ separator))) :
    start < piece.span.start := by
  cases hrest : s.dropWhile (· ≠ separator) with
  | nil =>
    rw [hrest, scan] at h
    cases h
  | cons c rest =>
    rw [hrest, eq_separator_of_dropWhile hrest, scan, if_pos rfl] at h
    have hpos := separator.utf8Size_pos
    have hle := start_le_of_mem_scan h
    omega

theorem pairwise_scan (separator : Char) (start : Nat) (s : List Char) :
    (scan separator start s).Pairwise fun p r => p.span.stop < r.span.start := by
  fun_induction scan separator start s with
  | case1 => exact .nil
  | case2 start rest ih => exact ih
  | case3 start c rest h word stop ih =>
    exact .cons (fun r hr => lt_start_of_mem_scan_dropWhile hr) ih

theorem exists_separator_of_outside {start i : Nat} {s : List Char} (hstart : start ≤ i)
    (hstop : i < start + Text.byteLength s)
    (houtside : ∀ p ∈ scan separator start s, ¬ p.span.Holds i) :
    ∃ before after, s = before ++ separator :: after ∧ start + Text.byteLength before ≤ i ∧
      i < start + Text.byteLength before + separator.utf8Size := by
  fun_induction scan separator start s with
  | case1 start => simp [Text.byteLength] at hstop; omega
  | case2 start rest ih =>
    by_cases hi : i < start + separator.utf8Size
    · exact ⟨[], rest, rfl, hstart, hi⟩
    · rw [Text.byteLength_cons] at hstop
      obtain ⟨before, after, rfl, hle, hlt⟩ := ih (by omega) (by omega) houtside
      refine ⟨separator :: before, after, rfl, ?_, ?_⟩
      · rw [Text.byteLength_cons]; omega
      · rw [Text.byteLength_cons]; omega
  | case3 start c rest h word stop ih =>
    obtain ⟨hword, hothers⟩ := List.forall_mem_cons.mp houtside
    have hbytes : Text.byteLength (c :: rest) =
        Text.byteLength word + Text.byteLength (rest.dropWhile (· ≠ separator)) := by
      rw [← Text.byteLength_append, List.cons_append, List.takeWhile_append_dropWhile]
    have hi : stop ≤ i := by
      by_contra hlt
      exact hword ⟨hstart, Nat.lt_of_not_le hlt⟩
    obtain ⟨before, after, hrest, hle, hlt⟩ := ih hi (by omega) hothers
    refine ⟨word ++ before, after, ?_, ?_, ?_⟩
    · rw [List.append_assoc, ← hrest, List.cons_append, List.takeWhile_append_dropWhile]
    · rw [Text.byteLength_append]; omega
    · rw [Text.byteLength_append]; omega

/-- The pieces are what is left of the query without its separators, each told with its place. -/
structure Exact (separator : Char) (query : String) (pieces : List Piece) : Prop where
  /-- The query is stretches without separators, joined by separators.  The texts are those of them
  that are not empty. -/
  texts : ∃ stretches : List (List Char), stretches ≠ [] ∧ (∀ s ∈ stretches, separator ∉ s) ∧
    Text.join [separator] stretches = query.toList ∧
    pieces.map (·.text.toList) = stretches.filter (!·.isEmpty)
  start_lt_stop : ∀ p ∈ pieces, p.span.start < p.span.stop
  stop_le : ∀ p ∈ pieces, p.span.stop ≤ query.utf8ByteSize
  /-- No character is cut apart. -/
  isValid : ∀ p ∈ pieces, (⟨p.span.start⟩ : String.Pos.Raw).IsValid query ∧
    (⟨p.span.stop⟩ : String.Pos.Raw).IsValid query
  bytes : ∀ p ∈ pieces, query.toUTF8.extract p.span.start p.span.stop = p.text.toUTF8
  /-- Each place is behind the one before it, and does not touch it. -/
  apart : pieces.Pairwise fun p r => p.span.stop < r.span.start
  /-- A byte at no place is one of a separator. -/
  outside : ∀ i < query.utf8ByteSize, (∀ p ∈ pieces, ¬ p.span.Holds i) →
    ∃ before after, query = before ++ String.singleton separator ++ after ∧
      before.utf8ByteSize ≤ i ∧ i < before.utf8ByteSize + separator.utf8Size

theorem exact_all (separator : Char) (query : String) :
    Exact separator query (all separator query) where
  texts := by
    obtain ⟨hne, hfree, hjoin⟩ := Text.split_eq_iff.mp (rfl : Text.split separator query.toList = _)
    refine ⟨_, hne, hfree, hjoin, ?_⟩
    have htexts := congrArg (List.map String.toList) (map_text_all separator query)
    simpa [texts, List.map_map, Function.comp_def] using htexts
  start_lt_stop p hp := by
    have htext : p.text ∈ texts separator query :=
      map_text_all separator query ▸ List.mem_map_of_mem hp
    exact (standsIn_of_mem_all hp).start_lt_stop (ne_empty_of_mem_texts htext)
  stop_le p hp := (standsIn_of_mem_all hp).stop_le
  isValid p hp := (standsIn_of_mem_all hp).isValid
  bytes p hp := (standsIn_of_mem_all hp).bytes
  apart := pairwise_scan separator 0 query.toList
  outside i hi houtside := by
    have hstop : i < 0 + Text.byteLength query.toList := by
      rwa [Nat.zero_add, Text.byteLength_toList]
    obtain ⟨before, after, hquery, hle, hlt⟩ :=
      exists_separator_of_outside (Nat.zero_le i) hstop houtside
    rw [Nat.zero_add, ← Text.utf8ByteSize_ofList] at hle hlt
    refine ⟨String.ofList before, String.ofList after, ?_, hle, hlt⟩
    rw [← String.toList_inj, hquery]
    simp [String.toList_append]

/-- The texts of the pieces with a separator between two of them. -/
def joined (separator : Char) (pieces : List Piece) : String :=
  String.ofList (Text.join [separator] (pieces.map (·.text.toList)))

theorem map_text_joined (separator : Char) (query : String) :
    (all separator (joined separator (all separator query))).map (·.text) =
      (all separator query).map (·.text) := by
  have hchars : (all separator query).map (·.text.toList) =
      (texts separator query).map String.toList := by
    rw [← map_text_all, List.map_map]
    rfl
  rw [map_text_all, map_text_all, joined, hchars]
  exact texts_join (fun t ht => ne_empty_of_mem_texts ht) fun t ht => not_mem_of_mem_texts ht

/-- **A query is cut exactly at its separators.**  A walk over its pieces comes to its end.  It has
then met the stretches between the separators, each of them at its place, byte for byte.  The same
texts are found again when they are joined with separators. -/
theorem all_cuts_exactly (separator : Char) (query : String) :
    (∀ pieces, PieceCursor.Yields separator (.start query) pieces ↔
      pieces = all separator query) ∧
    Exact separator query (all separator query) ∧
    (all separator (joined separator (all separator query))).map (·.text) =
      (all separator query).map (·.text) :=
  ⟨fun _ => PieceCursor.yields_start query, exact_all separator query,
    map_text_joined separator query⟩

example : all '→' "→é:a→→b" = [⟨"é:a", ⟨3, 7⟩⟩, ⟨"b", ⟨13, 14⟩⟩] := by cbv

end Piece

end FilterQuery
