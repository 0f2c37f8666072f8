import FilterQuery.Clause.Piece
import FilterQuery.Proofs.Cut

/-!
# Which pieces a query has

`Piece.all` walks over the query and counts bytes on the way.  The texts it finds are the stretches
between the separators without the empty ones: `Piece.map_text_all`.

The walk takes a whole stretch at a time, and `Text.split` one character, so the proof first reads
`split` stretch by stretch (`Text.split_eq_cons`).

Where the pieces stand is told by `standsIn_of_mem_all`: at its place in the query stands the text
of the piece, byte for byte.  And by `all_append`: a query that is put behind another one and a
separator keeps its pieces, each as many bytes further on as there are before it.
-/

namespace FilterQuery

namespace Piece

/-- The non-empty stretches between the separators of a query. -/
def texts (separator : Char) (query : String) : List String :=
  ((Text.split separator query.toList).filter (!·.isEmpty)).map String.ofList

/-- A stretch ends where the text does, or at a separator. -/
theorem eq_separator_of_dropWhile {separator c : Char} {s rest : List Char}
    (h : s.dropWhile (· ≠ separator) = c :: rest) : c = separator := by
  have := List.head?_dropWhile_not (· ≠ separator) s
  simpa only [h, List.head?_cons, decide_eq_false_iff_not, Decidable.not_not] using this

/-- After a stretch the walk goes on with the separator, where a cut is made anyway. -/
theorem filter_split_dropWhile (separator : Char) (s : List Char) :
    (Text.split separator (s.dropWhile (· ≠ separator))).filter (!·.isEmpty) =
      (match s.dropWhile (· ≠ separator) with
        | [] => []
        | _ :: rest => Text.split separator rest).filter (!·.isEmpty) := by
  cases h : s.dropWhile (· ≠ separator) with
  | nil => rfl
  | cons c rest => simp [Text.split, eq_separator_of_dropWhile h]

theorem map_text_scan (separator : Char) (start : Nat) (s : List Char) :
    (scan separator start s).map (·.text) =
      ((Text.split separator s).filter (!·.isEmpty)).map String.ofList := by
  fun_induction scan separator start s with
  | case1 => rfl
  | case2 start rest ih => rw [ih, Text.split, if_pos rfl]; rfl
  | case3 start c rest h word stop ih =>
    rw [Text.split, if_neg h, Text.split_eq_cons, List.modifyHead_cons, List.map_cons, ih,
      filter_split_dropWhile]
    rfl

/-- **The pieces of a query are its non-empty stretches, in order.** -/
theorem map_text_all (separator : Char) (query : String) :
    (all separator query).map (·.text) = texts separator query :=
  map_text_scan separator 0 query.toList

theorem texts_of_not_mem {separator : Char} {query : String} (hne : query.toList ≠ [])
    (h : separator ∉ query.toList) : texts separator query = [query] := by
  rw [texts, Text.split_of_not_mem h, List.filter_cons_of_pos (by simpa using hne)]
  simp

theorem ne_empty_of_mem_texts {separator : Char} {query text : String}
    (h : text ∈ texts separator query) : text ≠ "" := by
  obtain ⟨s, hs, rfl⟩ := List.mem_map.mp h
  have hne : s ≠ [] := by simpa using (List.mem_filter.mp hs).2
  intro hempty
  exact hne (by simpa using congrArg String.toList hempty)

theorem not_mem_of_mem_texts {separator : Char} {query text : String}
    (h : text ∈ texts separator query) : separator ∉ text.toList := by
  obtain ⟨s, hs, rfl⟩ := List.mem_map.mp h
  rw [String.toList_ofList]
  exact Text.not_mem_of_mem_split (List.mem_filter.mp hs).1

/-- **Texts joined with separators are cut apart again.** -/
theorem texts_join {separator : Char} {ts : List String} (hne : ∀ t ∈ ts, t ≠ "")
    (hfree : ∀ t ∈ ts, separator ∉ t.toList) :
    texts separator (String.ofList (Text.join [separator] (ts.map String.toList))) = ts := by
  have hkept : ∀ s ∈ ts.map String.toList, (!s.isEmpty) = true := by simpa using hne
  cases ts with
  | nil => rfl
  | cons t rest =>
    have hsplit : Text.split separator (Text.join [separator] ((t :: rest).map String.toList)) =
        (t :: rest).map String.toList :=
      Text.split_eq_iff.mpr ⟨by simp, by simpa using hfree, rfl⟩
    rw [texts, String.toList_ofList, hsplit, List.filter_eq_self.mpr hkept, List.map_map]
    simp

/-! ### Places -/

/-- The same text, `n` bytes further on. -/
def shift (n : Nat) (piece : Piece) : Piece := { piece with span := piece.span.shift n }

theorem scan_cons {separator c : Char} (h : c ≠ separator) (start : Nat) (rest : List Char) :
    scan separator start (c :: rest) =
      ⟨String.ofList (c :: rest.takeWhile (· ≠ separator)),
        ⟨start, start + Text.byteLength (c :: rest.takeWhile (· ≠ separator))⟩⟩ ::
      scan separator (start + Text.byteLength (c :: rest.takeWhile (· ≠ separator)))
        (rest.dropWhile (· ≠ separator)) := by
  rw [scan, if_neg h]

theorem scan_shift (separator : Char) (n start : Nat) (s : List Char) :
    scan separator (start + n) s = (scan separator start s).map (shift n) := by
  fun_induction scan separator start s with
  | case1 => rw [scan, List.map_nil]
  | case2 start rest ih =>
    rw [scan, if_pos rfl, ← ih]
    congr 1
    omega
  | case3 start c rest h word stop ih =>
    have hstop : start + n + Text.byteLength word = stop + n := by omega
    rw [scan_cons h, hstop, ih]
    rfl

theorem takeWhile_append_separator (separator : Char) (s t : List Char) :
    (s ++ separator :: t).takeWhile (· ≠ separator) = s.takeWhile (· ≠ separator) := by
  induction s with
  | nil => simp
  | cons c s ih =>
    by_cases h : c = separator
    · simp [h]
    · simpa [h] using ih

theorem dropWhile_append_separator (separator : Char) (s t : List Char) :
    (s ++ separator :: t).dropWhile (· ≠ separator) =
      s.dropWhile (· ≠ separator) ++ separator :: t := by
  induction s with
  | nil => simp
  | cons c s ih =>
    by_cases h : c = separator
    · simp [h]
    · simpa [h] using ih

/-- A separator behind a text ends its last stretch, and the walk goes on behind it. -/
theorem scan_append (separator : Char) (start : Nat) (s t : List Char) :
    scan separator start (s ++ separator :: t) = scan separator start s ++
      scan separator (start + Text.byteLength s + separator.utf8Size) t := by
  fun_induction scan separator start s with
  | case1 start => rw [List.nil_append, scan, if_pos rfl]; rfl
  | case2 start rest ih =>
    rw [List.cons_append, scan, if_pos rfl, ih, Text.byteLength_cons]
    congr 2
    omega
  | case3 start c rest h word stop ih =>
    have hbytes : Text.byteLength (c :: rest) =
        Text.byteLength word + Text.byteLength (rest.dropWhile (· ≠ separator)) := by
      rw [← Text.byteLength_append, List.cons_append, List.takeWhile_append_dropWhile]
    rw [List.cons_append, scan_cons h, takeWhile_append_separator, dropWhile_append_separator, ih,
      hbytes, ← Nat.add_assoc]
    rfl

/-- **A query behind another one and a separator keeps its pieces**, moved on by the bytes before
it. -/
theorem all_append (separator : Char) (q₁ q₂ : String) :
    all separator (q₁ ++ String.singleton separator ++ q₂) = all separator q₁ ++
      (all separator q₂).map (shift (q₁.utf8ByteSize + separator.utf8Size)) := by
  have hchars : (q₁ ++ String.singleton separator ++ q₂).toList =
      q₁.toList ++ separator :: q₂.toList := by
    simp [String.toList_append]
  rw [all, hchars, scan_append, Text.byteLength_toList, Nat.add_assoc, scan_shift]
  rfl

theorem texts_append (separator : Char) (q₁ q₂ : String) :
    texts separator (q₁ ++ String.singleton separator ++ q₂) =
      texts separator q₁ ++ texts separator q₂ := by
  rw [← map_text_all, all_append, List.map_append, List.map_map, ← map_text_all, ← map_text_all]
  rfl

/-- The piece is what stands in the query at its place. -/
def StandsIn (piece : Piece) (query : String) : Prop :=
  ∃ before after, query = before ++ piece.text ++ after ∧
    piece.span = ⟨before.utf8ByteSize, before.utf8ByteSize + piece.text.utf8ByteSize⟩

theorem exists_around_of_mem_scan {separator : Char} {start : Nat} {s : List Char} {piece : Piece}
    (h : piece ∈ scan separator start s) :
    ∃ before after, s = before ++ piece.text.toList ++ after ∧
      piece.span = ⟨start + Text.byteLength before,
        start + Text.byteLength before + Text.byteLength piece.text.toList⟩ := by
  fun_induction scan separator start s with
  | case1 => cases h
  | case2 start rest ih =>
    obtain ⟨before, after, hs, hspan⟩ := ih h
    refine ⟨separator :: before, after, by rw [hs]; rfl, ?_⟩
    rw [hspan, Text.byteLength_cons, Nat.add_assoc start]
  | case3 start c rest hc word stop ih =>
    have hword : c :: rest = word ++ rest.dropWhile (· ≠ separator) := by
      rw [List.cons_append, List.takeWhile_append_dropWhile]
    rcases List.mem_cons.mp h with rfl | h
    · refine ⟨[], rest.dropWhile (· ≠ separator), ?_, ?_⟩
      · rw [String.toList_ofList, List.nil_append, hword]
      · rw [String.toList_ofList]
        rfl
    · obtain ⟨before, after, hs, hspan⟩ := ih h
      refine ⟨word ++ before, after, ?_, ?_⟩
      · rw [hword, hs, List.append_assoc, List.append_assoc, List.append_assoc]
      · rw [hspan, Text.byteLength_append, ← Nat.add_assoc]

/-- **Every piece stands where it says.** -/
theorem standsIn_of_mem_all {separator : Char} {query : String} {piece : Piece}
    (h : piece ∈ all separator query) : piece.StandsIn query := by
  obtain ⟨before, after, hquery, hspan⟩ := exists_around_of_mem_scan h
  refine ⟨String.ofList before, String.ofList after, ?_, ?_⟩
  · rw [← String.toList_inj, hquery]
    simp [String.toList_append]
  · rw [hspan, Nat.zero_add, Text.byteLength_toList, Text.utf8ByteSize_ofList]

/-- The bytes of the query at the place of a piece are those of its text. -/
theorem StandsIn.bytes {piece : Piece} {query : String} (h : piece.StandsIn query) :
    query.toUTF8.extract piece.span.start piece.span.stop = piece.text.toUTF8 := by
  obtain ⟨before, after, rfl, hspan⟩ := h
  have hbytes : (before ++ piece.text ++ after).toUTF8 =
      before.toUTF8 ++ (piece.text.toUTF8 ++ after.toUTF8) := by
    rw [String.append_assoc]
    exact String.toByteArray_append.trans (congrArg _ String.toByteArray_append)
  have hstart : before.utf8ByteSize = before.toUTF8.size := rfl
  rw [hspan, hbytes]
  have hmiddle := ByteArray.extract_append_eq_left (a := piece.text.toUTF8) (b := after.toUTF8) rfl
  exact (ByteArray.extract_append_size_add' (i := 0) hstart).trans hmiddle

end Piece

end FilterQuery
