import FilterQuery.Text.Blank
import FilterQuery.Text.Cut
import Mathlib.Data.List.DropRight
import Mathlib.Data.List.TakeWhile

/-!
# Where text is cut

`Text.split` and `Text.cutMark?` go through a text character by character.  These lemmas say what
they find in the text as a whole.

* `split_eq_cons`: the first stretch is all before the first separator.
* `split_eq_iff`: the stretches are free of separators, and joined again they are the text.
* `join_splitMark`, `not_mark_of_mem_splitMark`: the stretches between the marks `__` are free of
  marks, and joined again by it they are the text.
* `cutMark?_isSome`: there is a cut exactly if the mark occurs.
* `cutMark?_eq_some`: the cut is made at the first mark.

`split` and `join` are the library's `splitOn` and `intercalate`, and have their lemmas from there.
-/

namespace FilterQuery.Text

/-- The first stretch ends before the first `sep`, and the others come from the text after it. -/
theorem split_eq_cons (sep : Char) (s : List Char) :
    split sep s = s.takeWhile (· ≠ sep) ::
      match s.dropWhile (· ≠ sep) with
      | [] => []
      | _ :: rest => split sep rest := by
  induction s with
  | nil => rfl
  | cons c rest ih =>
    by_cases h : c = sep
    · simp [split, h]
    · rw [split, if_neg h, ih, List.modifyHead_cons,
        List.takeWhile_cons_of_pos (by simpa using h),
        List.dropWhile_cons_of_pos (by simpa using h)]

theorem split_ne_nil (sep : Char) (s : List Char) : split sep s ≠ [] := by
  rw [split_eq_cons]
  exact List.cons_ne_nil _ _

theorem split_eq_splitOn (sep : Char) (s : List Char) : split sep s = s.splitOn sep := by
  induction s with
  | nil => rfl
  | cons c rest ih =>
    rw [split, List.splitOn_cons_eq_if_modifyHead, ih]
    by_cases h : c = sep <;> simp [h]

theorem join_eq_intercalate (sep : List Char) (ss : List (List Char)) :
    join sep ss = sep.intercalate ss := by
  fun_induction join sep ss with
  | case1 => rfl
  | case2 s => exact List.intercalate_singleton.symm
  | case3 s rest hne ih =>
    obtain ⟨t, ts, rfl⟩ := List.exists_cons_of_ne_nil hne
    rw [ih, List.intercalate_cons_cons]

theorem split_append_cons (sep : Char) (s t : List Char) :
    split sep (s ++ sep :: t) = split sep s ++ split sep t := by
  rw [split_eq_splitOn, List.splitOn_append_cons_self, ← split_eq_splitOn, ← split_eq_splitOn]

theorem split_of_not_mem {sep : Char} {s : List Char} (h : sep ∉ s) : split sep s = [s] := by
  rw [split_eq_splitOn, List.splitOn_eq_singleton h]

theorem not_mem_of_mem_split {sep : Char} {s t : List Char} (h : t ∈ split sep s) : sep ∉ t := by
  induction s generalizing t with
  | nil =>
    rw [split, List.mem_singleton] at h
    rw [h]
    exact List.not_mem_nil
  | cons c rest ih =>
    by_cases hc : c = sep
    · rw [split, if_pos hc] at h
      rcases List.mem_cons.mp h with rfl | h
      · exact List.not_mem_nil
      · exact ih h
    · obtain ⟨first, others, hsplit⟩ :=
        List.exists_cons_of_ne_nil (split_ne_nil sep rest)
      rw [split, if_neg hc, hsplit, List.modifyHead_cons] at h
      rcases List.mem_cons.mp h with rfl | h
      · have hfirst : sep ∉ first := ih (hsplit ▸ List.mem_cons_self)
        simp [hfirst, Ne.symm hc]
      · exact ih (hsplit ▸ List.mem_cons_of_mem _ h)

/-- **A text is cut into the stretches without separators that it is joined of.** -/
theorem split_eq_iff {sep : Char} {s : List Char} {ss : List (List Char)} :
    split sep s = ss ↔ ss ≠ [] ∧ (∀ t ∈ ss, sep ∉ t) ∧ join [sep] ss = s := by
  constructor
  · rintro rfl
    refine ⟨split_ne_nil sep s, fun t ht => not_mem_of_mem_split ht, ?_⟩
    rw [split_eq_splitOn, join_eq_intercalate, List.intercalate_splitOn]
  · rintro ⟨hne, hfree, rfl⟩
    rw [split_eq_splitOn, join_eq_intercalate, List.splitOn_intercalate sep hfree hne]

theorem mem_join {sep : List Char} {ss : List (List Char)} {c : Char} (h : c ∈ join sep ss) :
    c ∈ sep ∨ ∃ s ∈ ss, c ∈ s := by
  fun_induction join sep ss with
  | case1 => cases h
  | case2 s => exact .inr ⟨s, List.mem_singleton_self s, h⟩
  | case3 s rest _ ih =>
    rcases List.mem_append.mp h with h | h
    · rcases List.mem_append.mp h with h | h
      · exact .inr ⟨s, List.mem_cons_self, h⟩
      · exact .inl h
    · refine (ih h).imp_right ?_
      rintro ⟨t, ht, hc⟩
      exact ⟨t, List.mem_cons_of_mem s ht, hc⟩

theorem mem_join_of_mem {sep s : List Char} {ss : List (List Char)} (hs : s ∈ ss) {c : Char}
    (hc : c ∈ s) : c ∈ join sep ss := by
  fun_induction join sep ss with
  | case1 => cases hs
  | case2 t => exact List.mem_singleton.mp hs ▸ hc
  | case3 t rest _ ih =>
    rcases List.mem_cons.mp hs with rfl | hs
    · exact List.mem_append_left _ (List.mem_append_left _ hc)
    · exact List.mem_append_right _ (ih hs)

theorem join_concat {sep : List Char} {ss : List (List Char)} (hne : ss ≠ []) (s : List Char) :
    join sep (ss ++ [s]) = join sep ss ++ sep ++ s := by
  fun_induction join sep ss with
  | case1 => exact absurd rfl hne
  | case2 t => rfl
  | case3 t rest hrest ih =>
    have hconcat : rest ++ [s] ≠ [] := by simp
    rw [List.cons_append, join, ih hrest]
    · simp only [List.append_assoc]
    · exact hconcat

theorem splitMark_ne_nil (s : List Char) : splitMark s ≠ [] := by
  fun_induction splitMark s with
  | case1 => simp
  | case2 c rest _ ih => simpa using ih
  | case3 => simp

/-- **A text cut at the mark is joined again by it.** -/
theorem join_splitMark (s : List Char) : join ['_', '_'] (splitMark s) = s := by
  fun_induction splitMark s with
  | case1 rest ih =>
    rw [join, ih]
    · rfl
    · exact splitMark_ne_nil rest
  | case2 c rest _ ih =>
    obtain ⟨t, ts, hsplit⟩ := List.exists_cons_of_ne_nil (splitMark_ne_nil rest)
    rw [hsplit] at ih
    rw [hsplit, List.modifyHead_cons, ← ih]
    cases ts <;> rfl
  | case3 => rfl

/-! ### Bytes -/

theorem byteLength_cons (c : Char) (s : List Char) :
    byteLength (c :: s) = c.utf8Size + byteLength s := rfl

theorem byteLength_append (s t : List Char) :
    byteLength (s ++ t) = byteLength s + byteLength t := by
  induction s with
  | nil => exact (Nat.zero_add _).symm
  | cons c s ih => rw [List.cons_append, byteLength_cons, ih, byteLength_cons, Nat.add_assoc]

theorem utf8ByteSize_ofList (s : List Char) : (String.ofList s).utf8ByteSize = byteLength s := by
  induction s with
  | nil => rfl
  | cons c s ih =>
    have hcons : String.ofList (c :: s) = String.singleton c ++ String.ofList s := by
      rw [← String.toList_inj]
      simp [String.toList_append]
    rw [hcons, String.utf8ByteSize_append, String.utf8ByteSize_singleton, ih, byteLength_cons]

theorem byteLength_toList (s : String) : byteLength s.toList = s.utf8ByteSize := by
  rw [← utf8ByteSize_ofList, String.ofList_toList]

/-! ### Blanks -/

theorem trim_eq_nil {s : List Char} : trim s = [] ↔ isAllBlank s = true := by
  have hends : trim s = [] ↔ s.dropWhile isBlank = [] := by
    rw [trim, trimEnd, List.reverse_eq_nil_iff, List.dropWhile_eq_nil_iff]
    constructor
    · intro h
      cases hs : s.dropWhile isBlank with
      | nil => rfl
      | cons c rest =>
        -- the first character that stays is no blank
        have hfirst := List.head?_dropWhile_not isBlank s
        rw [hs] at h hfirst
        exact absurd (h c (by simp)) (by simpa using hfirst)
    · intro h
      simp [h]
  rw [hends, List.dropWhile_eq_nil_iff, isAllBlank, List.all_eq_true]

theorem trimEnd_eq_rdropWhile (s : List Char) : trimEnd s = s.rdropWhile isBlank := rfl

theorem trim_infix (s : List Char) : trim s <:+: s := by
  have hend : trim s <+: s.dropWhile isBlank := by
    rw [trim, trimEnd_eq_rdropWhile]
    exact List.rdropWhile_prefix isBlank _
  exact hend.isInfix.trans (List.dropWhile_suffix isBlank).isInfix

theorem mem_dropWhile {s : List Char} {c : Char} (hc : c ∈ s) (hblank : isBlank c = false) :
    c ∈ s.dropWhile isBlank := by
  rw [← List.takeWhile_append_dropWhile (p := isBlank) (l := s), List.mem_append] at hc
  rcases hc with hc | hc
  · rw [List.mem_takeWhile_imp hc] at hblank
    cases hblank
  · exact hc

/-- Only blanks are taken off. -/
theorem mem_trim {s : List Char} {c : Char} (hc : c ∈ s) (hblank : isBlank c = false) :
    c ∈ trim s := by
  rw [trim, trimEnd, List.mem_reverse]
  exact mem_dropWhile (List.mem_reverse.mpr (mem_dropWhile hc hblank)) hblank

theorem trim_trim (s : List Char) : trim (trim s) = trim s := by
  -- what is left begins where the text without its first blanks does
  have hstart : (trim s).dropWhile isBlank = trim s := by
    obtain ⟨blanks, hends⟩ := List.rdropWhile_prefix isBlank (s.dropWhile isBlank)
    have hfirst := List.head?_dropWhile_not isBlank s
    cases htrim : trim s with
    | nil => rfl
    | cons c rest =>
      rw [← trimEnd_eq_rdropWhile, ← trim, htrim] at hends
      rw [← hends, List.cons_append, List.head?_cons] at hfirst
      exact List.dropWhile_cons_of_neg (by simpa using hfirst)
  rw [trim, hstart]
  exact List.rdropWhile_idempotent isBlank _

/-! ### The mark -/

theorem mark_infix_cons {c : Char} {s : List Char} :
    ['_', '_'] <:+: c :: s ↔ c = '_' ∧ s.head? = some '_' ∨ ['_', '_'] <:+: s := by
  rw [List.infix_cons_iff, List.cons_prefix_cons]
  refine or_congr_left (and_congr eq_comm ?_)
  cases s <;> simp [eq_comm]

/-- Where the mark was looked for as a pattern and not found, the text does not begin with it. -/
theorem not_mark_of_pattern {c : Char} {rest : List Char}
    (h : ∀ tail, c = '_' → rest = '_' :: tail → False) : ¬ (c = '_' ∧ rest.head? = some '_') := by
  rintro ⟨hc, hrest⟩
  obtain ⟨tail, htail⟩ := List.head?_eq_some_iff.mp hrest
  exact h tail hc htail

theorem mark_infix_concat {s : List Char} {c : Char} :
    ['_', '_'] <:+: s ++ [c] ↔ ['_', '_'] <:+: s ∨ s.getLast? = some '_' ∧ c = '_' := by
  induction s with
  | nil => simp [mark_infix_cons]
  | cons b rest ih =>
    rw [List.cons_append, mark_infix_cons, mark_infix_cons, ih]
    cases rest with
    | nil => simp
    | cons d rest => simp [or_assoc]

/-- A character that no mark begins with belongs to the first stretch. -/
theorem splitMark_cons {c : Char} {s : List Char} (h : ¬ (c = '_' ∧ s.head? = some '_')) :
    splitMark (c :: s) = (splitMark s).modifyHead (c :: ·) := by
  rw [splitMark]
  rintro rest rfl rfl
  exact h ⟨rfl, rfl⟩

/-- The first stretch is the beginning of the text. -/
theorem head?_of_splitMark {s first : List Char} {others : List (List Char)}
    (h : splitMark s = first :: others) {c : Char} (hc : first.head? = some c) :
    s.head? = some c := by
  obtain ⟨rest, rfl⟩ := List.head?_eq_some_iff.mp hc
  rw [← join_splitMark s, h]
  cases others <;> rfl

/-- **No mark is left between the cuts.** -/
theorem not_mark_of_mem_splitMark {s t : List Char} (h : t ∈ splitMark s) :
    ¬ ['_', '_'] <:+: t := by
  fun_induction splitMark s generalizing t with
  | case1 rest ih =>
    rcases List.mem_cons.mp h with rfl | h
    · decide
    · exact ih h
  | case2 c rest hno ih =>
    obtain ⟨first, others, hsplit⟩ := List.exists_cons_of_ne_nil (splitMark_ne_nil rest)
    rw [hsplit, List.modifyHead_cons] at h
    rw [hsplit] at ih
    rcases List.mem_cons.mp h with rfl | h
    · intro hmark
      rcases mark_infix_cons.mp hmark with ⟨hc, hfirst⟩ | hmark
      · -- the text would begin with the mark, which is the case before
        exact not_mark_of_pattern hno ⟨hc, head?_of_splitMark hsplit hfirst⟩
      · exact ih List.mem_cons_self hmark
    · exact ih (List.mem_cons_of_mem _ h)
  | case3 =>
    rw [List.mem_singleton] at h
    subst h
    decide

/-- **A text is cut at the mark `__` if and only if the mark occurs in it.** -/
theorem cutMark?_isSome {s : List Char} : (cutMark? s).isSome ↔ ['_', '_'] <:+: s := by
  fun_induction cutMark? s with
  | case1 rest => exact iff_of_true rfl ⟨[], rest, rfl⟩
  | case2 c rest hno ih =>
    rw [Option.isSome_map, ih]
    constructor
    · exact List.infix_cons
    · intro h
      rcases List.infix_cons_iff.mp h with hp | h
      · -- a mark at the front is the case before
        obtain ⟨rest', hr⟩ := hp
        rw [List.cons_append, List.cons_append, List.nil_append, List.cons.injEq] at hr
        exact absurd hr.2.symm (hno rest' hr.1.symm)
      · exact h
  | case3 => simp

theorem cutMark?_eq_none {s : List Char} : cutMark? s = none ↔ ¬ ['_', '_'] <:+: s := by
  rw [← cutMark?_isSome, Option.not_isSome_iff_eq_none]

/-- **The cut is made at the first mark.**  No mark stands before it, and none begins with the
character before it. -/
theorem cutMark?_eq_some {s before after : List Char} :
    cutMark? s = some (before, after) ↔
      s = before ++ '_' :: '_' :: after ∧ ¬ ['_', '_'] <:+: before ++ ['_'] := by
  fun_induction cutMark? s generalizing before with
  | case1 rest =>
    constructor
    · rintro h
      cases h
      exact ⟨rfl, by decide⟩
    · rintro ⟨hs, hfirst⟩
      match before with
      | [] => rw [List.nil_append, List.cons.injEq, List.cons.injEq] at hs; rw [hs.2.2]
      | [c] =>
        -- then the text before would end in the first character of the mark
        obtain ⟨rfl, -⟩ := List.cons.inj hs
        exact absurd List.infix_rfl hfirst
      | c :: d :: before =>
        obtain ⟨rfl, htail⟩ := List.cons.inj hs
        obtain ⟨rfl, -⟩ := List.cons.inj htail
        exact absurd (mark_infix_cons.mpr (.inl ⟨rfl, rfl⟩)) hfirst
  | case2 c rest hno ih =>
    have hhead := not_mark_of_pattern hno
    rw [Option.map_eq_some_iff]
    constructor
    · rintro ⟨⟨b, a⟩, hcut, heq⟩
      cases heq
      obtain ⟨hs, hfirst⟩ := ih.mp hcut
      refine ⟨by rw [hs]; rfl, fun hmark => ?_⟩
      rcases mark_infix_cons.mp hmark with ⟨rfl, hb⟩ | hmark
      · refine hhead ⟨rfl, ?_⟩
        rw [hs, ← hb]
        cases b <;> rfl
      · exact hfirst hmark
    · rintro ⟨hs, hfirst⟩
      cases before with
      | nil =>
        obtain ⟨rfl, rfl⟩ := List.cons.inj hs
        exact absurd ⟨rfl, rfl⟩ hhead
      | cons d before =>
        obtain ⟨rfl, htail⟩ := List.cons.inj hs
        have hrest : ¬ ['_', '_'] <:+: before ++ ['_'] :=
          fun hmark => hfirst (mark_infix_cons.mpr (.inr hmark))
        exact ⟨(before, after), ih.mpr ⟨htail, hrest⟩, rfl⟩
  | case3 => simp

end FilterQuery.Text
