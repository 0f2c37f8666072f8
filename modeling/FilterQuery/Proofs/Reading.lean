import FilterQuery.Json.Decode
import FilterQuery.Json.Write
import Mathlib.Data.List.Basic
import Mathlib.Data.List.TakeWhile

/-!
# JSON in writing is read back

`Document.read` makes a document of any text at all.  The documents that a text can hold without
breaking off are the whole ones, and `Whole.readsBack` says that a whole document in writing is read
as itself.

The reader carries proofs about the length of the text along, which the equations `taken_read`,
`taken_readItems`, `taken_readMember` and `taken_readMembers` do without.  A string is read unit by
unit (`Literal.read_unit`), a number part by part.  What follows a number must not look like more of
it, so the induction over the document speaks of what may follow: `Numeral.Stops`.
-/

namespace FilterQuery.Json

/-! ### Strings -/

/-- The unit can be written. -/
def CodeUnit.Writable : CodeUnit → Prop
  | .char c => 0x20 ≤ c.toNat ∨ c ∈ ['\x08', '\t', '\n', '\x0c', '\r']
  | .code n => n < 0x10000

namespace Literal

/-- A string that ends with its quote. -/
structure Whole (literal : Literal) : Prop where
  closed : literal.ending = .closed
  writable : ∀ u ∈ literal.units, u.Writable

theorem hexDigit?_hexDigit : ∀ k < 16, hexDigit? (hexDigit k) = some k := by decide

theorem hexCode?_hexDigit {n : Nat} (h : n < 0x10000) :
    hexCode? (hexDigit (n / 4096 % 16)) (hexDigit (n / 256 % 16)) (hexDigit (n / 16 % 16))
      (hexDigit (n % 16)) = some n := by
  have hdigit : ∀ m, hexDigit? (hexDigit (m % 16)) = some (m % 16) :=
    fun m => hexDigit?_hexDigit _ (Nat.mod_lt _ (by decide))
  simp only [hexCode?, hdigit, Option.bind_eq_bind, Option.bind_some, Option.pure_def,
    Option.some.injEq]
  omega

theorem read_unit {u : CodeUnit} (h : u.Writable) (rest : List Char) :
    read (u.chars ++ rest) = ((read rest).1.push u, (read rest).2) := by
  cases u with
  | code n =>
    rw [CodeUnit.chars, List.cons_append, List.cons_append, List.cons_append, List.cons_append,
      List.cons_append, List.cons_append, List.nil_append, read, hexCode?_hexDigit h]
  | char c =>
    rw [CodeUnit.Writable] at h
    unfold CodeUnit.chars
    split
    -- the seven characters with a short escape
    iterate 7
      · next heq =>
        cases heq
        rfl
    · next c' hquote hbackslash hb ht hn hf hr heq =>
      cases heq
      have hlarge : ¬ c.toNat < 0x20 := by
        rcases h with h | h
        · omega
        · simp only [List.mem_cons, List.not_mem_nil, or_false] at h
          rcases h with rfl | rfl | rfl | rfl | rfl
          · exact (hb rfl).elim
          · exact (ht rfl).elim
          · exact (hn rfl).elim
          · exact (hf rfl).elim
          · exact (hr rfl).elim
      rw [List.singleton_append, read, if_neg hlarge]
      · exact hquote
      all_goals
        intros
        exact hbackslash ‹c = '\\'›
    · next heq => cases heq

theorem read_units {units : List CodeUnit} (h : ∀ u ∈ units, u.Writable) (rest : List Char) :
    read (units.flatMap CodeUnit.chars ++ '"' :: rest) = (⟨units, .closed⟩, rest) := by
  induction units with
  | nil => rfl
  | cons u units ih =>
    obtain ⟨hu, hunits⟩ := List.forall_mem_cons.mp h
    rw [List.flatMap_cons, List.append_assoc, read_unit hu, ih hunits]
    rfl

theorem whole_ofText (text : String) : (ofText text).Whole := by
  refine ⟨rfl, fun u hu => ?_⟩
  obtain ⟨c, -, rfl⟩ := List.mem_map.mp hu
  unfold CodeUnit.ofChar
  split
  · next h => exact Nat.lt_trans h.1 (by decide)
  · next h =>
    by_cases hsmall : c.toNat < 0x20
    · exact .inr (Decidable.not_not.mp fun hc => h ⟨hsmall, hc⟩)
    · exact .inl (Nat.not_lt.mp hsmall)

/-- **The string of a text holds that text.** -/
theorem text_ofText (text : String) : (ofText text).text = .ok text := by
  have hdecode : ∀ cs : List Char, decode .closed (cs.map CodeUnit.ofChar) = .ok cs := by
    intro cs
    induction cs with
    | nil => rfl
    | cons c cs ih =>
      rw [List.map_cons, CodeUnit.ofChar]
      split
      · next h =>
        -- a control character is no half of a surrogate pair
        have htrailing : isTrailing c.toNat = false := by simp [isTrailing]; omega
        have hleading : isLeading c.toNat = false := by simp [isLeading]; omega
        rw [decode.eq_def]
        simp only [htrailing, hleading, ih, Char.ofNat_toNat]
        rfl
      · rw [decode, ih]
        rfl
  rw [Literal.text, ofText, hdecode]
  exact congrArg Except.ok String.ofList_toList

end Literal

/-! ### Numbers -/

namespace Numeral

/-- The text does not begin with a sign that belongs to a number. -/
def Stops (rest : List Char) : Prop :=
  ∀ c ∈ rest.head?, c.isDigit = false ∧ c ≠ '.' ∧ c ≠ 'e' ∧ c ≠ 'E'

/-- Digits, at least one. -/
def Digits (s : List Char) : Prop := s ≠ [] ∧ ∀ c ∈ s, c.isDigit = true

/-- A number that can be written: each part has digits, and a zero in front is the only digit. -/
structure Whole (n : Numeral) : Prop where
  whole : Digits n.whole
  zero : n.whole.head? = some '0' → n.whole = ['0']
  fraction : ∀ s ∈ n.fraction, Digits s
  power : ∀ p ∈ n.power, Digits p.2

variable {n : Numeral} {s rest : List Char}

theorem Stops.not_digit (h : Stops rest) : ∀ c ∈ rest.head?, c.isDigit = false :=
  fun c hc => (h c hc).1

theorem digits_append (h : Digits s) (hrest : ∀ c ∈ rest.head?, c.isDigit = false) :
    digits (s ++ rest) = .ok (s, rest) := by
  have htake : rest.takeWhile Char.isDigit = [] := by
    cases rest with
    | nil => rfl
    | cons c rest => exact List.takeWhile_cons_of_neg (by simp [hrest c rfl])
  have hdrop : rest.dropWhile Char.isDigit = rest := by
    cases rest with
    | nil => rfl
    | cons c rest => exact List.dropWhile_cons_of_neg (by simp [hrest c rfl])
  have hfound : (s ++ rest).takeWhile Char.isDigit = s := by
    rw [List.takeWhile_append_of_pos h.2, htake, List.append_nil]
  rw [digits, hfound, List.dropWhile_append_of_pos h.2, hdrop]
  cases s with
  | nil => exact absurd rfl h.1
  | cons c s => rfl

theorem wholePart_append (h : n.Whole) (hrest : ∀ c ∈ rest.head?, c.isDigit = false) :
    wholePart (n.whole ++ rest) = .ok (n.whole, rest) := by
  by_cases hzero : n.whole.head? = some '0'
  · rw [h.zero hzero, List.singleton_append, wholePart]
    cases rest with
    | nil => rfl
    | cons c rest => simp [hrest c rfl]
  · have hdigits := digits_append h.whole hrest
    cases hwhole : n.whole with
    | nil => exact absurd hwhole h.whole.1
    | cons c s =>
      rw [hwhole] at hzero hdigits
      rw [List.cons_append, wholePart]
      · exact hdigits
      · intro rest' hcons
        exact hzero (congrArg (some ·) (List.cons.inj hcons).1)

theorem fractionPart_append {fraction : Option (List Char)} (h : ∀ s ∈ fraction, Digits s)
    (hrest : ∀ c ∈ rest.head?, c.isDigit = false ∧ c ≠ '.') :
    fractionPart (fractionChars fraction ++ rest) = .ok (fraction, rest) := by
  cases fraction with
  | some s =>
    rw [fractionChars, List.cons_append, fractionPart,
      digits_append (h s rfl) fun c hc => (hrest c hc).1]
    rfl
  | none =>
    rw [fractionChars, List.nil_append, fractionPart]
    rintro rest' rfl
    exact (hrest '.' rfl).2 rfl

theorem powerPart_append {power : Option (Bool × List Char)} (h : ∀ p ∈ power, Digits p.2)
    (hrest : Stops rest) : powerPart (powerChars power ++ rest) = .ok (power, rest) := by
  cases power with
  | some p =>
    obtain ⟨negative, s⟩ := p
    have hs : Digits s := h _ rfl
    have hdigits := digits_append hs hrest.not_digit
    cases negative with
    | true =>
      rw [powerChars, List.cons_append, List.cons_append, powerPart, if_pos (.inl rfl)]
      simp only [hdigits]
      rfl
    | false =>
      obtain ⟨c, t, rfl⟩ := List.exists_cons_of_ne_nil hs.1
      have hc : c.isDigit = true := hs.2 c List.mem_cons_self
      have hplus : c ≠ '+' := by rintro rfl; exact absurd hc (by decide)
      have hminus : c ≠ '-' := by rintro rfl; exact absurd hc (by decide)
      rw [powerChars, List.cons_append, powerPart, if_pos (.inl rfl), hdigits]
      · rfl
      · intro rest' hcons
        exact hplus (List.cons.inj hcons).1
      · intro rest' hcons
        exact hminus (List.cons.inj hcons).1
  | none =>
    rw [powerChars, List.nil_append]
    cases rest with
    | nil => rfl
    | cons c rest =>
      obtain ⟨-, -, he, hE⟩ := hrest c rfl
      simp [powerPart, he, hE]

theorem unsigned_append (h : n.Whole) (negative : Bool) (hrest : Stops rest) :
    unsigned negative (n.whole ++ (fractionChars n.fraction ++ (powerChars n.power ++ rest))) =
      .ok (⟨negative, n.whole, n.fraction, n.power⟩, rest) := by
  have hpower : ∀ c ∈ (powerChars n.power ++ rest).head?, c.isDigit = false ∧ c ≠ '.' := by
    intro c hc
    cases hp : n.power with
    | none =>
      rw [hp] at hc
      exact ⟨(hrest c hc).1, (hrest c hc).2.1⟩
    | some p =>
      obtain ⟨_ | _, s⟩ := p
      all_goals
        rw [hp] at hc
        cases hc
        decide
  have hfraction : ∀ c ∈ (fractionChars n.fraction ++ (powerChars n.power ++ rest)).head?,
      c.isDigit = false := by
    intro c hc
    cases hf : n.fraction with
    | none =>
      rw [hf] at hc
      exact (hpower c hc).1
    | some s =>
      rw [hf] at hc
      cases hc
      decide
  rw [unsigned, wholePart_append h hfraction]
  simp only [bind, Except.bind, fractionPart_append h.fraction hpower,
    powerPart_append h.power hrest]
  rfl

/-- **A number in writing is read as itself.** -/
theorem read_chars (h : n.Whole) (hrest : Stops rest) : read (n.chars ++ rest) = .ok (n, rest) := by
  have hunsigned := unsigned_append h n.negative hrest
  rw [chars, List.append_assoc, List.append_assoc, List.append_assoc]
  obtain ⟨negative, whole, fraction, power⟩ := n
  cases negative with
  | true => exact hunsigned
  | false =>
    obtain ⟨c, s, rfl⟩ := List.exists_cons_of_ne_nil h.whole.1
    have hc : c.isDigit = true := h.whole.2 c List.mem_cons_self
    rw [if_neg Bool.false_ne_true, List.nil_append, List.cons_append, read]
    · exact hunsigned
    · intro rest' hcons
      obtain ⟨rfl, -⟩ := List.cons.inj hcons
      exact absurd hc (by decide)

end Numeral

/-! ### Documents -/

namespace Document

/-! #### The reader without its bookkeeping -/

/-- What was read, and the text after it. -/
def taken {α : Type} {s : List Char} (x : α × Rest s) : α × Option (List Char) :=
  (x.1, x.2.map (·.1))

theorem skipSpace_cons {c : Char} (h : isSpace c = false) (t : List Char) :
    skipSpace (c :: t) = c :: t := by
  rw [skipSpace, List.dropWhile_cons_of_neg (by simpa using h)]

theorem map_val_within {s t : List Char} (h : t.length ≤ s.length) (rest : Rest t) :
    (rest.within h).map (·.1) = rest.map (·.1) := by
  cases rest <;> rfl

theorem taken_within {α : Type} {s t : List Char} (h : t.length ≤ s.length) (x : α × Rest t) :
    taken (x.map id (Rest.within h)) = taken x := by
  rw [taken, Prod.map_snd, map_val_within, Prod.map_fst]
  rfl

theorem taken_read (s : List Char) : taken (read s) =
    match skipSpace s with
    | [] => (.broken (.value true), none)
    | c :: t =>
      if c = '"' then taken (ofString t)
      else if c = '[' then
        match skipSpace t with
        | [] => (.array [] .textEnds, none)
        | d :: u =>
          if d = ']' then (.array [] .closed, some u)
          else (.array (readItems t).1 (readItems t).2.1, (readItems t).2.2.map (·.1))
      else if c = '\x7b' then
        match skipSpace t with
        | [] => (.object [] .textEnds, none)
        | d :: u =>
          if d = '\x7d' then (.object [] .closed, some u)
          else (.object (readMembers t).1 (readMembers t).2.1, (readMembers t).2.2.map (·.1))
      else if c = 'n' then taken (ofWord .null ['u', 'l', 'l'] t)
      else if c = 't' then taken (ofWord (.bool true) ['r', 'u', 'e'] t)
      else if c = 'f' then taken (ofWord (.bool false) ['a', 'l', 's', 'e'] t)
      else if c = '-' ∨ c.isDigit then taken (ofNumber (c :: t))
      else (.broken (.value false), none) := by
  rw [read]
  split
  · next h => conv_rhs => rw [h]
              rfl
  · next c t h =>
    conv_rhs => rw [h]
    dsimp only
    by_cases hquote : c = '"'
    · rw [if_pos hquote, if_pos hquote]
      exact taken_within ..
    rw [if_neg hquote, if_neg hquote]
    by_cases hlist : c = '['
    · rw [if_pos hlist, if_pos hlist]
      split
      · next h' => conv_rhs => rw [h']
                   rfl
      · next d u h' =>
        conv_rhs => rw [h']
        dsimp only
        split
        · rfl
        · rw [taken, map_val_within]
    rw [if_neg hlist, if_neg hlist]
    by_cases hobject : c = '\x7b'
    · rw [if_pos hobject, if_pos hobject]
      split
      · next h' => conv_rhs => rw [h']
                   rfl
      · next d u h' =>
        conv_rhs => rw [h']
        dsimp only
        split
        · rfl
        · rw [taken, map_val_within]
    rw [if_neg hobject, if_neg hobject]
    repeat' split
    all_goals first | exact taken_within .. | rfl

/-- The items that were read, how the list ends, and the text after it. -/
def takenAll {α : Type} {s : List Char} (x : List α × Closing × Rest s) :
    List α × Closing × Option (List Char) :=
  (x.1, x.2.1, x.2.2.map (·.1))

theorem taken_readItems (s : List Char) : takenAll (readItems s) =
    match taken (read s) with
    | (item, none) => ([item], .inside, none)
    | (item, some t) =>
      match skipSpace t with
      | [] => ([item], .textEnds, none)
      | c :: u =>
        if c = ']' then ([item], .closed, some u)
        else if c = ',' then
          if (skipSpace u).head? = some ']' then ([item], .afterComma, none)
          else (takenAll (readItems u)).map (item :: ·) id
        else ([item], .stray, none) := by
  rw [readItems]
  split
  · next item h => rw [h]; rfl
  · next item t ht h =>
    rw [h]
    dsimp only [taken, Option.map_some]
    split
    · next h' =>
      conv_rhs => rw [h']
      rfl
    · next c u h' =>
      conv_rhs => rw [h']
      dsimp only
      repeat' split
      all_goals first | rfl | simp only [takenAll, map_val_within, Prod.map, id]

theorem taken_readMember (s : List Char) : taken (readMember s) =
    match taken (read s) with
    | (.string literal, some t) =>
      match skipSpace t with
      | [] => ((.string literal, .broken (.colon true)), none)
      | c :: u =>
        if c = ':' then (taken (read u)).map (.string literal, ·) id
        else ((.string literal, .broken (.colon false)), none)
    | (key, _) => ((key, .broken (.colon true)), none) := by
  rw [readMember]
  split
  · next literal t ht h =>
    rw [h]
    dsimp only [taken, Option.map_some]
    split
    · next h' =>
      conv_rhs => rw [h']
      rfl
    · next c u h' =>
      conv_rhs => rw [h']
      dsimp only
      split
      · simp only [Prod.map, map_val_within, id]
      · rfl
  · next key rest hno h =>
    rw [h, taken]
    cases rest with
    | none => cases key <;> rfl
    | some rest =>
      cases key with
      | string literal => exact (hno literal _ _ rfl rfl).elim
      | _ => rfl

theorem taken_readMembers (s : List Char) : takenAll (readMembers s) =
    match taken (readMember s) with
    | (member, none) => ([member], .inside, none)
    | (member, some t) =>
      match skipSpace t with
      | [] => ([member], .textEnds, none)
      | c :: u =>
        if c = '\x7d' then ([member], .closed, some u)
        else if c = ',' then
          match (skipSpace u).head? with
          | none => ([member], .endsAfterComma, none)
          | some d =>
            if d = '\x7d' then ([member], .afterComma, none)
            else (takenAll (readMembers u)).map (member :: ·) id
        else ([member], .stray, none) := by
  rw [readMembers]
  split
  · next member h => rw [h]; rfl
  · next member t ht h =>
    rw [h]
    dsimp only [taken, Option.map_some]
    split
    · next h' =>
      conv_rhs => rw [h']
      rfl
    · next c u h' =>
      conv_rhs => rw [h']
      dsimp only
      by_cases hclosed : c = '\x7d'
      · rw [if_pos hclosed, if_pos hclosed]
        rfl
      rw [if_neg hclosed, if_neg hclosed]
      by_cases hcomma : c = ','
      · rw [if_pos hcomma, if_pos hcomma]
        cases (skipSpace u).head? with
        | none => rfl
        | some d =>
          dsimp only
          split
          · rfl
          · simp only [takenAll, map_val_within, Prod.map, id]
      · rw [if_neg hcomma, if_neg hcomma]
        rfl

/-! #### Whole documents -/

/-- A document that does not break off anywhere. -/
inductive Whole : Document → Prop
  | null : Whole .null
  | bool (value : Bool) : Whole (.bool value)
  | number {numeral : Numeral} (h : numeral.Whole) : Whole (.number numeral)
  | string {literal : Literal} (h : literal.Whole) : Whole (.string literal)
  | array {items : List Document} (h : ∀ item ∈ items, Whole item) : Whole (.array items .closed)
  | object {members : List (Document × Document)}
      (hkeys : ∀ m ∈ members, ∃ literal : Literal, literal.Whole ∧ m.1 = .string literal)
      (hvalues : ∀ m ∈ members, Whole m.2) : Whole (.object members .closed)

/-- The document is what the text holds, with nothing but blanks around it. -/
def HeldBy (d : Document) (text : String) : Prop :=
  ∃ rest, taken (read text.toList) = (d, some rest) ∧ skipSpace rest = []

theorem word_append (letters rest : List Char) : word letters (letters ++ rest) = .ok rest := by
  induction letters with
  | nil => rfl
  | cons l letters ih => rw [List.cons_append, word, if_pos rfl, ih]

theorem taken_ofWord (d : Document) (letters rest : List Char) :
    taken (ofWord d letters (letters ++ rest)) = (d, some rest) := by
  rw [ofWord]
  split
  · next rest' h =>
    rw [word_append] at h
    cases h
    rfl
  · next cause h =>
    rw [word_append] at h
    cases h

theorem taken_ofString {literal : Literal} (h : literal.Whole) (rest : List Char) :
    taken (ofString (literal.units.flatMap CodeUnit.chars ++ '"' :: rest)) =
      (.string literal, some rest) := by
  obtain ⟨units, ending⟩ := literal
  obtain rfl : ending = .closed := h.closed
  simp only [taken, ofString, Literal.read_units h.writable, if_pos, Option.map_some]

theorem taken_read_string {literal : Literal} (h : literal.Whole) (rest : List Char) :
    taken (read ((string literal).chars ++ rest)) = (.string literal, some rest) := by
  rw [chars, Literal.chars, List.cons_append, List.cons_append, List.append_assoc, taken_read,
    skipSpace_cons (by decide)]
  dsimp only
  rw [if_pos rfl]
  exact taken_ofString h rest

theorem taken_ofNumber {numeral : Numeral} (h : numeral.Whole) {rest : List Char}
    (hrest : Numeral.Stops rest) :
    taken (ofNumber (numeral.chars ++ rest)) = (.number numeral, some rest) := by
  have hlonger : rest.length < (numeral.chars ++ rest).length := by
    have hpos := List.length_pos_of_ne_nil h.whole.1
    simp only [Numeral.chars, List.length_append]
    omega
  simp only [taken, ofNumber, Numeral.read_chars h hrest, dif_pos hlonger, Option.map_some]

/-- A sign that a number begins with. -/
def BeginsNumber (c : Char) : Prop := c = '-' ∨ c.isDigit = true

instance (c : Char) : Decidable (BeginsNumber c) := inferInstanceAs (Decidable (_ ∨ _))

theorem ne_of_beginsNumber {c d : Char} (hc : BeginsNumber c) (hd : ¬ BeginsNumber d) : c ≠ d := by
  rintro rfl
  exact hd hc

theorem isSpace_of_beginsNumber {c : Char} (hc : BeginsNumber c) : isSpace c = false := by
  rw [Bool.eq_false_iff]
  intro hspace
  simp only [isSpace, Bool.or_eq_true, beq_iff_eq] at hspace
  rcases hspace with ((rfl | rfl) | rfl) | rfl <;> exact absurd hc (by decide)

theorem taken_read_of_beginsNumber {c : Char} (hc : BeginsNumber c) (t : List Char) :
    taken (read (c :: t)) = taken (ofNumber (c :: t)) := by
  have hother : ∀ d, ¬ BeginsNumber d → c ≠ d := fun d => ne_of_beginsNumber hc
  rw [taken_read, skipSpace_cons (isSpace_of_beginsNumber hc)]
  dsimp only
  rw [if_neg (hother '"' (by decide)), if_neg (hother '[' (by decide)),
    if_neg (hother '\x7b' (by decide)), if_neg (hother 'n' (by decide)),
    if_neg (hother 't' (by decide)), if_neg (hother 'f' (by decide)),
    if_pos (show c = '-' ∨ c.isDigit = true from hc)]

theorem exists_head_of_number {numeral : Numeral} (h : numeral.Whole) :
    ∃ c t, numeral.chars = c :: t ∧ BeginsNumber c := by
  obtain ⟨negative, whole, fraction, power⟩ := numeral
  cases negative with
  | true => exact ⟨_, _, rfl, .inl rfl⟩
  | false =>
    obtain ⟨c, t, rfl⟩ := List.exists_cons_of_ne_nil h.whole.1
    exact ⟨c, _, rfl, .inr (h.whole.2 c List.mem_cons_self)⟩

/-- The first sign of a document in writing is no blank, and closes nothing. -/
theorem Whole.exists_head {d : Document} (h : d.Whole) :
    ∃ c t, d.chars = c :: t ∧ isSpace c = false ∧ c ≠ ']' := by
  cases h with
  | null => exact ⟨_, _, rfl, by decide⟩
  | bool value => cases value <;> exact ⟨_, _, rfl, by decide⟩
  | string h => exact ⟨_, _, rfl, by decide⟩
  | array h => exact ⟨_, _, rfl, by decide⟩
  | object hkeys hvalues => exact ⟨_, _, rfl, by decide⟩
  | number h =>
    obtain ⟨c, t, hchars, hc⟩ := exists_head_of_number h
    exact ⟨c, t, hchars, isSpace_of_beginsNumber hc, ne_of_beginsNumber hc (by decide)⟩

/-- What may stand behind an item or a member. -/
theorem stops_of_mark {c : Char} (h : c ∈ [',', ']', '\x7d', ':']) (rest : List Char) :
    Numeral.Stops (c :: rest) := by
  intro d hd
  cases hd
  simp only [List.mem_cons, List.not_mem_nil, or_false] at h
  rcases h with rfl | rfl | rfl | rfl <;> decide

/-- The document is read as itself, whatever stands behind it. -/
def ReadsBack (d : Document) : Prop :=
  ∀ rest, Numeral.Stops rest → taken (read (d.chars ++ rest)) = (d, some rest)

theorem takenAll_readItems {items : List Document} (hne : items ≠ [])
    (hwhole : ∀ item ∈ items, Whole item) (h : ∀ item ∈ items, ReadsBack item)
    (rest : List Char) :
    takenAll (readItems (charsItems items ++ ']' :: rest)) = (items, .closed, some rest) := by
  induction items with
  | nil => exact absurd rfl hne
  | cons item items ih =>
    obtain ⟨hitem, hitems⟩ := List.forall_mem_cons.mp h
    obtain ⟨-, hwholes⟩ := List.forall_mem_cons.mp hwhole
    cases items with
    | nil =>
      have hread := hitem (']' :: rest) (stops_of_mark (by decide) rest)
      rw [charsItems, taken_readItems, hread]
      rfl
    | cons next items =>
      have hread := hitem (',' :: (charsItems (next :: items) ++ ']' :: rest))
        (stops_of_mark (by decide) _)
      have hgoes : (skipSpace (charsItems (next :: items) ++ ']' :: rest)).head? ≠ some ']' := by
        obtain ⟨c, t, hchars, hspace, hc⟩ := (hwholes next List.mem_cons_self).exists_head
        cases items <;>
          simp [charsItems, hchars, skipSpace_cons hspace, hc]
      rw [charsItems, List.append_assoc, List.cons_append, taken_readItems, hread]
      · dsimp only
        rw [skipSpace_cons (by decide)]
        dsimp only
        rw [if_neg (by decide), if_pos rfl, if_neg hgoes,
          ih (List.cons_ne_nil _ _) hwholes hitems]
        rfl
      · simp

theorem taken_readMember_chars {literal : Literal} (hliteral : literal.Whole) {d : Document}
    (h : ReadsBack d) {rest : List Char} (hrest : Numeral.Stops rest) :
    taken (readMember ((string literal).chars ++ ':' :: (d.chars ++ rest))) =
      ((.string literal, d), some rest) := by
  rw [taken_readMember, taken_read_string hliteral]
  dsimp only
  rw [skipSpace_cons (by decide)]
  dsimp only
  rw [if_pos rfl, h rest hrest]
  rfl

theorem charsMembers_cons (m : Document × Document) (members : List (Document × Document)) :
    charsMembers (m :: members) = m.1.chars ++ ':' :: (m.2.chars ++
      if members = [] then [] else ',' :: charsMembers members) := by
  cases members <;> simp [charsMembers]

theorem takenAll_readMembers {members : List (Document × Document)} (hne : members ≠ [])
    (hkeys : ∀ m ∈ members, ∃ literal : Literal, literal.Whole ∧ m.1 = .string literal)
    (h : ∀ m ∈ members, ReadsBack m.2) (rest : List Char) :
    takenAll (readMembers (charsMembers members ++ '\x7d' :: rest)) =
      (members, .closed, some rest) := by
  induction members with
  | nil => exact absurd rfl hne
  | cons m members ih =>
    obtain ⟨hm, hmembers⟩ := List.forall_mem_cons.mp h
    obtain ⟨⟨literal, hliteral, hkey⟩, hothers⟩ := List.forall_mem_cons.mp hkeys
    have hread : ∀ rest, Numeral.Stops rest →
        taken (readMember (m.1.chars ++ ':' :: (m.2.chars ++ rest))) = (m, some rest) := by
      intro rest hrest
      rw [hkey, taken_readMember_chars hliteral hm hrest, ← hkey]
    rw [charsMembers_cons, List.append_assoc, List.cons_append, List.append_assoc]
    cases members with
    | nil =>
      rw [if_pos rfl, List.nil_append, taken_readMembers,
        hread _ (stops_of_mark (by decide) rest)]
      rfl
    | cons next members =>
      have hgoes : (skipSpace (charsMembers (next :: members) ++ '\x7d' :: rest)).head? =
          some '"' := by
        obtain ⟨literal', -, hkey'⟩ := hothers next List.mem_cons_self
        rw [charsMembers_cons, hkey', chars, Literal.chars]
        rfl
      rw [if_neg (List.cons_ne_nil _ _), List.cons_append, taken_readMembers,
        hread _ (stops_of_mark (by decide) _)]
      dsimp only
      rw [skipSpace_cons (by decide)]
      dsimp only
      rw [if_neg (by decide), if_pos rfl, hgoes]
      dsimp only
      rw [if_neg (by decide), ih (List.cons_ne_nil _ _) hothers hmembers]
      rfl

/-- A list is read as itself if its items are. -/
theorem readsBack_array {items : List Document} (hwhole : ∀ item ∈ items, Whole item)
    (h : ∀ item ∈ items, ReadsBack item) : ReadsBack (.array items .closed) := by
  intro rest _
  rw [chars, List.cons_append, List.cons_append, List.append_assoc, taken_read,
    skipSpace_cons (by decide)]
  dsimp only
  rw [if_neg (by decide), if_pos rfl]
  cases items with
  | nil => rfl
  | cons item items =>
    have hitems := takenAll_readItems (List.cons_ne_nil item items) hwhole h rest
    obtain ⟨c, t, hchars, hspace, hc⟩ := (hwhole item List.mem_cons_self).exists_head
    obtain ⟨u, hu⟩ : ∃ u, charsItems (item :: items) ++ ([']'] ++ rest) = c :: u := by
      cases items <;> simp [charsItems, hchars]
    rw [List.singleton_append] at hu ⊢
    rw [hu] at hitems ⊢
    rw [skipSpace_cons hspace]
    dsimp only
    rw [if_neg hc]
    simp only [takenAll, Prod.mk.injEq] at hitems
    rw [hitems.1, hitems.2.1, hitems.2.2]

/-- A record is read as itself if the values under its keys are. -/
theorem readsBack_object {members : List (Document × Document)}
    (hkeys : ∀ m ∈ members, ∃ literal : Literal, literal.Whole ∧ m.1 = .string literal)
    (h : ∀ m ∈ members, ReadsBack m.2) : ReadsBack (.object members .closed) := by
  intro rest _
  rw [chars, List.cons_append, List.cons_append, List.append_assoc, taken_read,
    skipSpace_cons (by decide)]
  dsimp only
  rw [if_neg (by decide), if_neg (by decide), if_pos rfl]
  cases members with
  | nil => rfl
  | cons m members =>
    have hmembers := takenAll_readMembers (List.cons_ne_nil m members) hkeys h rest
    obtain ⟨u, hu⟩ : ∃ u, charsMembers (m :: members) ++ (['\x7d'] ++ rest) = '"' :: u := by
      obtain ⟨literal, -, hkey⟩ := hkeys m List.mem_cons_self
      rw [charsMembers_cons, hkey, chars, Literal.chars]
      exact ⟨_, rfl⟩
    rw [List.singleton_append] at hu ⊢
    rw [hu] at hmembers ⊢
    rw [skipSpace_cons (by decide)]
    dsimp only
    rw [if_neg (by decide)]
    simp only [takenAll, Prod.mk.injEq] at hmembers
    rw [hmembers.1, hmembers.2.1, hmembers.2.2]

/-- **A whole document in writing is read as itself**, whatever stands behind it. -/
theorem Whole.readsBack {d : Document} (h : d.Whole) : ReadsBack d := by
  induction h with
  | null =>
    intro rest _
    exact (taken_read _).trans (taken_ofWord .null ['u', 'l', 'l'] rest)
  | bool value =>
    intro rest _
    cases value with
    | true => exact (taken_read _).trans (taken_ofWord (.bool true) ['r', 'u', 'e'] rest)
    | false => exact (taken_read _).trans (taken_ofWord (.bool false) ['a', 'l', 's', 'e'] rest)
  | number h =>
    intro rest hrest
    have hnumber := taken_ofNumber h hrest
    obtain ⟨c, t, hchars, hc⟩ := exists_head_of_number h
    rw [hchars, List.cons_append] at hnumber
    rw [chars, hchars, List.cons_append, taken_read_of_beginsNumber hc]
    exact hnumber
  | string h =>
    intro rest _
    exact taken_read_string h rest
  | array hwhole ih => exact readsBack_array hwhole ih
  | object hkeys _ ih => exact readsBack_object hkeys ih

/-- **The text of a whole document holds that document.** -/
theorem Whole.heldBy_text {d : Document} (h : d.Whole) : d.HeldBy d.text := by
  refine ⟨[], ?_, rfl⟩
  have hread := h.readsBack [] (fun c hc => by cases hc)
  rwa [List.append_nil, ← String.toList_ofList (l := d.chars)] at hread

/-- A decoder gets the document that the text holds. -/
theorem parse_eq_of_heldBy {ε α : Type} {ofFault : Fault → ε} {decoder : Document → Except ε α}
    {d : Document} {text : String} (h : d.HeldBy text) :
    parse ofFault decoder text = decoder d := by
  obtain ⟨rest, hread, hrest⟩ := h
  rw [parse]
  cases hr : read text.toList with
  | mk document after =>
    rw [hr] at hread
    cases after with
    | none => cases hread
    | some after =>
      cases hread
      have hblank : skipSpace after.1 = [] := hrest
      cases hdecoder : decoder document with
      | error e => simp [hdecoder, bind, Except.bind]
      | ok a => simp [hdecoder, bind, Except.bind, hblank]

end Document

end FilterQuery.Json
