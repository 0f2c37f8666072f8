import FilterQuery.Json.Literal

/-!
# JSON documents

A document is what can be made out of a text: a value, or a value up to the place where the text
breaks off.  The break keeps its place in the document, at the end of every list and object around
it, so whoever reads a document from left to right meets a fault of the text exactly where it stands
among the values, and never looks behind a fault of its own.

`Document.read` makes the document at the front of a text and gives the text after it, if the
document is whole.
-/

namespace FilterQuery.Json

/-- Where a value should stand and none does; `atEnd` if it is because the text ends. -/
inductive Break
  /-- No value begins with the next character. -/
  | value (atEnd : Bool)
  /-- One of the words `null`, `true`, `false` is not finished. -/
  | word (atEnd : Bool)
  /-- A number is not finished. -/
  | number (atEnd : Bool)
  /-- No colon stands before the value. -/
  | colon (atEnd : Bool)
  deriving DecidableEq, Repr

/-- How a list or an object ends. -/
inductive Closing
  /-- With its bracket. -/
  | closed
  /-- Not at all, as the text ends after the opening bracket or a value. -/
  | textEnds
  /-- At a character that is neither a comma nor the closing bracket. -/
  | stray
  /-- With its bracket right after a comma. -/
  | afterComma
  /-- Not at all, as the text ends after a comma. -/
  | endsAfterComma
  /-- Inside its last member, where the text breaks off. -/
  | inside
  deriving DecidableEq, Repr

/-- What can be made out of a text.  The keys of an object are documents too, since anything may
stand in their place. -/
inductive Document
  | null
  | bool (value : Bool)
  | number (numeral : Numeral)
  | string (literal : Literal)
  | array (items : List Document) (closing : Closing)
  | object (members : List (Document × Document)) (closing : Closing)
  | broken (cause : Break)

/-- A blank between the signs of JSON. -/
def isSpace (c : Char) : Bool := c == ' ' || c == '\n' || c == '\t' || c == '\r'

/-- The text from the first sign on. -/
def skipSpace (s : List Char) : List Char := s.dropWhile isSpace

theorem length_skipSpace_le (s : List Char) : (skipSpace s).length ≤ s.length :=
  (List.dropWhile_suffix isSpace).length_le

namespace Document

/-- The text after a whole document at the front of `s`: a shorter one. -/
abbrev Rest (s : List Char) : Type := Option { rest : List Char // rest.length < s.length }

/-- The text after a document at the front of a part of `s`. -/
def Rest.within {s t : List Char} (h : t.length ≤ s.length) (rest : Rest t) : Rest s :=
  rest.map fun r => ⟨r.1, Nat.lt_of_lt_of_le r.2 h⟩

/-- Takes a word off the front of `s`. -/
def word (letters : List Char) (s : List Char) : Except Break (List Char) :=
  match letters, s with
  | [], s => .ok s
  | _ :: _, [] => .error (.word true)
  | l :: letters, c :: s => if c = l then word letters s else .error (.word false)

theorem length_word_le {letters s rest : List Char} (h : word letters s = .ok rest) :
    rest.length ≤ s.length := by
  fun_induction word letters s with
  | case1 => cases h; exact Nat.le_refl _
  | case2 => cases h
  | case3 l letters s ih => exact Nat.le_succ_of_le (ih h)
  | case4 => cases h

/-- The document of a word whose first letter is taken. -/
def ofWord (whole : Document) (letters s : List Char) : Document × Rest (' ' :: s) :=
  match h : word letters s with
  | .ok rest => (whole, some ⟨rest, Nat.lt_succ_of_le (length_word_le h)⟩)
  | .error cause => (.broken cause, none)

/-- The document of a string whose opening quote is taken. -/
def ofString (s : List Char) : Document × Rest (' ' :: s) :=
  let p := Literal.read s
  (.string p.1,
    if p.1.ending = .closed then some ⟨p.2, Nat.lt_succ_of_le (Literal.length_read_le s)⟩ else none)

/-- The document of a number. -/
def ofNumber (s : List Char) : Document × Rest s :=
  match Numeral.read s with
  | .ok (numeral, rest) =>
    (.number numeral, if h : rest.length < s.length then some ⟨rest, h⟩ else none)
  | .error cut => (.broken (.number cut.atEnd), none)

mutual

/-- The document at the front of a text. -/
def read (s : List Char) : Document × Rest s :=
  match h : skipSpace s with
  | [] => (.broken (.value true), none)
  | c :: t =>
    have ht : (c :: t).length ≤ s.length := h ▸ length_skipSpace_le s
    if c = '"' then (ofString t).map id (Rest.within ht)
    else if c = '[' then
      match h' : skipSpace t with
      | [] => (.array [] .textEnds, none)
      | d :: u =>
        have hu : (d :: u).length ≤ t.length := h' ▸ length_skipSpace_le t
        if d = ']' then
          (.array [] .closed, some ⟨u, by simp only [List.length_cons] at ht hu; omega⟩)
        else
          let (items, closing, rest) := readItems t
          (.array items closing, rest.within (Nat.le_of_succ_le ht))
    else if c = '\x7b' then
      match h' : skipSpace t with
      | [] => (.object [] .textEnds, none)
      | d :: u =>
        have hu : (d :: u).length ≤ t.length := h' ▸ length_skipSpace_le t
        if d = '\x7d' then
          (.object [] .closed, some ⟨u, by simp only [List.length_cons] at ht hu; omega⟩)
        else
          let (members, closing, rest) := readMembers t
          (.object members closing, rest.within (Nat.le_of_succ_le ht))
    else if c = 'n' then (ofWord .null ['u', 'l', 'l'] t).map id (Rest.within ht)
    else if c = 't' then (ofWord (.bool true) ['r', 'u', 'e'] t).map id (Rest.within ht)
    else if c = 'f' then (ofWord (.bool false) ['a', 'l', 's', 'e'] t).map id (Rest.within ht)
    else if c = '-' ∨ c.isDigit then (ofNumber (c :: t)).map id (Rest.within ht)
    else (.broken (.value false), none)
termination_by (s.length, 0)
decreasing_by all_goals exact .left _ _ ht

/-- The items of a list from the first one on, how the list ends, and the text after it. -/
def readItems (s : List Char) : List Document × Closing × Rest s :=
  match read s with
  | (item, none) => ([item], .inside, none)
  | (item, some ⟨t, ht⟩) =>
    match h : skipSpace t with
    | [] => ([item], .textEnds, none)
    | c :: u =>
      have hu : (c :: u).length ≤ t.length := h ▸ length_skipSpace_le t
      if c = ']' then
        ([item], .closed, some ⟨u, by simp only [List.length_cons] at hu; omega⟩)
      else if c = ',' then
        if (skipSpace u).head? = some ']' then ([item], .afterComma, none)
        else
          let (items, closing, rest) := readItems u
          (item :: items, closing,
            rest.within (by simp only [List.length_cons] at hu; omega))
      else ([item], .stray, none)
termination_by (s.length, 1)
decreasing_by
  · exact .right _ Nat.zero_lt_one
  · exact .left _ _ (Nat.lt_trans hu ht)

/-- The member at the front of a text, key and value, and the text after it. -/
def readMember (s : List Char) : (Document × Document) × Rest s :=
  match read s with
  | (.string literal, some ⟨t, ht⟩) =>
    match h : skipSpace t with
    | [] => ((.string literal, .broken (.colon true)), none)
    | c :: u =>
      have hu : (c :: u).length ≤ t.length := h ▸ length_skipSpace_le t
      if c = ':' then
        let (value, rest) := read u
        ((.string literal, value),
          rest.within (by simp only [List.length_cons] at hu; omega))
      else ((.string literal, .broken (.colon false)), none)
  | (key, _) => ((key, .broken (.colon true)), none)
termination_by (s.length, 1)
decreasing_by
  · exact .right _ Nat.zero_lt_one
  · exact .left _ _ (Nat.lt_trans hu ht)

/-- The members of an object from the first one on, how the object ends, and the text after it. -/
def readMembers (s : List Char) : List (Document × Document) × Closing × Rest s :=
  match readMember s with
  | (member, none) => ([member], .inside, none)
  | (member, some ⟨t, ht⟩) =>
    match h : skipSpace t with
    | [] => ([member], .textEnds, none)
    | c :: u =>
      have hu : (c :: u).length ≤ t.length := h ▸ length_skipSpace_le t
      if c = '\x7d' then
        ([member], .closed, some ⟨u, by simp only [List.length_cons] at hu; omega⟩)
      else if c = ',' then
        match (skipSpace u).head? with
        | none => ([member], .endsAfterComma, none)
        | some d =>
          if d = '\x7d' then ([member], .afterComma, none)
          else
            let (members, closing, rest) := readMembers u
            (member :: members, closing,
              rest.within (by simp only [List.length_cons] at hu; omega))
      else ([member], .stray, none)
termination_by (s.length, 2)
decreasing_by
  · exact .right _ Nat.one_lt_two
  · exact .left _ _ (Nat.lt_trans hu ht)

end

end Document

end FilterQuery.Json
