import FilterQuery.Clause.Grammar

/-!
# Writing queries

How a client puts what it asks for into a query.  A clause has two written forms, and separators may
be put around and between the clauses at will, so a query is not one function of what is asked for:
`Clause.Written` and `Piece.Spaced` say which texts are right.

Not every value can be written.  `Value.Writable` leaves out what the punctuation would take for
something else: a string in list brackets, an item with a delimiter in it or with blanks around it,
and items that together are nothing but blanks.
-/

namespace FilterQuery

/-- The text of a list: the items with delimiters between them, in brackets. -/
def Clause.listText (marks : Punctuation) (items : List (List Char)) : List Char :=
  marks.listOpen :: Text.join [marks.delimiter] items ++ [marks.listClose]

/-- The text of a value in a clause. -/
def Value.written (marks : Punctuation) : Value → List Char
  | .scalar text => text.toList
  | .list items => Clause.listText marks (items.map String.toList)

/-- The value has this arity, and its text can be read as nothing else. -/
inductive Value.Writable (marks : Punctuation) : Arity → Value → Prop
  | scalar {text : String} (hseparator : marks.separator ∉ text.toList)
      (hbare : ¬ Clause.Bracketed marks text.toList) : Writable marks .scalar (.scalar text)
  | list {items : List String} (htrim : ∀ s ∈ items, Text.trim s.toList = s.toList)
      (hseparator : ∀ s ∈ items, marks.separator ∉ s.toList)
      (hdelimiter : ∀ s ∈ items, marks.delimiter ∉ s.toList)
      (hblank : items = [] ∨
        Text.isAllBlank (Text.join [marks.delimiter] (items.map String.toList)) = false) :
      Writable marks .list (.list items)

/-- The text is a way to write the clause: with the code of its operator, or without a code if the
operator is the standard one. -/
inductive Clause.Written (marks : Punctuation) (standard : Operator) (c : Clause) :
    List Char → Prop
  | plain (hop : c.op = standard) :
      Written marks standard c (c.aliasName.toList ++ ':' :: c.value.written marks)
  | directive (hop : c.op ≠ .range) (hcode : marks.separator ∉ c.op.code.toList) :
      Written marks standard c
        (c.aliasName.toList ++ '_' :: '_' :: c.op.code.toList ++
          '_' :: '_' :: c.value.written marks)

/-- The query consists of these texts, in order, with one separator or more between two of them and
any number at the ends. -/
inductive Piece.Spaced (separator : Char) : List (List Char) → List Char → Prop
  | nil : Spaced separator [] []
  | last (text : List Char) : Spaced separator [text] text
  | separator {texts : List (List Char)} {query : List Char} (h : Spaced separator texts query) :
      Spaced separator texts (separator :: query)
  | text (text : List Char) {texts : List (List Char)} {query : List Char}
      (h : Spaced separator texts query) :
      Spaced separator (text :: texts) (text ++ separator :: query)

end FilterQuery
