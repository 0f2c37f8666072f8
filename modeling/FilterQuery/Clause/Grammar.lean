import FilterQuery.Clause.Basic

/-!
# The grammar of clauses

`Clause.read` goes through a clause from left to right.  Here it is said what there is to be found,
without a way to find it.

* `HasForm`: the first `:` or `__` stands behind the alias.  A mark that begins with the last
  character of the alias would come before it, so the text before a mark is looked at together with
  the first character of the mark.
* `Cuts`: the alias, the code between two marks if there is one, and the value.
* `Lists`: the items between list brackets.
* `Reads`: what the clause is read as, a clause or one of the five faults.

The rules of `Reads` exclude each other: each says in its premises that the faults before it are not
there.
-/

namespace FilterQuery.Clause

/-- The text has this form: its first separator is the one that the form is cut at. -/
inductive HasForm : List Char → Form → Prop
  | plain {aliasText value : List Char} (hcolon : ':' ∉ aliasText)
      (hmark : ¬ ['_', '_'] <:+: aliasText) :
      HasForm (aliasText ++ ':' :: value) (.plain aliasText value)
  | directive {aliasText rest : List Char} (hcolon : ':' ∉ aliasText)
      (hmark : ¬ ['_', '_'] <:+: aliasText ++ ['_']) :
      HasForm (aliasText ++ '_' :: '_' :: rest) (.directive aliasText rest)

/-- The text consists of these parts: an alias, a code or none, and a value. -/
inductive Cuts (text : List Char) : List Char × Option (List Char) × List Char → Prop
  | plain {aliasText value : List Char} (h : HasForm text (.plain aliasText value)) :
      Cuts text (aliasText, none, value)
  | directive {aliasText code value : List Char}
      (h : HasForm text (.directive aliasText (code ++ '_' :: '_' :: value)))
      (hclosed : ¬ ['_', '_'] <:+: code ++ ['_']) :
      Cuts text (aliasText, some code, value)

/-- The text stands between list brackets. -/
def Bracketed (marks : Punctuation) (text : List Char) : Prop :=
  ∃ inner, text = marks.listOpen :: inner ++ [marks.listClose]

/-- The text is a list in brackets with these items. -/
inductive Lists (marks : Punctuation) : List Char → List (List Char) → Prop
  /-- Blanks in brackets are a list without items. -/
  | empty {inner : List Char} (hblank : Text.isAllBlank inner = true) :
      Lists marks (marks.listOpen :: inner ++ [marks.listClose]) []
  /-- The stretches between the delimiters are the items, trimmed, with repetitions. -/
  | items {stretches : List (List Char)} (hfree : ∀ s ∈ stretches, marks.delimiter ∉ s)
      (hblank : Text.isAllBlank (Text.join [marks.delimiter] stretches) = false) :
      Lists marks
        (marks.listOpen :: Text.join [marks.delimiter] stretches ++ [marks.listClose])
        (stretches.map Text.trim)

/-- The text gives this value to an operator of this arity. -/
inductive Gives (marks : Punctuation) (raw : List Char) : Arity → Value → Prop
  | scalar (h : ¬ Bracketed marks raw) : Gives marks raw .scalar (.scalar (String.ofList raw))
  | list {items : List (List Char)} (h : Lists marks raw items) :
      Gives marks raw .list (.list (items.map String.ofList))
  | pair {items : List (List Char)} (h : Lists marks raw items) (htwo : items.length = 2) :
      Gives marks raw .pair (.list (items.map String.ofList))

/-- The text gives no value to an operator of this arity. -/
def Misshapen (marks : Punctuation) (raw : List Char) : Arity → Prop
  | .scalar => Bracketed marks raw
  | .list => ¬ Bracketed marks raw
  | .pair => ¬ ∃ items, Lists marks raw items ∧ items.length = 2

/-- A clause with this code, or without one, is about this operator. -/
inductive Names (standard : Operator) : Option (List Char) → Operator → Prop
  | standard : Names standard none standard
  | code {op : Operator} (h : op ≠ .range) : Names standard (some op.code.toList) op

/-- What the text of a clause is read as. -/
inductive Reads (marks : Punctuation) (standard : Operator) (text : List Char) :
    Except Fault Clause → Prop
  | missingSeparator (hcolon : ':' ∉ text) (hmark : ¬ ['_', '_'] <:+: text) :
      Reads marks standard text (.error .missingSeparator)
  | unterminatedOperator {aliasText rest : List Char}
      (hform : HasForm text (.directive aliasText rest)) (hopen : ¬ ['_', '_'] <:+: rest) :
      Reads marks standard text (.error .unterminatedOperator)
  | emptyAlias {aliasText raw : List Char} {code : Option (List Char)}
      (hcut : Cuts text (aliasText, code, raw)) (hblank : Text.isAllBlank aliasText = true) :
      Reads marks standard text (.error .emptyAlias)
  | unknownOperator {aliasText code raw : List Char}
      (hcut : Cuts text (aliasText, some code, raw)) (halias : Text.isAllBlank aliasText = false)
      (hcode : ∀ op, ¬ Names standard (some code) op) :
      Reads marks standard text (.error (.unknownOperator (String.ofList code)))
  | shapeMismatch {aliasText raw : List Char} {code : Option (List Char)} {op : Operator}
      (hcut : Cuts text (aliasText, code, raw)) (halias : Text.isAllBlank aliasText = false)
      (hop : Names standard code op) (hshape : Misshapen marks raw op.arity) :
      Reads marks standard text (.error (.shapeMismatch op))
  | clause {aliasText raw : List Char} {code : Option (List Char)} {op : Operator} {value : Value}
      (hcut : Cuts text (aliasText, code, raw)) (halias : Text.isAllBlank aliasText = false)
      (hop : Names standard code op) (hvalue : Gives marks raw op.arity value) :
      Reads marks standard text (.ok ⟨String.ofList (Text.trim aliasText), op, value⟩)

end FilterQuery.Clause
