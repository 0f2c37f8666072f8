import FilterQuery.Clause.Fault
import FilterQuery.Clause.Punctuation
import FilterQuery.Text.Blank
import FilterQuery.Text.Cut
import FilterQuery.Value

/-!
# Clauses

A clause is `alias:value`, with the operator left to the definition, or `alias__code__value`.  The
first `:` or `__` decides which, so an alias holds neither.  The alias is trimmed; the value is all
the rest.  A value between the list brackets is a list, cut at the delimiter and trimmed item by
item; any other value is a string and stays untouched.

`Clause.read` gives the clause or the first fault, in the order: form, alias, code, shape.
-/

namespace FilterQuery

/-- What a client asks of one alias. -/
structure Clause where
  aliasName : String
  op : Operator
  value : Value
  deriving DecidableEq, Repr

namespace Clause

/-- The two forms of a clause, cut at the first separator. -/
inductive Form
  /-- `alias:value`. -/
  | plain (aliasText value : List Char)
  /-- `alias__rest`, where the rest is still to be cut at the closing mark. -/
  | directive (aliasText rest : List Char)
  deriving DecidableEq, Repr

/-- The form of `c` followed by a text of this form, when `c` belongs to the alias. -/
def Form.push (c : Char) : Form → Form
  | .plain aliasText value => .plain (c :: aliasText) value
  | .directive aliasText rest => .directive (c :: aliasText) rest

/-- Cuts a clause at the first `:` or `__`. -/
def form? : List Char → Option Form
  | ':' :: rest => some (.plain [] rest)
  | '_' :: '_' :: rest => some (.directive [] rest)
  | c :: rest => (form? rest).map (Form.push c)
  | [] => none

/-- The alias, the code if there is one, and the value of a clause, none of them looked into. -/
def parts (text : List Char) : Except Fault (List Char × Option (List Char) × List Char) :=
  match form? text with
  | none => .error .missingSeparator
  | some (.plain aliasText value) => .ok (aliasText, none, value)
  | some (.directive aliasText rest) =>
    match Text.cutMark? rest with
    | none => .error .unterminatedOperator
    | some (code, value) => .ok (aliasText, some code, value)

/-- The text between the list brackets, if the text starts and ends with them. -/
def unbracket? (marks : Punctuation) : List Char → Option (List Char)
  | [] => none
  | c :: rest =>
    if c = marks.listOpen ∧ rest.getLast? = some marks.listClose then some rest.dropLast else none

/-- The items of a bracketed list, trimmed.  Brackets around blanks hold no item at all. -/
def listItems? (marks : Punctuation) (raw : List Char) : Option (List (List Char)) :=
  (unbracket? marks raw).map fun inner =>
    if Text.isAllBlank inner then [] else (Text.split marks.delimiter inner).map Text.trim

/-- The value that a text stands for: a list if it is bracketed, else the text itself. -/
def valueOf (marks : Punctuation) (raw : List Char) : Value :=
  match listItems? marks raw with
  | some items => .list (items.map String.ofList)
  | none => .scalar (String.ofList raw)

/-- The operator that a clause names, or the one that stands where it names none. -/
def operatorOf (standard : Operator) : Option (List Char) → Except Fault Operator
  | none => .ok standard
  | some code =>
    match Operator.ofClauseCode? (String.ofList code) with
    | some op => .ok op
    | none => .error (.unknownOperator (String.ofList code))

/-- Reads a clause; `standard` is the operator of the form `alias:value`. -/
def read (marks : Punctuation) (standard : Operator) (text : String) : Except Fault Clause :=
  match parts text.toList with
  | .error fault => .error fault
  | .ok (aliasText, code, raw) =>
    let trimmed := Text.trim aliasText
    if trimmed.isEmpty then .error .emptyAlias
    else
      match operatorOf standard code with
      | .error fault => .error fault
      | .ok op =>
        let value := valueOf marks raw
        if value.fits op.arity then .ok ⟨String.ofList trimmed, op, value⟩
        else .error (.shapeMismatch op)

example : read {} .equals " name __in__[Python, Ruby]" =
    .ok ⟨"name", .isIn, .list ["Python", "Ruby"]⟩ := by rfl

example : read {} .equals "a:b__c" = .ok ⟨"a", .equals, .scalar "b__c"⟩ := by rfl

end Clause

end FilterQuery
