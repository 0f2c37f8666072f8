import FilterQuery.Operator
import FilterQuery.Text.Cut
import FilterQuery.Text.Quoted

/-!
# Values

A value is one string or a list of strings, and nothing looks inside the strings: dates and numbers
stay as the client wrote them.
-/

namespace FilterQuery

/-- What a field is compared with. -/
inductive Value
  | scalar (text : String)
  | list (items : List String)
  deriving DecidableEq, Repr

namespace Value

/-- Whether the value has the shape that `arity` asks for. -/
def fits : Value → Arity → Bool
  | .scalar _, .scalar => true
  | .list _, .list => true
  | .list items, .pair => items.length == 2
  | _, _ => false

/-- The printed form: a quoted string, or quoted strings in brackets. -/
def chars : Value → List Char
  | .scalar text => Text.quoted text.toList
  | .list items => '[' :: Text.listed (items.map fun item => Text.quoted item.toList) ++ [']']

/-- The printed form as a string. -/
def display (value : Value) : String := String.ofList value.chars

end Value

end FilterQuery
