/-!
# Operators

The nine comparisons a leaf can make.  Eight of them have a code that a client may write in a
clause; `range` is for the server's own predicates and is told apart by `ofClauseCode?` alone.
Each operator asks for values of one shape, its arity.
-/

namespace FilterQuery

/-- The shape of the values that an operator compares with. -/
inductive Arity
  /-- One string. -/
  | scalar
  /-- Any number of strings. -/
  | list
  /-- A lower and an upper bound. -/
  | pair
  deriving DecidableEq, Repr

/-- The shape in words, as it stands in messages. -/
def Arity.wording : Arity → String
  | .scalar => "scalar"
  | .list => "list"
  | .pair => "two-element list"

/-- A comparison between a field and a value. -/
inductive Operator
  | contains
  | equals
  | isIn
  | notIn
  | lessThan
  | lessOrEqual
  | greaterThan
  | greaterOrEqual
  | range
  deriving DecidableEq, Repr

namespace Operator

/-- All operators, in the order in which messages list them. -/
def all : List Operator :=
  [contains, equals, isIn, notIn, lessThan, lessOrEqual, greaterThan, greaterOrEqual, range]

/-- The short code. -/
def code : Operator → String
  | contains => "co"
  | equals => "eq"
  | isIn => "in"
  | notIn => "ni"
  | lessThan => "lt"
  | lessOrEqual => "lte"
  | greaterThan => "gt"
  | greaterOrEqual => "gte"
  | range => "range"

/-- The name in the printed form of a tree. -/
def name : Operator → String
  | contains => "CONTAINS"
  | equals => "EQUALS"
  | isIn => "IN"
  | notIn => "NOT_IN"
  | lessThan => "LESS_THAN"
  | lessOrEqual => "LESS_OR_EQUAL"
  | greaterThan => "GREATER_THAN"
  | greaterOrEqual => "GREATER_OR_EQUAL"
  | range => "BETWEEN"

/-- The shape of value that the operator takes. -/
def arity : Operator → Arity
  | isIn | notIn => .list
  | range => .pair
  | contains | equals | lessThan | lessOrEqual | greaterThan | greaterOrEqual => .scalar

/-- The operator with this code. -/
def ofCode? (code : String) : Option Operator := all.find? (·.code == code)

/-- The operator that a clause means by this code; there is none for `range`. -/
def ofClauseCode? (code : String) : Option Operator := (all.erase range).find? (·.code == code)

theorem ofCode?_code (op : Operator) : ofCode? op.code = some op := by cases op <;> decide

theorem ofClauseCode?_code {op : Operator} (h : op ≠ range) :
    ofClauseCode? op.code = some op := by
  cases op <;> first | rfl | exact absurd rfl h

end Operator

end FilterQuery
