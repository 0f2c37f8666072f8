import FilterQuery.Operator

/-!
# What can be wrong with a clause
-/

namespace FilterQuery.Clause

/-- Why a clause has no meaning. -/
inductive Fault
  /-- It has neither `:` nor `__`. -/
  | missingSeparator
  /-- Nothing, or only blanks, stand before the separator. -/
  | emptyAlias
  /-- A `__` opens a directive and no second one closes it. -/
  | unterminatedOperator
  /-- The directive holds no code of an operator. -/
  | unknownOperator (code : String)
  /-- The value has not the shape that the operator asks for. -/
  | shapeMismatch (op : Operator)
  deriving DecidableEq, Repr

/-- The fault in words. -/
def Fault.message : Fault → String
  | .missingSeparator => "missing `:` or `__op__` separator"
  | .emptyAlias => "empty field alias"
  | .unterminatedOperator => "operator directive is not closed with `__`"
  | .unknownOperator code => "unknown operator code `" ++ code ++ "`"
  | .shapeMismatch op => "operator " ++ op.name ++ " expects a " ++ op.arity.wording ++ " value"

end FilterQuery.Clause
