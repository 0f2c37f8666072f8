import FilterQuery.Sql.Column
import FilterQuery.Tree.Basic

/-!
# Conditions

What stands after WHERE: comparisons of a column with literals, the two constants, and conditions
joined in pairs by AND and OR.
-/

namespace FilterQuery.Sql

/-- The comparisons between a column and one literal. -/
inductive Comparison
  | equal
  | less
  | lessOrEqual
  | greater
  | greaterOrEqual
  deriving DecidableEq, Repr

/-- The sign of a comparison. -/
def Comparison.sign : Comparison → String
  | .equal => "="
  | .less => "<"
  | .lessOrEqual => "<="
  | .greater => ">"
  | .greaterOrEqual => ">="

/-- A condition on a row. -/
inductive Condition
  | constant (value : Bool)
  | compare (column : Column) (comparison : Comparison) (literal : String)
  | like (column : Column) (pattern : String)
  | isIn (column : Column) (literals : List String)
  | notIn (column : Column) (literals : List String)
  | between (column : Column) (lower upper : String)
  | join (connective : Connective) (left right : Condition)
  deriving DecidableEq, Repr

/-- Conditions joined from the left; with none to join, the constant that changes no join. -/
def Condition.joinAll (connective : Connective) : List Condition → Condition
  | [] => .constant (connective == .and)
  | first :: rest => rest.foldl (.join connective) first

end FilterQuery.Sql
