import FilterQuery.Sql.Condition
import FilterQuery.Sql.Like

/-!
# From trees to conditions

Each leaf becomes one condition and each inner node the join of its children's.  A leaf whose value
has not the shape that its operator asks for has no condition; the first such leaf is the error.
-/

namespace FilterQuery

namespace Sql

/-- A predicate that cannot be a condition. -/
structure CompileError where
  predicate : Predicate
  deriving DecidableEq, Repr

namespace CompileError

/-- What is wrong with every such predicate. -/
def reason : String := "value shape does not match operator"

/-- The error in words. -/
def message (e : CompileError) : String :=
  "cannot compile " ++ e.predicate.display ++ ": " ++ reason

end CompileError

/-- The condition of one predicate.  Among no items nothing is found, so an empty list needs no
column. -/
def ofPredicate (p : Predicate) : Except CompileError Condition :=
  let column := Column.ofPath p.field
  match p.op, p.value with
  | .contains, .scalar text =>
    .ok (.like column (String.ofList (containing text.toList)))
  | .equals, .scalar text => .ok (.compare column .equal text)
  | .lessThan, .scalar text => .ok (.compare column .less text)
  | .lessOrEqual, .scalar text => .ok (.compare column .lessOrEqual text)
  | .greaterThan, .scalar text => .ok (.compare column .greater text)
  | .greaterOrEqual, .scalar text => .ok (.compare column .greaterOrEqual text)
  | .isIn, .list [] => .ok (.constant false)
  | .isIn, .list items => .ok (.isIn column items)
  | .notIn, .list [] => .ok (.constant true)
  | .notIn, .list items => .ok (.notIn column items)
  | .range, .list [lower, upper] => .ok (.between column lower upper)
  | _, _ => .error ⟨p⟩

mutual

/-- The condition of a tree, or its first predicate that has none. -/
def compile : Tree → Except CompileError Condition
  | .leaf p => ofPredicate p
  | .node connective ts => (compileAll ts).map (Condition.joinAll connective)

/-- The conditions of several trees, or the first predicate that has none. -/
def compileAll : List Tree → Except CompileError (List Condition)
  | [] => .ok []
  | t :: ts => do
    let first ← compile t
    let rest ← compileAll ts
    return first :: rest

end

end Sql

end FilterQuery
