import FilterQuery.Value

/-!
# Predicates

A predicate compares one field of the backing store with a value.  Nothing ties the value's shape to
the operator here, since predicates may be made by hand; `WellShaped` is the property that they fit.
-/

namespace FilterQuery

/-- One comparison: the canonical field, the operator, and the value. -/
structure Predicate where
  field : String
  op : Operator
  value : Value
  deriving DecidableEq, Repr

namespace Predicate

/-- The value has the shape that the operator asks for. -/
def WellShaped (p : Predicate) : Prop := p.value.fits p.op.arity = true

instance (p : Predicate) : Decidable p.WellShaped := inferInstanceAs (Decidable (_ = true))

/-- The printed form `OPERATOR(field, value)`; the field stands as it is. -/
def chars (p : Predicate) : List Char :=
  p.op.name.toList ++ '(' :: p.field.toList ++ ',' :: ' ' :: p.value.chars ++ [')']

/-- The printed form as a string. -/
def display (p : Predicate) : String := String.ofList p.chars

end Predicate

end FilterQuery
