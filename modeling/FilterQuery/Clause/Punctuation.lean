/-!
# Punctuation

The four characters with a meaning in a query.  The marks `:` and `__` inside a clause are fixed.
-/

namespace FilterQuery

/-- The characters between clauses and around and between list items. -/
structure Punctuation where
  separator : Char := '+'
  listOpen : Char := '['
  listClose : Char := ']'
  delimiter : Char := ','
  deriving DecidableEq, Repr

end FilterQuery
