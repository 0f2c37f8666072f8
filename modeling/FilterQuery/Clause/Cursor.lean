import FilterQuery.Clause.Piece

/-!
# Walking over pieces

`Piece.all` gives the pieces of a query at once.  A `PieceCursor` gives them one at a time: it knows
how many bytes of the query it has passed and what is left of it.  Each step goes over the
separators that come next and then over one stretch without separators, and the walk is over where
nothing is left behind the separators.

`Yields` says what a walk gives until it is over.  A walk that never came to its end would yield
nothing in this sense.
-/

namespace FilterQuery

/-- A place in a query: the number of bytes before it, and the text behind it. -/
structure PieceCursor where
  position : Nat
  rest : List Char
  deriving DecidableEq, Repr

namespace PieceCursor

/-- The place before a query. -/
def start (query : String) : PieceCursor := ⟨0, query.toList⟩

/-- The place behind the separators that come next. -/
def skip (separator : Char) (cursor : PieceCursor) : PieceCursor where
  position := cursor.position + Text.byteLength (cursor.rest.takeWhile (· = separator))
  rest := cursor.rest.dropWhile (· = separator)

/-- The next piece and the place behind it, or `none` at the end. -/
def next? (separator : Char) (cursor : PieceCursor) : Option (Piece × PieceCursor) :=
  let cursor := cursor.skip separator
  if cursor.rest.isEmpty then none
  else
    let word := cursor.rest.takeWhile (· ≠ separator)
    let stop := cursor.position + Text.byteLength word
    some (⟨String.ofList word, ⟨cursor.position, stop⟩⟩,
      ⟨stop, cursor.rest.dropWhile (· ≠ separator)⟩)

/-- The walk from here comes to its end, and these are the pieces on the way. -/
inductive Yields (separator : Char) : PieceCursor → List Piece → Prop
  | done {cursor : PieceCursor} (h : cursor.next? separator = none) : Yields separator cursor []
  | step {cursor after : PieceCursor} {piece : Piece} {pieces : List Piece}
      (h : cursor.next? separator = some (piece, after)) (hrest : Yields separator after pieces) :
      Yields separator cursor (piece :: pieces)

end PieceCursor

end FilterQuery
