import FilterQuery.Text.Cut

/-!
# The pieces of a query

A query is cut at every separator; what stands between two separators is a piece, and where nothing
stands there is none.  A piece knows where it was cut out, in bytes of UTF-8, so that a message can
point at it.
-/

namespace FilterQuery

/-- A place in a query: the bytes from `start` up to `stop`. -/
structure Span where
  start : Nat
  stop : Nat
  deriving DecidableEq, Repr

namespace Span

/-- The printed form `start..stop`. -/
def display (span : Span) : String := toString span.start ++ ".." ++ toString span.stop

/-- The same place when `n` bytes are put in front. -/
def shift (n : Nat) (span : Span) : Span := ⟨span.start + n, span.stop + n⟩

end Span

/-- A stretch of a query, with its place. -/
structure Piece where
  text : String
  span : Span
  deriving DecidableEq, Repr

namespace Piece

/-- The pieces of the text `s` that starts at byte `start`. -/
def scan (separator : Char) (start : Nat) (s : List Char) : List Piece :=
  match s with
  | [] => []
  | c :: rest =>
    if c = separator then scan separator (start + c.utf8Size) rest
    else
      let word := c :: rest.takeWhile (· ≠ separator)
      let stop := start + Text.byteLength word
      ⟨String.ofList word, ⟨start, stop⟩⟩ ::
        scan separator stop (rest.dropWhile (· ≠ separator))
termination_by s.length
decreasing_by
  · simp
  · have := (List.dropWhile_suffix (l := rest) (· ≠ separator)).length_le
    simp only [List.length_cons]
    omega

/-- The pieces of a query, in order. -/
def all (separator : Char) (query : String) : List Piece := scan separator 0 query.toList

end Piece

end FilterQuery
