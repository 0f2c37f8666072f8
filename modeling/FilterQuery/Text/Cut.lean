/-!
# Cutting text apart

A query is cut at single characters, a clause and a field path also at the mark `__`.  All cuts go
from left to right, and two marks never share a character: `a___b` is cut before `_b`.

* `split`: the stretches between the occurrences of one character, empty ones included.
* `splitMark`: the same for the mark.
* `cutMark?`: the text before the first mark and the text after it.
* `byteLength`: the length of a text in UTF-8, the unit in which positions are told.
-/

namespace FilterQuery.Text

/-- The stretches between the characters `sep`; there is always at least one. -/
def split (sep : Char) : List Char → List (List Char)
  | [] => [[]]
  | c :: rest =>
    if c = sep then [] :: split sep rest else (split sep rest).modifyHead (c :: ·)

/-- The stretches between the marks `__`; there is always at least one. -/
def splitMark : List Char → List (List Char)
  | '_' :: '_' :: rest => [] :: splitMark rest
  | c :: rest => (splitMark rest).modifyHead (c :: ·)
  | [] => [[]]

/-- The text before the first mark `__` and the text after it, if there is a mark. -/
def cutMark? : List Char → Option (List Char × List Char)
  | '_' :: '_' :: rest => some ([], rest)
  | c :: rest => (cutMark? rest).map fun cut => (c :: cut.1, cut.2)
  | [] => none

/-- The stretches joined again, with `sep` between them. -/
def join (sep : List Char) : List (List Char) → List Char
  | [] => []
  | [s] => s
  | s :: rest => s ++ sep ++ join sep rest

/-- The texts with a comma and a blank between them. -/
def listed (texts : List (List Char)) : List Char := join [',', ' '] texts

/-- The number of bytes of the text in UTF-8. -/
def byteLength (s : List Char) : Nat := s.foldr (fun c n => c.utf8Size + n) 0

example : splitMark "a___b__".toList = ["a".toList, "_b".toList, []] := by decide

example : split '+' "+a++b".toList = [[], "a".toList, [], "b".toList] := by decide

end FilterQuery.Text
