import FilterQuery.Text.CodePoints

/-!
# Blank characters

What counts as blank around an alias or a list item is the Unicode property `White_Space`: more than
the ASCII blanks (U+00A0, U+2003 and U+3000 belong to it), and less than every invisible character
(U+200B and U+FEFF do not).  `trim` takes the blanks off both ends.
-/

namespace FilterQuery.Text

/-- The property `White_Space`. -/
def whiteSpace : CodePoints where
  ranges :=
    [(0x9, 0xD), (0x20, 0x20), (0x85, 0x85), (0xA0, 0xA0), (0x1680, 0x1680), (0x2000, 0x200A),
      (0x2028, 0x2029), (0x202F, 0x202F), (0x205F, 0x205F), (0x3000, 0x3000)]

/-- A blank character. -/
def isBlank (c : Char) : Bool := whiteSpace.contains c

/-- Without the blanks at the end. -/
def trimEnd (s : List Char) : List Char := (s.reverse.dropWhile isBlank).reverse

/-- Without the blanks at either end. -/
def trim (s : List Char) : List Char := trimEnd (s.dropWhile isBlank)

/-- Nothing but blanks, or nothing at all. -/
def isAllBlank (s : List Char) : Bool := s.all isBlank

example : trim " \u3000a b\u00a0 ".toList = "a b".toList := by decide

example : isBlank '\u200b' = false ∧ isBlank '\ufeff' = false := by decide

end FilterQuery.Text
