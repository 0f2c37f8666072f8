import FilterQuery.Text.Hidden

/-!
# Quoted text

The printed form of a tree shows every value between double quotes.  A quote and a backslash are
written behind a backslash, four controls have letters of their own, and any other character without
a picture is written by its number as in `\u{200b}`.  All else stands for itself, so no two texts
have one quoted form.
-/

namespace FilterQuery.Text

/-- The number of a character between braces, behind a backslash and a `u`. -/
def numbered (c : Char) : List Char :=
  '\\' :: 'u' :: '\x7b' :: Nat.toDigits 16 c.toNat ++ ['\x7d']

/-- The written form of one character between quotes. -/
def quotedChar (c : Char) : List Char :=
  match c with
  | '\u0000' => ['\\', '0']
  | '\t' => ['\\', 't']
  | '\n' => ['\\', 'n']
  | '\r' => ['\\', 'r']
  | '"' => ['\\', '"']
  | '\\' => ['\\', '\\']
  | _ => if isHidden c then numbered c else [c]

/-- The text between double quotes. -/
def quoted (s : List Char) : List Char := '"' :: s.flatMap quotedChar ++ ['"']

/-- The quoted form of a string. -/
def quote (s : String) : String := String.ofList (quoted s.toList)

example : quoted "a\"\n\x7f".toList = "\"a\\\"\\n\\u\x7b7f\x7d\"".toList := by decide

end FilterQuery.Text
