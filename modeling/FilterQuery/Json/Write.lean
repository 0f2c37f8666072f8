import FilterQuery.Json.Document

/-!
# Writing JSON

Documents are made of texts, lists and records, and written without blanks.  A control character is
written by a short escape or by its code, a quote and a backslash behind a backslash, and all else
as it is.
-/

namespace FilterQuery.Json

/-- The unit by which a character is written. -/
def CodeUnit.ofChar (c : Char) : CodeUnit :=
  if c.toNat < 0x20 ∧ c ∉ ['\x08', '\t', '\n', '\x0c', '\r'] then .code c.toNat else .char c

/-- A hexadecimal digit. -/
def hexDigit (n : Nat) : Char := Char.ofNat (if n < 10 then n + 48 else n + 87)

/-- A unit in writing. -/
def CodeUnit.chars : CodeUnit → List Char
  | .char '"' => ['\\', '"']
  | .char '\\' => ['\\', '\\']
  | .char '\x08' => ['\\', 'b']
  | .char '\t' => ['\\', 't']
  | .char '\n' => ['\\', 'n']
  | .char '\x0c' => ['\\', 'f']
  | .char '\r' => ['\\', 'r']
  | .char c => [c]
  | .code n =>
    ['\\', 'u', hexDigit (n / 4096 % 16), hexDigit (n / 256 % 16), hexDigit (n / 16 % 16),
      hexDigit (n % 16)]

/-- The string of a text. -/
def Literal.ofText (text : String) : Literal := ⟨text.toList.map .ofChar, .closed⟩

/-- A string in writing. -/
def Literal.chars (literal : Literal) : List Char :=
  '"' :: literal.units.flatMap CodeUnit.chars ++ ['"']

/-- The fraction of a number in writing. -/
def Numeral.fractionChars : Option (List Char) → List Char
  | some digits => '.' :: digits
  | none => []

/-- The power of ten of a number in writing. -/
def Numeral.powerChars : Option (Bool × List Char) → List Char
  | some (true, digits) => 'e' :: '-' :: digits
  | some (false, digits) => 'e' :: digits
  | none => []

/-- A number in writing. -/
def Numeral.chars (n : Numeral) : List Char :=
  (if n.negative then ['-'] else []) ++ n.whole ++ fractionChars n.fraction ++ powerChars n.power

namespace Document

/-- The document of a text. -/
def ofText (text : String) : Document := .string (.ofText text)

/-- The document of a list. -/
def ofList (items : List Document) : Document := .array items .closed

/-- The document of a record. -/
def ofRecord (members : List (String × Document)) : Document :=
  .object (members.map fun (name, value) => (ofText name, value)) .closed

mutual

/-- A whole document in writing. -/
def chars : Document → List Char
  | null => "null".toList
  | bool true => "true".toList
  | bool false => "false".toList
  | number numeral => numeral.chars
  | string literal => literal.chars
  | array items _ => '[' :: charsItems items ++ [']']
  | object members _ => '\x7b' :: charsMembers members ++ ['\x7d']
  | broken _ => []

/-- Items with commas between them. -/
def charsItems : List Document → List Char
  | [] => []
  | [item] => chars item
  | item :: rest => chars item ++ ',' :: charsItems rest

/-- Members with commas between them. -/
def charsMembers : List (Document × Document) → List Char
  | [] => []
  | [(key, value)] => chars key ++ ':' :: chars value
  | (key, value) :: rest => chars key ++ ':' :: chars value ++ ',' :: charsMembers rest

end

/-- A whole document as text. -/
def text (d : Document) : String := String.ofList d.chars

end Document

end FilterQuery.Json
