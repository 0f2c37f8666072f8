import FilterQuery.Json.Fault
import FilterQuery.Text.Cut

/-!
# Strings in JSON

`Literal.read` cuts a string into its units, each one character or one code of four hexadecimal
digits, up to the closing quote or to the place where the text breaks off.  What the units mean is a
second question, since codes above the Basic Multilingual Plane come in pairs: `Literal.text` puts
the pairs together and refuses half ones.  A reader that only skips the string needs no more than
`Literal.skipped`, which lets half pairs pass.
-/

namespace FilterQuery.Json

/-- A piece of a string. -/
inductive CodeUnit
  /-- A character, written as it is or by a short escape. -/
  | char (c : Char)
  /-- A code of four hexadecimal digits. -/
  | code (n : Nat)
  deriving DecidableEq, Repr

namespace Literal

/-- How a string ends. -/
inductive Ending
  /-- With its quote. -/
  | closed
  /-- Not at all, as the text ends. -/
  | textEnds
  /-- At a control character that is not escaped. -/
  | control
  /-- At a backslash that no escape follows. -/
  | badEscape
  /-- At a code with a character that is no hexadecimal digit. -/
  | badCode
  deriving DecidableEq, Repr

/-- What is wrong with an ending, if anything. -/
def Ending.fault? : Ending → Option Fault
  | .closed => none
  | .textEnds => some (.ends .string)
  | .control => some .controlCharacter
  | .badEscape | .badCode => some .badEscape

end Literal

/-- A string as it is written. -/
structure Literal where
  units : List CodeUnit
  ending : Literal.Ending
  deriving DecidableEq, Repr

namespace Literal

/-- The character that a backslash and this letter stand for. -/
def shortEscape? : Char → Option Char
  | '"' => some '"'
  | '\\' => some '\\'
  | '/' => some '/'
  | 'b' => some '\x08'
  | 'f' => some '\x0c'
  | 'n' => some '\n'
  | 'r' => some '\r'
  | 't' => some '\t'
  | _ => none

/-- The value of a hexadecimal digit. -/
def hexDigit? (c : Char) : Option Nat :=
  if c.isDigit then some (c.toNat - '0'.toNat)
  else if 'a' ≤ c ∧ c ≤ 'f' then some (c.toNat - 'a'.toNat + 10)
  else if 'A' ≤ c ∧ c ≤ 'F' then some (c.toNat - 'A'.toNat + 10)
  else none

/-- The value of four hexadecimal digits. -/
def hexCode? (a b c d : Char) : Option Nat := do
  return 4096 * (← hexDigit? a) + 256 * (← hexDigit? b) + 16 * (← hexDigit? c) + (← hexDigit? d)

/-- The literal with one more unit in front. -/
def push (u : CodeUnit) (literal : Literal) : Literal :=
  { literal with units := u :: literal.units }

/-- Reads a string after its opening quote; the text after the closing one comes with it.  A code
that the text has no four bytes left for ends with the text. -/
def read : List Char → Literal × List Char
  | [] => (⟨[], .textEnds⟩, [])
  | '"' :: rest => (⟨[], .closed⟩, rest)
  | '\\' :: 'u' :: a :: b :: c :: d :: rest =>
    match hexCode? a b c d with
    | some n => let (literal, rest) := read rest; (literal.push (.code n), rest)
    | none => (⟨[], .badCode⟩, [])
  | '\\' :: 'u' :: rest =>
    (⟨[], if Text.byteLength rest < 4 then .textEnds else .badCode⟩, [])
  | '\\' :: c :: rest =>
    match shortEscape? c with
    | some escaped => let (literal, rest) := read rest; (literal.push (.char escaped), rest)
    | none => (⟨[], .badEscape⟩, [])
  | ['\\'] => (⟨[], .textEnds⟩, [])
  | c :: rest =>
    if c.toNat < 0x20 then (⟨[], .control⟩, [])
    else let (literal, rest) := read rest; (literal.push (.char c), rest)

theorem length_read_le (s : List Char) : (read s).2.length ≤ s.length := by
  fun_induction read s <;> simp_all <;> omega

/-- A first half of a surrogate pair. -/
def isLeading (n : Nat) : Bool := 0xD800 ≤ n && n ≤ 0xDBFF

/-- A second half of a surrogate pair. -/
def isTrailing (n : Nat) : Bool := 0xDC00 ≤ n && n ≤ 0xDFFF

/-- The character that a surrogate pair stands for. -/
def paired (leading trailing : Nat) : Char :=
  Char.ofNat (0x10000 + 1024 * (leading - 0xD800) + (trailing - 0xDC00))

/-- The fault of a first half with nothing of the string after it. -/
def halfAt : Ending → Fault
  | .textEnds => .ends .string
  | .badCode => .badEscape
  | .closed | .control | .badEscape => .halfSurrogate

/-- The text of units, if they end well and every surrogate has its other half. -/
def decode (ending : Ending) : List CodeUnit → Except Fault (List Char)
  | [] => match ending.fault? with
    | none => .ok []
    | some fault => .error fault
  | .char c :: rest => (decode ending rest).map (c :: ·)
  | .code n :: rest =>
    if isTrailing n then .error .loneSurrogate
    else if isLeading n then
      match rest with
      | .code m :: rest =>
        if isTrailing m then (decode ending rest).map (paired n m :: ·) else .error .loneSurrogate
      | .char _ :: _ => .error .halfSurrogate
      | [] => .error (halfAt ending)
    else (decode ending rest).map (Char.ofNat n :: ·)

/-- The text of the string. -/
def text (literal : Literal) : Except Fault String :=
  (decode literal.ending literal.units).map String.ofList

/-- What is wrong with the string for a reader that does not want its text. -/
def skipped (literal : Literal) : Option Fault := literal.ending.fault?

end Literal

end FilterQuery.Json
