import FilterQuery.Decimal.Shortest

/-!
# Numbers in JSON

`Numeral` is a number as it is written: sign, digits, fraction, power of ten.  `Numeral.number?` is
what it counts as: an integer where it is written as one and fits 64 bits, otherwise a number in
double precision, and nothing at all if that would be infinite.

The double is made in one way for all numerals: the digits are read as an integer as long as it fits
64 bits, the digits after that only count for the power of ten, and the integer is multiplied or
divided by that power.
-/

namespace FilterQuery.Json

/-- A number as it is written. -/
structure Numeral where
  negative : Bool
  whole : List Char
  fraction : Option (List Char)
  /-- Whether the power is negative, and its digits. -/
  power : Option (Bool × List Char)
  deriving DecidableEq, Repr

/-- A number as it counts. -/
inductive Number
  | natural (value : Nat)
  /-- The negative integer of this magnitude. -/
  | negative (magnitude : Nat)
  /-- The number in double precision with these bits. -/
  | double (bits : UInt64)
  deriving DecidableEq, Repr

namespace Numeral

/-- A number broken off: the text ends inside it, or another character stands where a digit must. -/
structure Broken where
  atEnd : Bool
  deriving DecidableEq, Repr

/-- The digits at the front, at least one, and the text after them. -/
def digits (s : List Char) : Except Broken (List Char × List Char) :=
  match s.takeWhile Char.isDigit with
  | [] => .error ⟨s.isEmpty⟩
  | found => .ok (found, s.dropWhile Char.isDigit)

/-- The digits before the point; a zero in front must be the only one. -/
def wholePart : List Char → Except Broken (List Char × List Char)
  | '0' :: rest =>
    if (rest.head?.map Char.isDigit).getD false then .error ⟨false⟩ else .ok (['0'], rest)
  | s => digits s

/-- The digits after the point, if there is one. -/
def fractionPart : List Char → Except Broken (Option (List Char) × List Char)
  | '.' :: rest => (digits rest).map fun (found, rest) => (some found, rest)
  | s => .ok (none, s)

/-- The sign and digits of the power of ten, if there is one. -/
def powerPart : List Char → Except Broken (Option (Bool × List Char) × List Char)
  | c :: rest =>
    if c = 'e' ∨ c = 'E' then
      let (negative, rest) :=
        match rest with
        | '+' :: rest => (false, rest)
        | '-' :: rest => (true, rest)
        | _ => (false, rest)
      (digits rest).map fun (found, rest) => (some (negative, found), rest)
    else .ok (none, c :: rest)
  | [] => .ok (none, [])

/-- The number at the front of a text after its sign, and the text after it. -/
def unsigned (negative : Bool) (s : List Char) : Except Broken (Numeral × List Char) := do
  let (whole, s) ← wholePart s
  let (fraction, s) ← fractionPart s
  let (power, s) ← powerPart s
  return (⟨negative, whole, fraction, power⟩, s)

/-- The number at the front of a text, and the text after it. -/
def read : List Char → Except Broken (Numeral × List Char)
  | '-' :: rest => unsigned true rest
  | s => unsigned false s

/-- The value of decimal digits. -/
def valueOf (digits : List Char) : Nat := digits.foldl (fun n c => 10 * n + (c.toNat - 48)) 0

/-- The greatest integer of 64 bits. -/
def greatest : Nat := (1 <<< 64) - 1

/-- Puts digits behind `n` as long as the integer fits; how many digits were left over. -/
def append (n : Nat) : List Char → Nat × Nat
  | [] => (n, 0)
  | c :: rest =>
    let next := 10 * n + (c.toNat - 48)
    if next ≤ greatest then append next rest else (n, rest.length + 1)

/-- The integer multiplied by a power of ten, in double precision; `none` if it gets too large. -/
def scale (x : Float) (power : Int) : Option Float :=
  if power.natAbs ≤ 308 then
    let factor := Float.ofScientific 1 false power.natAbs
    if power < 0 then some (x / factor)
    else if (x * factor).isInf then none
    else some (x * factor)
  else if x == 0 then some x
  else if power < 0 then scale (x / 1e308) (power + 308)
  else none
termination_by power.natAbs
decreasing_by omega

/-- The number in double precision; `none` if it would be infinite. -/
def double? (n : Numeral) : Option Float :=
  let fraction := n.fraction.getD []
  let (significand, dropped) := append 0 n.whole
  let (significand, left) := append significand fraction
  let shift : Int := Int.ofNat dropped - Int.ofNat (fraction.length - left)
  let power : Int :=
    match n.power with
    | some (true, digits) => -Int.ofNat (valueOf digits)
    | some (false, digits) => Int.ofNat (valueOf digits)
    | none => 0
  (scale significand.toUInt64.toFloat (shift + power)).map fun x => if n.negative then -x else x

/-- What the numeral counts as; `none` if it is too large for a double. -/
def number? (n : Numeral) : Option Number :=
  let value := valueOf n.whole
  if n.fraction.isNone ∧ n.power.isNone ∧ ¬n.negative ∧ value ≤ greatest then
    some (.natural value)
  else if n.fraction.isNone ∧ n.power.isNone ∧ n.negative ∧ value ≠ 0 ∧ value ≤ 1 <<< 63 then
    some (.negative value)
  else n.double?.map fun x => .double x.toBits

end Numeral

namespace Number

/-- Numbers from 0.00001 up to below 10 ^ 16 are written without a power of ten. -/
def style : Decimal.Style where
  least := -5
  greatest := 15
  mark := ['e']
  plus := ['+']

/-- The number in digits. -/
def display : Number → String
  | .natural value => toString value
  | .negative magnitude => "-" ++ toString magnitude
  | .double bits => String.ofList (Decimal.text style bits)

end Number

end FilterQuery.Json
