/-!
# Shortest decimals

A finite binary number is written with the fewest decimal digits that read back as the same number,
and among those with the digits nearest to it.  All comparisons are exact, in natural numbers.

The reals that read back as `m · 2 ^ q` lie within half a unit of it; the ends belong to them when
`m` is even.  If any decimal of `n` digits is among them, so is one of the two next to the number
itself, so only those two are tried for `n = 1, 2, …`.
-/

namespace FilterQuery.Decimal

/-- The number `mantissa · 2 ^ exponent`; `narrow` if the numbers below it lie closer together than
those above. -/
structure Binary where
  mantissa : Nat
  exponent : Int
  narrow : Bool
  deriving DecidableEq, Repr

/-- The magnitude that the 64 bits of a number in double precision stand for. -/
def Binary.ofBits (bits : Nat) : Binary :=
  let field := (bits >>> 52) % (1 <<< 11)
  let fraction := bits % (1 <<< 52)
  if field = 0 then ⟨fraction, -1074, false⟩
  else ⟨(1 <<< 52) + fraction, Int.ofNat field - 1075, fraction == 0 && field != 1⟩

/-- Compares `a · 10 ^ p` with `b · 2 ^ q`. -/
def compareScaled (a : Nat) (p : Int) (b : Nat) (q : Int) : Ordering :=
  compare ((a * Nat.pow 10 p.toNat) <<< (-q).toNat) ((b <<< q.toNat) * Nat.pow 10 (-p).toNat)

/-- Whether `a · 10 ^ p` reads back as `x`. -/
def readsBack (x : Binary) (a : Nat) (p : Int) : Bool :=
  let low := compareScaled a p (4 * x.mantissa - if x.narrow then 1 else 2) (x.exponent - 2)
  let high := compareScaled a p (4 * x.mantissa + 2) (x.exponent - 2)
  let even := x.mantissa % 2 == 0
  (low == .gt || (even && low == .eq)) && (high == .lt || (even && high == .eq))

/-- The place of the point: the `k` with `10 ^ (k - 1) ≤ x < 10 ^ k`. -/
def pointOf (x : Binary) : Int :=
  let scaled := ((x.mantissa <<< x.exponent.toNat) * Nat.pow 10 400) >>> (-x.exponent).toNat
  ((Nat.toDigits 10 scaled).length : Int) - 400

/-- The multiple of `10 ^ p` that reads back as `x`, the nearer one if both neighbours do, and the
even one if they are equally near. -/
def onGrid? (x : Binary) (p : Int) : Option Nat :=
  let numerator := (x.mantissa <<< x.exponent.toNat) * Nat.pow 10 (-p).toNat
  let denominator := (1 <<< (-x.exponent).toNat) * Nat.pow 10 p.toNat
  let below := numerator / denominator
  let twice := 2 * (numerator % denominator)
  match readsBack x below p, readsBack x (below + 1) p with
  | true, false => some below
  | false, true => some (below + 1)
  | false, false => none
  | true, true =>
    if twice < denominator ∨ (twice = denominator ∧ below % 2 = 0) then some below
    else some (below + 1)

/-- The fewest digits, and the place of the point before the first of them, counted to the right.
Seventeen digits always suffice. -/
def shortest (x : Binary) : List Char × Int :=
  let point := pointOf x
  match (List.range' 1 17).findSome? fun n =>
      (onGrid? x (point - Int.ofNat n)).map fun digits => (digits, point - Int.ofNat n) with
  | some (digits, p) =>
    let text := Nat.toDigits 10 digits
    ((text.reverse.dropWhile (· == '0')).reverse, p + Int.ofNat text.length)
  | none => (['0'], 1)

/-- How a number is written: up to which exponents without a power of ten, and how a power is. -/
structure Style where
  least : Int
  greatest : Int
  mark : List Char
  plus : List Char

/-- The digits with the point in its place, and at least one digit on either side of it. -/
def positional (digits : List Char) (point : Int) : List Char :=
  if point ≤ 0 then '0' :: '.' :: List.replicate (-point).toNat '0' ++ digits
  else if digits.length ≤ point.toNat then
    digits ++ List.replicate (point.toNat - digits.length) '0' ++ ['.', '0']
  else digits.take point.toNat ++ '.' :: digits.drop point.toNat

/-- The first digit, the point and the others if there are any, and the power of ten. -/
def scientific (style : Style) (digits : List Char) (exponent : Int) : List Char :=
  let fraction := if digits.length ≤ 1 then [] else '.' :: digits.drop 1
  let power := Nat.toDigits 10 exponent.natAbs
  digits.take 1 ++ fraction ++ style.mark ++ (if exponent < 0 then ['-'] else style.plus) ++ power

/-- The text of the number in double precision with these 64 bits. -/
def text (style : Style) (bits : UInt64) : List Char :=
  let x := Binary.ofBits bits.toNat
  let (digits, point) := if x.mantissa = 0 then (['0'], 1) else shortest x
  let body :=
    if style.least ≤ point - 1 ∧ point - 1 ≤ style.greatest then positional digits point
    else scientific style digits (point - 1)
  if 1 <<< 63 ≤ bits.toNat then '-' :: body else body

end FilterQuery.Decimal
