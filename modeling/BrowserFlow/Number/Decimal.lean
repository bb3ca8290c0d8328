import BrowserFlow.Number.Binary64
import BrowserFlow.Text.Digit

/-!
# Decimal texts of binary numbers

A number of the binary format is shown with the fewest decimal digits that round back to it, and
of those with the digits nearest to it. Where the point is put, and when a power of ten is split
off, is up to the place that shows the number.
-/

namespace BrowserFlow.Number

open BrowserFlow.Text

/-- The number `digits * 10 ^ places`. -/
structure Decimal where
  /-- The digits, read as one number. -/
  digits : Nat
  /-- The power of ten of the last digit. -/
  places : Int
  deriving DecidableEq, Repr

namespace Decimal

/-- The number of decimal digits of a natural number. -/
def width (n : Nat) : Nat :=
  (Nat.toDigits 10 n).length

/-- The digits without zeros at the end. At most `fuel` zeros are taken away. -/
def stripZeros : (fuel : Nat) → Decimal → Decimal
  | 0, d => d
  | fuel + 1, d =>
    if d.digits != 0 && d.digits % 10 == 0 then stripZeros fuel ⟨d.digits / 10, d.places + 1⟩
    else d

/-- The power of ten of the first digit of `a / b`. -/
def leadingPlace (a b : Nat) : Int :=
  if b ≤ a then (width (a / b) : Int) - 1
  else
    let k := width (b / a)
    if b ≤ a * Nat.pow 10 (k - 1) then 1 - (k : Int) else -(k : Int)

/-- The numbers that round to `x` reach from the first to the second of these, in quarters of the
last bit of `x`. -/
def reach (x : Binary64) : Nat × Nat :=
  let low := if x.mantissa == Nat.pow 2 52 && -1074 < x.exponent then 4 * x.mantissa - 1
    else 4 * x.mantissa - 2
  (low, 4 * x.mantissa + 2)

/-- Whether `n * 10 ^ places` rounds to `x`. -/
def roundsTo (x : Binary64) (n : Nat) (places : Int) : Bool :=
  let (low, high) := reach x
  let e := x.exponent - 2
  -- Both sides of `n * 10 ^ places` against a bound times `2 ^ e`, cleared of denominators.
  let left := n * Nat.pow 10 places.toNat * Nat.pow 2 (-e).toNat
  let right (bound : Nat) := bound * Nat.pow 2 e.toNat * Nat.pow 10 (-places).toNat
  if x.mantissa % 2 == 0 then right low ≤ left && left ≤ right high
  else right low < left && left < right high

/-- The best number with its last digit at `places` that rounds to `x`, if there is one. -/
def candidate (x : Binary64) (places : Int) : Option Nat :=
  let a := x.num * Nat.pow 10 (-places).toNat
  let b := x.den * Nat.pow 10 places.toNat
  let below := a / b
  let twice := 2 * (a % b)
  let near := if b < twice || (twice == b && below % 2 == 1) then below + 1 else below
  let far := if near == below then below + 1 else below
  if roundsTo x near places then some near
  else if roundsTo x far places then some far
  else none

/-- The shortest decimal of `x` with `count` digits or more, of `fuel` counts tried. -/
def shortestFrom (x : Binary64) (first : Int) : (fuel count : Nat) → Decimal
  | 0, count => ⟨(candidate x (first - count)).getD 0, first - count⟩
  | fuel + 1, count =>
    let places := first - count + 1
    match candidate x places with
    | some n => ⟨n, places⟩
    | none => shortestFrom x first fuel (count + 1)

/-- The fewest digits that round back to `x`, and of those the nearest to it. -/
def shortest (x : Binary64) : Decimal :=
  if x.mantissa == 0 then ⟨0, 0⟩
  else stripZeros 400 (shortestFrom x (leadingPlace x.num x.den) 17 1)

/-- The number written out, without a power of ten. -/
def positional (d : Decimal) : String :=
  let s := Nat.toDigits 10 d.digits
  if 0 ≤ d.places then String.ofList (s ++ List.replicate d.places.toNat '0')
  else
    let k := (-d.places).toNat
    let s := List.replicate (k + 1 - s.length) '0' ++ s
    String.ofList (s.take (s.length - k) ++ '.' :: s.drop (s.length - k))

/-- The number written out with at least one digit after the point. -/
def withPoint (d : Decimal) : String :=
  if 0 ≤ d.places then positional d ++ ".0" else positional d

/-- The number with one digit before the point and a power of ten with its sign. -/
def scientific (d : Decimal) : String :=
  let s := Nat.toDigits 10 d.digits
  let power := d.places + s.length - 1
  let mantissa := match s with
    | [c] => [c]
    | c :: rest => c :: '.' :: rest
    | [] => []
  let sign := if power < 0 then '-' else '+'
  String.ofList (mantissa ++ 'e' :: sign :: Nat.toDigits 10 power.natAbs)

end Decimal

end BrowserFlow.Number
