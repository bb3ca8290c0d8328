/-!
# Binary floating point

Ratios and decimal fractions pass through the 64-bit binary format on their way to the reader, and
its rounding shows. A number of the format is held here exactly, as `mantissa * 2 ^ exponent`, and
`ofRatio` is rounding to nearest with ties to the even mantissa; nothing in this file is
approximate. Only numbers that are not negative are needed, the sign being kept by whoever has one.
The exponent is not bounded from above: `isFinite` says whether the format can hold the number.
-/

namespace BrowserFlow.Number

/-- A quotient rounded to the nearest natural number, ties to the even one. -/
def roundDiv (a b : Nat) : Nat :=
  let q := a / b
  let r := a % b
  if b < 2 * r || (2 * r == b && q % 2 == 1) then q + 1 else q

/-- A number `mantissa * 2 ^ exponent`. -/
structure Binary64 where
  /-- The significant bits, fewer than 54. -/
  mantissa : Nat
  /-- The power of two that they are multiplied by, at least -1074. -/
  exponent : Int
  deriving DecidableEq, Repr

namespace Binary64

/-- Zero. -/
def zero : Binary64 := ⟨0, 0⟩

/-- The numerator of the number as a ratio. -/
def num (x : Binary64) : Nat :=
  x.mantissa * Nat.pow 2 x.exponent.toNat

/-- The denominator of the number as a ratio. -/
def den (x : Binary64) : Nat :=
  Nat.pow 2 (-x.exponent).toNat

/-- The exponent at which `a / b` has 53 significant bits, or fewer when it is very small. -/
def exponentOf (a b : Nat) : Int :=
  let e : Int := (Nat.log2 a : Int) - Nat.log2 b - 53
  let e := if Nat.pow 2 53 ≤ a * Nat.pow 2 (-e).toNat / (b * Nat.pow 2 e.toNat) then e + 1 else e
  max e (-1074)

/-- The nearest number to `a / b`, ties to the even mantissa. -/
def ofRatio (a b : Nat) : Binary64 :=
  if a == 0 then zero
  else
    let e := exponentOf a b
    let m := roundDiv (a * Nat.pow 2 (-e).toNat) (b * Nat.pow 2 e.toNat)
    if m == Nat.pow 2 53 then ⟨Nat.pow 2 52, e + 1⟩ else ⟨m, e⟩

/-- The nearest number to a natural number. -/
def ofNat (n : Nat) : Binary64 :=
  ofRatio n 1

/-- The rounded product. -/
def mul (x y : Binary64) : Binary64 :=
  ofRatio (x.num * y.num) (x.den * y.den)

/-- The rounded quotient; `y` is not zero. -/
def div (x y : Binary64) : Binary64 :=
  ofRatio (x.num * y.den) (x.den * y.num)

/-- Whether the number is below `2 ^ 1024`, so that the format can hold it. -/
def isFinite (x : Binary64) : Bool :=
  x.exponent ≤ 971

/-- The whole part. -/
def floor (x : Binary64) : Nat :=
  x.num / x.den

/-- The number in units of `10 ^ -places`, rounded to nearest with ties to even. -/
def scaled (places : Nat) (x : Binary64) : Nat :=
  roundDiv (x.num * Nat.pow 10 places) x.den

end Binary64

end BrowserFlow.Number
