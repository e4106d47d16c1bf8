/-!
# Double precision, exactly

A finite double is a sign and a magnitude `mantissa * 2 ^ exponent`. All arithmetic here is
rational arithmetic on natural numbers followed by one rounding: `Magnitude.round` takes a
quotient to the nearest magnitude, ties to the even mantissa, and reports a quotient too large
for the format. Products, quotients and decimal numbers are instances of it, so the only rounding
rule in the library is stated once.
-/

namespace ImageText.Decimal

/-- The nonnegative number `mantissa * 2 ^ exponent`. -/
structure Magnitude where
  mantissa : Nat
  exponent : Int
  deriving DecidableEq, Repr, Inhabited

namespace Magnitude

/-- The exponent of the finest grid of the format. -/
def minExponent : Int := -1074

/-- The exponent of the coarsest grid of the format. -/
def maxExponent : Int := 971

/-- Every mantissa is below this bound. -/
def mantissaBound : Nat := 0x20000000000000

/-- Zero, on the finest grid. -/
def zero : Magnitude := ⟨0, minExponent⟩

/-- The quotient of two naturals rounded to a whole number, a half to the even neighbour. -/
def nearestEven (num den : Nat) : Nat :=
  let q := num / den
  let twice := 2 * (num % den)
  if twice < den then q
  else if den < twice then q + 1
  else if q % 2 = 0 then q else q + 1

/-- The numerator and denominator of `num / den` divided by `2 ^ e`. -/
def scale (num den : Nat) (e : Int) : Nat × Nat :=
  if 0 ≤ e then (num, den * Nat.pow 2 e.toNat) else (num * Nat.pow 2 (-e).toNat, den)

/-- The grid on which `num / den` has a mantissa of 53 bits, or the finest grid if it is too small
for that. -/
def gridOf (num den : Nat) : Int :=
  let low : Int := (num.log2 : Int) - (den.log2 : Int) - 53
  let (n, d) := scale num den low
  max minExponent (if n / d < mantissaBound then low else low + 1)

/-- The magnitude nearest to `num / den`, ties to the even mantissa; `none` if it is too large. -/
def round (num den : Nat) : Option Magnitude :=
  if num = 0 then some zero
  else
    let e := gridOf num den
    let (n, d) := scale num den e
    let m := nearestEven n d
    let rounded : Magnitude :=
      if m < mantissaBound then ⟨m, e⟩ else ⟨m / 2, e + 1⟩
    if rounded.exponent ≤ maxExponent then some rounded else none

/-- The magnitude nearest to a natural number. -/
def ofNat (n : Nat) : Option Magnitude := round n 1

/-- The magnitude nearest to `num / den * 2 ^ e`. -/
def roundScaled (num den : Nat) (e : Int) : Option Magnitude :=
  let (n, d) := scale num den (-e)
  round n d

/-- The rounded product. -/
def times (a b : Magnitude) : Option Magnitude :=
  roundScaled (a.mantissa * b.mantissa) 1 (a.exponent + b.exponent)

/-- The rounded quotient. -/
def dividedBy (a b : Magnitude) : Option Magnitude :=
  roundScaled a.mantissa b.mantissa (a.exponent - b.exponent)

/-- The rounded sum. -/
def plus (a b : Magnitude) : Option Magnitude :=
  let low := min a.exponent b.exponent
  let whole (m : Magnitude) : Nat := m.mantissa * Nat.pow 2 (m.exponent - low).toNat
  roundScaled (whole a + whole b) 1 low

/-- `a` is less than `b`. -/
def less (a b : Magnitude) : Bool :=
  let low := min a.exponent b.exponent
  let whole (m : Magnitude) : Nat := m.mantissa * Nat.pow 2 (m.exponent - low).toNat
  whole a < whole b

/-- The magnitude nearest to `10 ^ k`. -/
def powerOfTen (k : Nat) : Option Magnitude := ofNat (Nat.pow 10 k)

/-- The magnitude nearest to `significand * 10 ^ e`, rounded once. -/
def ofDecimal (significand : Nat) (e : Int) : Option Magnitude :=
  if significand = 0 then some zero
  else
    let reach : Int := (significand.log2 : Int) / 3 + e
    if 400 < reach then none
    else if reach < -800 then some zero
    else if 0 ≤ e then round (significand * Nat.pow 10 e.toNat) 1
    else round significand (Nat.pow 10 (-e).toNat)

/-- The magnitude of `significand * 10 ^ e` as a chain of single operations gives it: the
significand is rounded, multiplied or divided by powers of ten of at most `10 ^ 308`, and rounded
after each of them. At most `fuel` divisions by `10 ^ 308` are made; three bring any significand
below `2 ^ 64` to zero. -/
def approximate (fuel : Nat) (m : Magnitude) (e : Int) : Option Magnitude :=
  if e.natAbs ≤ 308 then
    (powerOfTen e.natAbs).bind fun p => if 0 ≤ e then m.times p else m.dividedBy p
  else if m.mantissa = 0 then some m
  else if 0 ≤ e then none
  else match fuel with
    | 0 => some zero
    | fuel + 1 =>
      ((powerOfTen 308).bind m.dividedBy).bind fun smaller => approximate fuel smaller (e + 308)

end Magnitude

/-- A finite double. -/
structure Binary64 where
  negative : Bool
  size : Magnitude
  deriving DecidableEq, Repr, Inhabited

namespace Binary64

/-- Both zeros count as zero. -/
def isZero (x : Binary64) : Bool := x.size.mantissa == 0

end Binary64

end ImageText.Decimal
