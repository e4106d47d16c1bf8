import ImageText.Decimal.Binary64

/-!
# The fewest digits that read back

The text of a double carries as few digits as possible and still denotes, after rounding, the same
double. `shortest` looks for it on the decimal grids `10 ^ k`, from coarse to fine: on the first
grid that has a point among the numbers that round to the double, it takes the point nearest to
it. A point on a grid that a coarser grid misses has no trailing zero, so the digits found are the
fewest.

How the digits are laid out is a separate decision, and `Layout` holds it.
-/

namespace ImageText.Decimal

/-- The number `digits * 10 ^ exponent`. -/
structure Scientific where
  digits : Nat
  exponent : Int
  deriving DecidableEq, Repr, Inhabited

namespace Magnitude

/-- Four times the mantissa, so that the ends of the rounding interval are whole. -/
def quarters (m : Magnitude) : Nat := 4 * m.mantissa

/-- The lower end of the numbers that round to `m`, in quarters. The gap below a power of two is
half as wide as the gap above it, except on the finest grid. -/
def lowerQuarters (m : Magnitude) : Nat :=
  if m.mantissa = mantissaBound / 2 ∧ m.exponent ≠ minExponent then m.quarters - 1
  else m.quarters - 2

/-- The upper end of the numbers that round to `m`, in quarters. -/
def upperQuarters (m : Magnitude) : Nat := m.quarters + 2

/-- The numerator and denominator of `quarters / 4 * 2 ^ exponent` counted in units of `10 ^ k`. -/
def inUnits (quarters : Nat) (exponent k : Int) : Nat × Nat :=
  let (n, d) := scale quarters 4 (-exponent)
  if 0 ≤ k then (n, d * Nat.pow 10 k.toNat) else (n * Nat.pow 10 (-k).toNat, d)

/-- `point * 10 ^ k` rounds to `m`; the ends of the interval do so when the mantissa is even. -/
def admits (m : Magnitude) (k : Int) (point : Nat) : Bool :=
  let (ln, ld) := inUnits m.lowerQuarters m.exponent k
  let (un, ud) := inUnits m.upperQuarters m.exponent k
  if m.mantissa % 2 = 0 then ln ≤ point * ld && point * ud ≤ un
  else ln < point * ld && point * ud < un

/-- The point of the grid `10 ^ k` nearest to `m` among the two that surround it, if it rounds to
`m`. -/
def onGrid? (m : Magnitude) (k : Int) : Option Scientific :=
  let (n, d) := inUnits m.quarters m.exponent k
  let below := n / d
  let above := below + 1
  let first := nearestEven n d
  let second := if first = below then above else below
  if m.admits k first then some ⟨first, k⟩
  else if m.admits k second then some ⟨second, k⟩
  else none

/-- The first hit on the grids `10 ^ k`, `10 ^ (k - 1)`, and so on. -/
def searchGrids (m : Magnitude) : Nat → Int → Scientific
  | 0, k => ⟨0, k⟩
  | fuel + 1, k =>
    match m.onGrid? k with
    | some found => found
    | none => searchGrids m fuel (k - 1)

/-- A decimal exponent whose power of ten exceeds `m`, by less than four digits. -/
def ceilingExponent (m : Magnitude) : Int :=
  ((m.mantissa.log2 : Int) + m.exponent) * 30103 / 100000 + 2

/-- The shortest decimal that rounds to `m`, and the nearest to `m` among those of its length. -/
def shortest (m : Magnitude) : Scientific :=
  if m.mantissa = 0 then ⟨0, 0⟩ else searchGrids m 24 m.ceilingExponent

end Magnitude

/-- How a number is laid out: which decimal exponents are written positionally, and how many
digits an exponent has at least. A positional number always shows a point. -/
structure Layout where
  least : Int
  most : Int
  exponentDigits : Nat
  deriving DecidableEq, Repr

namespace Layout

/-- The sign and digits of an exponent. -/
def exponentText (layout : Layout) (x : Int) : List Char :=
  let ds := Nat.toDigits 10 x.natAbs
  (if x < 0 then '-' else '+') :: (List.replicate (layout.exponentDigits - ds.length) '0' ++ ds)

/-- The text of `digits * 10 ^ exponent`. -/
def magnitudeText (layout : Layout) (s : Scientific) : List Char :=
  let ds := Nat.toDigits 10 s.digits
  let x : Int := s.exponent + ds.length - 1
  if layout.least ≤ x ∧ x ≤ layout.most then
    if x < 0 then '0' :: '.' :: (List.replicate ((-x).toNat - 1) '0' ++ ds)
    else
      let whole := x.toNat + 1
      if ds.length ≤ whole then ds ++ List.replicate (whole - ds.length) '0' ++ ['.', '0']
      else ds.take whole ++ '.' :: ds.drop whole
  else
    let tail := ds.drop 1
    ds.take 1 ++ (if tail.isEmpty then [] else '.' :: tail) ++ 'e' :: layout.exponentText x

/-- The text of a finite double. -/
def text (layout : Layout) (x : Binary64) : List Char :=
  (if x.negative then ['-'] else []) ++ layout.magnitudeText x.size.shortest

end Layout

end ImageText.Decimal
