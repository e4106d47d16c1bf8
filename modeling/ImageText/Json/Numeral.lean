import ImageText.Json.Fault
import ImageText.Json.Value

/-!
# Numerals

Reading a number has two halves. `readNumeral` takes the longest numeral at the head of the input
apart into its digits, which is a matter of grammar alone; `Numeral.value` says which number it
is. A numeral without fraction and exponent that fits 64 bits is a whole number. Every other one is
a double: its significand is cut to 64 bits, digits that no longer fit count as powers of ten
before the point and as nothing behind it, and the power of ten is applied by
`Decimal.Magnitude.approximate`.
-/

namespace ImageText.Json

/-- The parts of a numeral. Without a point the fraction is empty; an exponent is its sign (`true`
for a negative one) and its digits. -/
structure Numeral where
  negative : Bool
  whole : List Nat
  fraction : List Nat
  exponent : Option (Bool × List Nat)
  deriving DecidableEq, Repr

/-- An ASCII digit. -/
def isDigit (b : UInt8) : Bool := 0x30 ≤ b && b ≤ 0x39

/-- The value of an ASCII digit. -/
def digitValue (b : UInt8) : Nat := b.toNat - 0x30

/-- The digits at the head of the input, and the rest. -/
def digitRun (input : Bytes) : List Nat × Bytes :=
  ((input.takeWhile isDigit).map digitValue, input.dropWhile isDigit)

/-- The minus sign. -/
def minusByte : UInt8 := 0x2D

/-- The plus sign. -/
def plusByte : UInt8 := 0x2B

/-- The decimal point. -/
def pointByte : UInt8 := 0x2E

/-- The letter of an exponent. -/
def isExponentLetter (b : UInt8) : Bool := b == 0x65 || b == 0x45

/-- The digits before the point: a single zero, or digits that do not begin with one. -/
def readWhole : Bytes → Step (List Nat)
  | [] => .error (.before .endInValue [])
  | b :: rest =>
    if b = 0x30 then
      if (rest.head?.any isDigit) then .error (.upon .badNumber rest) else .ok ([0], rest)
    else if isDigit b then .ok (digitRun (b :: rest))
    else .error (.before .badNumber rest)

/-- The digits behind the point, at least one; none at all without a point. -/
def readFraction : Bytes → Step (List Nat)
  | [] => .ok ([], [])
  | b :: rest =>
    if b = pointByte then
      match digitRun rest with
      | ([], []) => .error (.upon .endInValue [])
      | ([], rest) => .error (.upon .badNumber rest)
      | (ds, rest) => .ok (ds, rest)
    else .ok ([], b :: rest)

/-- The digits of an exponent, at least one. -/
def readPower (negative : Bool) : Bytes → Step (Option (Bool × List Nat))
  | [] => .error (.before .endInValue [])
  | b :: rest =>
    if isDigit b then
      let (ds, rest) := digitRun (b :: rest)
      .ok (some (negative, ds), rest)
    else .error (.before .badNumber rest)

/-- An exponent, if there is one. -/
def readExponent : Bytes → Step (Option (Bool × List Nat))
  | [] => .ok (none, [])
  | b :: rest =>
    if isExponentLetter b then
      match rest with
      | [] => readPower false []
      | c :: more =>
        if c = plusByte then readPower false more
        else if c = minusByte then readPower true more
        else readPower false (c :: more)
    else .ok (none, b :: rest)

/-- The numeral at the head of an input that begins with a digit or a minus sign. -/
def readNumeral (input : Bytes) : Except Stop (Numeral × Bytes) := do
  let negative := input.head? == some minusByte
  let (whole, rest) ← readWhole (if negative then input.drop 1 else input)
  let (fraction, rest) ← readFraction rest
  let (exponent, rest) ← readExponent rest
  return (⟨negative, whole, fraction, exponent⟩, rest)

/-- The greatest significand. -/
def maxSignificand : Nat := 0xFFFFFFFFFFFFFFFF

/-- The greatest significand of a negative whole number. -/
def maxNegative : Nat := 0x8000000000000000

/-- The greatest exponent that is counted. -/
def maxPower : Nat := 0x7FFFFFFF

/-- The significand that digits continue as long as it fits, and how many digits were taken. -/
def absorb (significand : Nat) : List Nat → Nat × Nat
  | [] => (significand, 0)
  | d :: ds =>
    let next := significand * 10 + d
    if next ≤ maxSignificand then
      let (s, taken) := absorb next ds
      (s, taken + 1)
    else (significand, 0)

/-- The value of an exponent's digits, or how many digits are left when it becomes too great. -/
def powerOf (value : Nat) : List Nat → Except Nat Nat
  | [] => .ok value
  | d :: ds =>
    let next := value * 10 + d
    if next ≤ maxPower then powerOf next ds else .error ds.length

namespace Numeral

/-- A negative zero or positive zero. -/
def signedZero (negative : Bool) : Number := .real ⟨negative, Decimal.Magnitude.zero⟩

/-- The double nearest along the chain of single operations. -/
def real? (negative : Bool) (significand : Nat) (power : Int) : Option Number :=
  ((Decimal.Magnitude.ofNat significand).bind (Decimal.Magnitude.approximate 3 · power)).map
    fun m => .real ⟨negative, m⟩

/-- The number that a numeral denotes. A number too large is refused behind the numeral, or, if
its exponent alone is too great, as many digits before its end as the error says. -/
def value (n : Numeral) : Except Nat Number :=
  let (head, taken) := absorb 0 n.whole
  let dropped := n.whole.length - taken
  let (significand, places) := absorb head n.fraction
  let base : Int := (dropped : Int) - places
  match n.exponent with
  | none =>
    if n.fraction.isEmpty ∧ dropped = 0 then
      if !n.negative then .ok (.whole significand)
      else if significand = 0 ∨ maxNegative < significand then
        (real? true significand 0).elim (.error 0) .ok
      else .ok (.whole (-significand))
    else (real? n.negative significand base).elim (.error 0) .ok
  | some (below, ds) =>
    match powerOf 0 ds with
    | .error left =>
      if significand = 0 ∨ below then .ok (signedZero n.negative) else .error left
    | .ok p =>
      let power := if below then base - p else base + p
      (real? n.negative significand power).elim (.error 0) .ok

end Numeral

/-- The number at the head of an input that begins with a digit or a minus sign. -/
def readNumber (input : Bytes) : Except Stop (Number × Bytes) := do
  let (numeral, rest) ← readNumeral input
  match numeral.value with
  | .ok n => return (n, rest)
  | .error left => throw ⟨.numberTooLarge, rest.length + left⟩

/-- Pass over a numeral. Its size does not matter, and an input that ends inside it is refused
like any other bad numeral. -/
def passNumeral (input : Bytes) : Step Unit :=
  match readNumeral input with
  | .ok (_, rest) => .ok ((), rest)
  | .error stop => .error ⟨.badNumber, stop.left⟩

end ImageText.Json
