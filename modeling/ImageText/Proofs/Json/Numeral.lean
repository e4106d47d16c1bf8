import ImageText.Json.Numeral

/-!
# How a number is written

A `Figure` is a number as the grammar has it: perhaps a minus sign, digits that do not begin with a
needless zero, perhaps a point with digits behind it, perhaps an exponent. The reader looks ahead to
find the end of each part, so it can only be held to a figure if what follows cannot be taken for
more of it. `Ends` is that condition, and everything that may stand behind a number in a document
meets it.

> `readNumeral_figure`: the reader takes a figure apart into exactly its parts.

Which number the parts denote is another matter, left to `Numeral.value`.
-/

namespace ImageText.Json

/-- What follows cannot be taken for more of a number. -/
def Ends (rest : Bytes) : Prop :=
  ∀ b, rest.head? = some b → isDigit b = false ∧ b ≠ pointByte ∧ isExponentLetter b = false

theorem ends_nil : Ends [] := by
  intro b hb
  cases hb

theorem ends_cons {b : UInt8} (h : isDigit b = false ∧ b ≠ pointByte ∧ isExponentLetter b = false)
    (rest : Bytes) : Ends (b :: rest) := by
  intro c hc
  rw [List.head?_cons, Option.some.injEq] at hc
  subst hc
  exact h

/-- At least one digit. -/
structure Digits where
  bytes : Bytes
  ne_nil : bytes ≠ []
  digit : ∀ b ∈ bytes, isDigit b = true

namespace Digits

/-- The values of the digits. -/
def values (ds : Digits) : List Nat := ds.bytes.map digitValue

theorem cons (ds : Digits) : ∃ b more, ds.bytes = b :: more ∧ isDigit b = true := by
  obtain ⟨bytes, hne, hdigit⟩ := ds
  cases bytes with
  | nil => exact absurd rfl hne
  | cons b more => exact ⟨b, more, rfl, hdigit b (List.mem_cons_self ..)⟩

theorem values_ne_nil (ds : Digits) : ds.values ≠ [] := by
  rw [values, ne_eq, List.map_eq_nil_iff]
  exact ds.ne_nil

end Digits

/-- The sign of an exponent. -/
inductive Sign where
  | none
  | plus
  | minus
  deriving DecidableEq, Repr

namespace Sign

/-- A sign as it is written. -/
def bytes : Sign → Bytes
  | none => []
  | plus => [plusByte]
  | minus => [minusByte]

/-- Whether a sign makes its exponent negative. -/
def negative : Sign → Bool
  | minus => true
  | _ => false

end Sign

/-- An exponent with its letter. -/
structure Power where
  letter : UInt8
  isLetter : isExponentLetter letter = true
  sign : Sign
  digits : Digits

/-- A number as it is written. -/
structure Figure where
  negative : Bool
  whole : Digits
  /-- A zero begins no longer number. -/
  lead : whole.bytes.head? = some 0x30 → whole.bytes = [0x30]
  fraction : Option Digits
  power : Option Power

namespace Power

/-- The text of an exponent. -/
def bytes (p : Power) : Bytes := p.letter :: (p.sign.bytes ++ p.digits.bytes)

end Power

namespace Figure

/-- The text of what stands behind the point, the point included. -/
def fractionBytes (f : Figure) : Bytes := f.fraction.elim [] fun ds => pointByte :: ds.bytes

/-- The text of the exponent, if there is one. -/
def powerBytes (f : Figure) : Bytes := f.power.elim [] Power.bytes

/-- The text of a figure. -/
def bytes (f : Figure) : Bytes :=
  (if f.negative then [minusByte] else []) ++ (f.whole.bytes ++ (f.fractionBytes ++ f.powerBytes))

/-- The parts of a figure. -/
def numeral (f : Figure) : Numeral :=
  ⟨f.negative, f.whole.values, f.fraction.elim [] Digits.values,
    f.power.map fun p => (p.sign.negative, p.digits.values)⟩

end Figure

/-! ## Digits under the reader -/

/-- The reader takes all digits, up to the first byte that is none. -/
theorem digitRun_append (ds : Digits) (rest : Bytes)
    (h : ∀ b, rest.head? = some b → isDigit b = false) :
    digitRun (ds.bytes ++ rest) = (ds.values, rest) := by
  have hnone : rest.takeWhile isDigit = [] ∧ rest.dropWhile isDigit = rest := by
    cases rest with
    | nil => exact ⟨rfl, rfl⟩
    | cons b more =>
      have hb : ¬ isDigit b = true := by rw [h b rfl]; simp
      rw [List.takeWhile_cons_of_neg hb, List.dropWhile_cons_of_neg hb]
      exact ⟨rfl, rfl⟩
  rw [digitRun, List.takeWhile_append_of_pos ds.digit, List.dropWhile_append_of_pos ds.digit,
    hnone.1, hnone.2, List.append_nil]
  rfl

/-- The digits before the point, none of them needless. -/
theorem readWhole_append (ds : Digits) (lead : ds.bytes.head? = some 0x30 → ds.bytes = [0x30])
    (rest : Bytes) (h : ∀ b, rest.head? = some b → isDigit b = false) :
    readWhole (ds.bytes ++ rest) = .ok (ds.values, rest) := by
  have hrun := digitRun_append ds rest h
  obtain ⟨b, more, hb, hdigit⟩ := ds.cons
  by_cases hzero : b = 0x30
  · have hone : ds.bytes = [0x30] := lead (by rw [hb, hzero]; rfl)
    have hrest : ¬ (rest.head?.any isDigit) = true := by
      cases hr : rest.head? with
      | none => simp
      | some c => simp [h c hr]
    rw [Digits.values, hone, List.cons_append, List.nil_append, readWhole, if_pos rfl,
      if_neg hrest]
    rfl
  · rw [hb, List.cons_append] at hrun ⊢
    rw [readWhole, if_neg hzero, if_pos hdigit, hrun]

/-! ## The parts of a figure under the reader -/

theorem readFraction_point (ds : Digits) (rest : Bytes)
    (h : ∀ b, rest.head? = some b → isDigit b = false) :
    readFraction (pointByte :: (ds.bytes ++ rest)) = .ok (ds.values, rest) := by
  rw [readFraction, if_pos rfl, digitRun_append ds rest h]
  -- there is a digit, so the reader does not miss one
  split
  next heq => exact absurd (Prod.mk.inj heq).1 ds.values_ne_nil
  next heq => exact absurd (Prod.mk.inj heq).1 ds.values_ne_nil
  next ds' rest' _ heq =>
    obtain ⟨rfl, rfl⟩ := Prod.mk.inj heq
    rfl

theorem readFraction_none (rest : Bytes) (h : ∀ b, rest.head? = some b → b ≠ pointByte) :
    readFraction rest = .ok ([], rest) := by
  cases rest with
  | nil => rfl
  | cons b more => rw [readFraction, if_neg (h b rfl)]

theorem readExponent_power (p : Power) (rest : Bytes)
    (h : ∀ b, rest.head? = some b → isDigit b = false) :
    readExponent (p.bytes ++ rest) = .ok (some (p.sign.negative, p.digits.values), rest) := by
  have hrun := digitRun_append p.digits rest h
  obtain ⟨b, more, hb, hdigit⟩ := p.digits.cons
  have hpower : ∀ negative, readPower negative (b :: (more ++ rest))
      = .ok (some (negative, p.digits.values), rest) := by
    intro negative
    rw [hb, List.cons_append] at hrun
    rw [readPower, if_pos hdigit, hrun]
  -- no digit is a sign
  have hplus : ¬ b = plusByte := by rintro rfl; revert hdigit; decide
  have hminus : ¬ b = minusByte := by rintro rfl; revert hdigit; decide
  rw [Power.bytes, List.cons_append, readExponent.eq_def, hb]
  simp only [if_pos p.isLetter]
  cases hsign : p.sign with
  | none =>
    simp only [Sign.bytes, List.nil_append, List.cons_append, if_neg hplus, if_neg hminus]
    exact hpower false
  | plus =>
    simp only [Sign.bytes, List.nil_append, List.cons_append, if_true]
    exact hpower false
  | minus =>
    simp only [Sign.bytes, List.nil_append, List.cons_append,
      if_neg (show ¬ minusByte = plusByte by decide), if_true]
    exact hpower true

theorem readExponent_none (rest : Bytes)
    (h : ∀ b, rest.head? = some b → isExponentLetter b = false) :
    readExponent rest = .ok (none, rest) := by
  cases rest with
  | nil => rfl
  | cons b more =>
    rw [readExponent.eq_def]
    simp only [h b rfl, Bool.false_eq_true, if_false]

/-! ## A whole figure -/

/-- An exponent, if any, ends the digits before it. -/
theorem Figure.head?_power (f : Figure) (rest : Bytes) (h : Ends rest) :
    ∀ b, (f.powerBytes ++ rest).head? = some b → isDigit b = false ∧ b ≠ pointByte := by
  intro b hb
  rw [powerBytes] at hb
  cases hp : f.power with
  | none =>
    rw [hp] at hb
    exact ⟨(h b hb).1, (h b hb).2.1⟩
  | some p =>
    rw [hp] at hb
    simp only [Option.elim_some, Power.bytes, List.cons_append, List.head?_cons,
      Option.some.injEq] at hb
    subst hb
    have hletter := p.isLetter
    rw [isExponentLetter, Bool.or_eq_true, beq_iff_eq, beq_iff_eq] at hletter
    rcases hletter with he | he <;> rw [he] <;> decide

/-- A point or an exponent, if any, ends the digits before it. -/
theorem Figure.head?_fraction (f : Figure) (rest : Bytes) (h : Ends rest) :
    ∀ b, (f.fractionBytes ++ (f.powerBytes ++ rest)).head? = some b → isDigit b = false := by
  intro b hb
  rw [fractionBytes] at hb
  cases hf : f.fraction with
  | none =>
    rw [hf] at hb
    exact (f.head?_power rest h b hb).1
  | some ds =>
    rw [hf] at hb
    simp only [Option.elim_some, List.cons_append, List.head?_cons, Option.some.injEq] at hb
    subst hb
    decide

/-- A figure begins with a minus sign exactly if it is negative. -/
theorem Figure.head?_bytes (f : Figure) (rest : Bytes) :
    ((f.bytes ++ rest).head? == some minusByte) = f.negative := by
  obtain ⟨b, more, hb, hdigit⟩ := f.whole.cons
  rw [bytes, hb]
  cases hneg : f.negative with
  | true => rfl
  | false =>
    simp only [Bool.false_eq_true, if_false, List.nil_append, List.cons_append, List.head?_cons]
    rw [beq_eq_false_iff_ne, ne_eq, Option.some.injEq]
    rintro rfl
    revert hdigit
    decide

/-- **The reader takes a figure apart into its parts**, and leaves what follows. -/
theorem readNumeral_figure (f : Figure) (rest : Bytes) (h : Ends rest) :
    readNumeral (f.bytes ++ rest) = .ok (f.numeral, rest) := by
  -- without its sign the input begins with the digits before the point
  have hinput : (if f.negative then (f.bytes ++ rest).drop 1 else f.bytes ++ rest)
      = f.whole.bytes ++ (f.fractionBytes ++ (f.powerBytes ++ rest)) := by
    rw [Figure.bytes]
    cases f.negative <;> simp
  have hfraction : readFraction (f.fractionBytes ++ (f.powerBytes ++ rest))
      = .ok (f.fraction.elim [] Digits.values, f.powerBytes ++ rest) := by
    rw [Figure.fractionBytes]
    cases f.fraction with
    | none => exact readFraction_none _ fun b hb => (f.head?_power rest h b hb).2
    | some ds => exact readFraction_point ds _ fun b hb => (f.head?_power rest h b hb).1
  have hpower : readExponent (f.powerBytes ++ rest)
      = .ok (f.power.map fun p => (p.sign.negative, p.digits.values), rest) := by
    rw [Figure.powerBytes]
    cases f.power with
    | none => exact readExponent_none _ fun b hb => (h b hb).2.2
    | some p => exact readExponent_power p rest fun b hb => (h b hb).1
  rw [readNumeral]
  simp only [Figure.head?_bytes, hinput,
    readWhole_append f.whole f.lead _ (f.head?_fraction rest h), bind, Except.bind, hfraction,
    hpower]
  rfl

end ImageText.Json
