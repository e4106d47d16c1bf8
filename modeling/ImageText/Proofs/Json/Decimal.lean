import Mathlib.Algebra.Ring.Nat
import ImageText.Proofs.Json.Whole

/-!
# Doubles, written

A double is laid out in one of four ways: behind `0.` and some zeros, before some zeros and `.0`, with
a point among its digits, or with an exponent. Each of them is a `Figure`, and each denotes the decimal
that was laid out:

> `exists_figure`: the text of `digits * 10 ^ exponent` is a figure with that value.

What a figure denotes is a product `digits * 10 ^ scale` too, where the digits on both sides of the
point are taken together.
-/

namespace ImageText.Json

open Text (encode)
open Decimal (Scientific)

/-! ## The value of a numeral -/

namespace Numeral

/-- All digits of a numeral as one number. -/
def digits (n : Numeral) : Nat := significand 0 (n.whole ++ n.fraction)

/-- The exponent of a numeral, zero without one. -/
def power (n : Numeral) : Int :=
  n.exponent.elim 0 fun e => if e.1 then -(significand 0 e.2 : Int) else significand 0 e.2

/-- The power of ten that goes with all digits. -/
def scale (n : Numeral) : Int := n.power - n.fraction.length

end Numeral

/-! ## Rows of digits -/

/-- The value of a digit. -/
def charValue (c : Char) : Nat := c.toNat - 0x30

theorem significand_append (start : Nat) (ds es : List Nat) :
    significand start (ds ++ es) = significand (significand start ds) es :=
  List.foldl_append

theorem significand_zeros (start k : Nat) :
    significand start (List.replicate k 0) = start * 10 ^ k := by
  induction k generalizing start with
  | zero => rw [List.replicate_zero, Nat.pow_zero, Nat.mul_one]; rfl
  | succ k ih =>
    rw [List.replicate_succ, significand_cons, ih, Nat.add_zero, Nat.pow_succ, Nat.mul_assoc,
      Nat.mul_comm 10]

theorem map_charValue_zeros (k : Nat) :
    (List.replicate k '0').map charValue = List.replicate k 0 := by
  rw [List.map_replicate]
  rfl

theorem significand_toDigits (n : Nat) : significand 0 ((Nat.toDigits 10 n).map charValue) = n :=
  (significand_digits _ 0).trans Nat.ofDigitChars_ten_toDigits

theorem digits_zeros (k : Nat) : ∀ c ∈ List.replicate k '0', c.isDigit = true := by
  intro c hc
  rw [List.eq_of_mem_replicate hc]
  rfl

/-! ## A figure with a point -/

namespace Figure

/-- A minus sign, if there is one. -/
theorem encode_sign (negative : Bool) :
    encode (if negative then ['-'] else []) = if negative then [minusByte] else [] := by
  cases negative <;> rfl

/-- Digits before the point and digits behind it. -/
def pointed (negative : Bool) (whole fraction : List Char) (hne : whole ≠ [])
    (hwhole : ∀ c ∈ whole, c.isDigit = true) (hlead : whole.head? = some '0' → whole = ['0'])
    (hne' : fraction ≠ []) (hfraction : ∀ c ∈ fraction, c.isDigit = true) : Figure where
  negative := negative
  whole := .ofChars whole hne hwhole
  lead := Digits.lead_ofChars hne hwhole hlead
  fraction := some (.ofChars fraction hne' hfraction)
  power := none

section Pointed

variable (negative : Bool) {whole fraction : List Char} (hne : whole ≠ [])
  (hwhole : ∀ c ∈ whole, c.isDigit = true) (hlead : whole.head? = some '0' → whole = ['0'])
  (hne' : fraction ≠ []) (hfraction : ∀ c ∈ fraction, c.isDigit = true)

theorem bytes_pointed :
    (pointed negative whole fraction hne hwhole hlead hne' hfraction).bytes
      = encode ((if negative then ['-'] else []) ++ (whole ++ '.' :: fraction)) := by
  rw [Text.encode_append, Text.encode_append, encode_sign, encode, encode, List.flatMap_cons]
  show (if negative then [minusByte] else []) ++ (encode whole ++ ((pointByte :: encode fraction) ++ []))
    = _
  rw [List.append_nil]
  rfl

theorem digits_pointed :
    (pointed negative whole fraction hne hwhole hlead hne' hfraction).numeral.digits
      = significand 0 ((whole ++ fraction).map charValue) := by
  show significand 0 ((Digits.ofChars whole hne hwhole).values
    ++ (Digits.ofChars fraction hne' hfraction).values) = _
  rw [Digits.values_ofChars, Digits.values_ofChars, List.map_append]
  rfl

theorem scale_pointed :
    (pointed negative whole fraction hne hwhole hlead hne' hfraction).numeral.scale
      = -(fraction.length : Int) := by
  show (0 : Int) - ((Digits.ofChars fraction hne' hfraction).values.length : Int) = _
  rw [Digits.values_ofChars, List.length_map, Int.zero_sub]

end Pointed

/-! ## A figure with an exponent -/

/-- The sign of an exponent. -/
def signOf (x : Int) : Sign := if x < 0 then .minus else .plus

theorem negative_signOf (x : Int) : (signOf x).negative = decide (x < 0) := by
  rw [signOf]
  by_cases h : x < 0
  · rw [if_pos h, decide_eq_true h]
    rfl
  · rw [if_neg h, decide_eq_false h]
    rfl

/-- The digits behind a point, if there are any. -/
def tailOf (tail : List Char) (htail : ∀ c ∈ tail, c.isDigit = true) : Option Digits :=
  if hne : tail = [] then none else some (.ofChars tail hne htail)

theorem tailOf_values {tail : List Char} (htail : ∀ c ∈ tail, c.isDigit = true) :
    (tailOf tail htail).elim [] Digits.values = tail.map charValue := by
  rw [tailOf]
  split
  next h => rw [h]; rfl
  next h => exact Digits.values_ofChars h htail

theorem tailOf_bytes {tail : List Char} (htail : ∀ c ∈ tail, c.isDigit = true) :
    ((tailOf tail htail).elim [] fun ds => pointByte :: ds.bytes)
      = encode (if tail.isEmpty then [] else '.' :: tail) := by
  rw [tailOf]
  split
  next h => rw [h]; rfl
  next h => rw [List.isEmpty_eq_false_iff.mpr h]; rfl

/-- One digit before the point, perhaps some behind it, and an exponent with some zeros before its
digits. -/
def scientific (negative : Bool) (first : Char) (tail : List Char) (zeros : Nat) (x : Int)
    (hfirst : first.isDigit = true) (htail : ∀ c ∈ tail, c.isDigit = true) : Figure where
  negative := negative
  whole := .ofChars [first] (List.cons_ne_nil _ _) (fun c hc => by
    rw [List.mem_singleton.mp hc]; exact hfirst)
  lead := Digits.lead_ofChars _ _ fun h => by
    rw [List.head?_cons, Option.some.injEq] at h; rw [h]
  fraction := tailOf tail htail
  power := some {
    letter := 0x65
    isLetter := rfl
    sign := signOf x
    digits := .ofChars (List.replicate zeros '0' ++ Nat.toDigits 10 x.natAbs)
      (by rw [ne_eq, List.append_eq_nil_iff]; exact fun h => Nat.toDigits_ne_nil h.2)
      (List.forall_mem_append.mpr ⟨digits_zeros zeros, toDigits_digit _⟩) }

section Scientific

variable (negative : Bool) {first : Char} {tail : List Char} (zeros : Nat) (x : Int)
  (hfirst : first.isDigit = true) (htail : ∀ c ∈ tail, c.isDigit = true)

theorem bytes_scientific :
    (scientific negative first tail zeros x hfirst htail).bytes
      = encode ((if negative then ['-'] else []) ++ ([first] ++ (if tail.isEmpty then [] else '.' :: tail)
          ++ 'e' :: (if x < 0 then '-' else '+')
            :: (List.replicate zeros '0' ++ Nat.toDigits 10 x.natAbs))) := by
  have hsign : (signOf x).bytes = encode [if x < 0 then '-' else '+'] := by
    rw [signOf]
    split <;> rfl
  rw [Text.encode_append, encode_sign, Text.encode_append, Text.encode_append, ← tailOf_bytes htail,
    List.append_assoc, ← List.singleton_append (x := 'e'), Text.encode_append,
    ← List.singleton_append (x := if x < 0 then '-' else '+'), Text.encode_append, ← hsign]
  rfl

theorem digits_scientific :
    (scientific negative first tail zeros x hfirst htail).numeral.digits
      = significand 0 ((first :: tail).map charValue) := by
  show significand 0 ((scientific negative first tail zeros x hfirst htail).whole.values
    ++ (tailOf tail htail).elim [] Digits.values) = _
  rw [scientific, Digits.values_ofChars, tailOf_values]
  rfl

theorem power_scientific :
    (scientific negative first tail zeros x hfirst htail).numeral.power = x := by
  have hpower : significand 0 (Digits.ofChars (List.replicate zeros '0' ++ Nat.toDigits 10 x.natAbs)
      (by rw [ne_eq, List.append_eq_nil_iff]; exact fun h => Nat.toDigits_ne_nil h.2)
      (List.forall_mem_append.mpr ⟨digits_zeros zeros, toDigits_digit _⟩)).values = x.natAbs := by
    rw [Digits.values_ofChars]
    show significand 0 (List.map charValue _) = _
    rw [List.map_append, significand_append, map_charValue_zeros, significand_zeros, Nat.zero_mul,
      significand_toDigits]
  rw [Numeral.power]
  show (if (signOf x).negative = true then _ else _) = _
  rw [negative_signOf]
  by_cases h : x < 0
  · rw [decide_eq_true h, if_pos rfl, hpower]
    omega
  · rw [decide_eq_false h, if_neg (by decide), hpower]
    omega

theorem scale_scientific :
    (scientific negative first tail zeros x hfirst htail).numeral.scale = x - tail.length := by
  rw [Numeral.scale, power_scientific]
  show x - (((tailOf tail htail).elim [] Digits.values).length : Int) = _
  rw [tailOf_values, List.length_map]

end Scientific

end Figure

/-! ## The four layouts -/

/-- A figure is written as `cs` and denotes the decimal `s`, perhaps with zeros behind its digits. -/
structure Denotes (f : Figure) (cs : List Char) (s : Scientific) : Prop where
  bytes : f.bytes = encode cs
  value : ∃ k : Nat, f.numeral.digits = s.digits * 10 ^ k ∧ f.numeral.scale = s.exponent - k
  /-- An exponent is the place of the first digit. -/
  power : f.numeral.power = 0
    ∨ f.numeral.power = s.exponent + (Nat.toDigits 10 s.digits).length - 1

section Layouts

variable (negative : Bool) {ds : List Char} {s : Scientific}

/-- Zeros between the point and the digits. -/
theorem denotes_small (hne : ds ≠ []) (hdigit : ∀ c ∈ ds, c.isDigit = true)
    (hvalue : significand 0 (ds.map charValue) = s.digits) (zeros : Nat)
    (h : s.exponent = -((zeros + ds.length : Nat) : Int)) :
    ∃ f, f.negative = negative ∧ Denotes f ((if negative then ['-'] else [])
      ++ '0' :: '.' :: (List.replicate zeros '0' ++ ds)) s := by
  refine ⟨.pointed negative ['0'] (List.replicate zeros '0' ++ ds) (List.cons_ne_nil _ _)
    (digits_zeros 1) (fun _ => rfl) (by rw [ne_eq, List.append_eq_nil_iff]; exact fun h => hne h.2)
    (List.forall_mem_append.mpr ⟨digits_zeros _, hdigit⟩), rfl,
    ⟨Figure.bytes_pointed .., ⟨0, ?_, ?_⟩, Or.inl rfl⟩⟩
  · rw [Figure.digits_pointed, List.map_append, List.map_append, significand_append,
      significand_append, map_charValue_zeros, significand_zeros, Nat.pow_zero, Nat.mul_one]
    rw [show significand 0 (['0'].map charValue) = 0 from rfl, Nat.zero_mul, hvalue]
  · rw [Figure.scale_pointed, List.length_append, List.length_replicate, h]
    omega

/-- Zeros between the digits and the point. -/
theorem denotes_padded (hne : ds ≠ []) (hdigit : ∀ c ∈ ds, c.isDigit = true)
    (hhead : ds.head? = some '0' → ds = ['0'])
    (hvalue : significand 0 (ds.map charValue) = s.digits) (zeros : Nat)
    (hzeros : ds = ['0'] → zeros = 0) (h : s.exponent = (zeros : Int)) :
    ∃ f, f.negative = negative ∧ Denotes f ((if negative then ['-'] else [])
      ++ (ds ++ List.replicate zeros '0' ++ ['.', '0'])) s := by
  have hlead : (ds ++ List.replicate zeros '0').head? = some '0'
      → ds ++ List.replicate zeros '0' = ['0'] := by
    intro hd
    have hd : ds.head? = some '0' := by
      rw [List.head?_append] at hd
      cases ds with
      | nil => exact absurd rfl hne
      | cons d tail => exact hd
    rw [hhead hd, hzeros (hhead hd)]
    rfl
  refine ⟨.pointed negative (ds ++ List.replicate zeros '0') ['0']
    (by rw [ne_eq, List.append_eq_nil_iff]; exact fun h => hne h.1)
    (List.forall_mem_append.mpr ⟨hdigit, digits_zeros _⟩) hlead (List.cons_ne_nil _ _) (digits_zeros 1), rfl,
    ⟨Figure.bytes_pointed .., ⟨zeros + 1, ?_, ?_⟩, Or.inl rfl⟩⟩
  · rw [Figure.digits_pointed, List.map_append, List.map_append, significand_append,
      significand_append, map_charValue_zeros, significand_zeros, hvalue]
    show significand (s.digits * 10 ^ zeros) [0] = _
    rw [significand_cons, Nat.add_zero, Nat.pow_succ, Nat.mul_assoc]
    rfl
  · rw [Figure.scale_pointed, h, List.length_singleton]
    omega

/-- The point among the digits. -/
theorem denotes_split (hdigit : ∀ c ∈ ds, c.isDigit = true)
    (hhead : ds.head? = some '0' → ds = ['0'])
    (hvalue : significand 0 (ds.map charValue) = s.digits) (whole : Nat) (hpos : 0 < whole)
    (hlt : whole < ds.length) (h : s.exponent = (whole : Int) - ds.length) :
    ∃ f, f.negative = negative ∧ Denotes f ((if negative then ['-'] else [])
      ++ (ds.take whole ++ '.' :: ds.drop whole)) s := by
  have hne : ds.take whole ≠ [] := by
    intro e
    have := congrArg List.length e
    rw [List.length_take, List.length_nil] at this
    omega
  have hne' : ds.drop whole ≠ [] := by
    rw [ne_eq, List.drop_eq_nil_iff]
    omega
  have hlead : (ds.take whole).head? = some '0' → ds.take whole = ['0'] := by
    intro hd
    have hone := hhead (by rw [← List.take_append_drop whole ds, List.head?_append, hd]; rfl)
    rw [hone, List.length_singleton] at hlt
    omega
  refine ⟨.pointed negative (ds.take whole) (ds.drop whole) hne
    (fun c hc => hdigit c (List.mem_of_mem_take hc)) hlead hne'
    (fun c hc => hdigit c (List.mem_of_mem_drop hc)), rfl,
    ⟨Figure.bytes_pointed .., ⟨0, ?_, ?_⟩, Or.inl rfl⟩⟩
  · rw [Figure.digits_pointed, List.take_append_drop, hvalue, Nat.pow_zero, Nat.mul_one]
  · rw [Figure.scale_pointed, List.length_drop, h]
    omega

/-- A point behind the first digit, and an exponent. -/
theorem denotes_scientific {d : Char} {tail : List Char} (hdigit : ∀ c ∈ d :: tail, c.isDigit = true)
    (hvalue : significand 0 ((d :: tail).map charValue) = s.digits)
    (hlength : (Nat.toDigits 10 s.digits).length = tail.length + 1) (zeros : Nat) (x : Int)
    (h : s.exponent = x - tail.length) :
    ∃ f, f.negative = negative ∧ Denotes f ((if negative then ['-'] else [])
      ++ ([d] ++ (if tail.isEmpty then [] else '.' :: tail)
        ++ 'e' :: (if x < 0 then '-' else '+')
          :: (List.replicate zeros '0' ++ Nat.toDigits 10 x.natAbs))) s := by
  refine ⟨.scientific negative d tail zeros x (hdigit d (List.mem_cons_self ..))
    (fun c hc => hdigit c (List.mem_cons_of_mem _ hc)), rfl,
    ⟨Figure.bytes_scientific .., ⟨0, ?_, ?_⟩, Or.inr ?_⟩⟩
  · rw [Figure.digits_scientific, hvalue, Nat.pow_zero, Nat.mul_one]
  · rw [Figure.scale_scientific, h]
    omega
  · rw [Figure.power_scientific, hlength, h]
    omega

end Layouts

/-- **The text of a decimal is a figure that denotes it.** Zero is written on the grid of the whole
numbers. -/
theorem exists_figure (layout : Decimal.Layout) (negative : Bool) (s : Scientific)
    (hzero : s.digits = 0 → s.exponent = 0) :
    ∃ f, f.negative = negative
      ∧ Denotes f ((if negative then ['-'] else []) ++ layout.magnitudeText s) s := by
  have hne : Nat.toDigits 10 s.digits ≠ [] := Nat.toDigits_ne_nil
  have hdigit := toDigits_digit s.digits
  have hhead := head?_toDigits s.digits
  have hvalue := significand_toDigits s.digits
  have hzeros : Nat.toDigits 10 s.digits = ['0'] → s.exponent = 0 := fun h => hzero (by
    rw [h] at hvalue
    exact hvalue.symm)
  obtain ⟨ds, hds⟩ : ∃ ds, Nat.toDigits 10 s.digits = ds := ⟨_, rfl⟩
  rw [Decimal.Layout.magnitudeText]
  rw [hds] at hne hdigit hhead hvalue hzeros ⊢
  have hlength : 0 < ds.length := List.length_pos_iff.mpr hne
  dsimp only
  by_cases hrange : layout.least ≤ s.exponent + ds.length - 1
      ∧ s.exponent + ds.length - 1 ≤ layout.most
  · rw [if_pos hrange]
    by_cases hneg : s.exponent + ds.length - 1 < 0
    · rw [if_pos hneg]
      -- the digits stand behind the point
      exact denotes_small negative hne hdigit hvalue _ (by omega)
    · rw [if_neg hneg]
      by_cases hshort : ds.length ≤ (s.exponent + ds.length - 1).toNat + 1
      · rw [if_pos hshort]
        -- they stand before it
        exact denotes_padded negative hne hdigit hhead hvalue _
          (fun h => by rw [hzeros h, h]; rfl) (by omega)
      · rw [if_neg hshort]
        -- they stand on both sides of it
        exact denotes_split negative hdigit hhead hvalue _ (by omega) (by omega) (by omega)
  · rw [if_neg hrange]
    cases ds with
    | nil => exact absurd rfl hne
    | cons d tail =>
      rw [List.length_cons]
      exact denotes_scientific negative hdigit hvalue (congrArg List.length hds) _ _ (by omega)

end ImageText.Json
