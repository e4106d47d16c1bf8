import ImageText.Json.Printer
import ImageText.Proofs.Json.Numeral
import ImageText.Proofs.Text.Scan

/-!
# Whole numbers, written and read

A whole number is written as its decimal digits with a minus sign before them if it is negative,
which makes a `Figure`. Reading takes digits into the significand as long as it fits 64 bits, so a
number that fits comes back as itself:

> `value_ofInt`: from `-2^63` up to `2^64 - 1` a written number is read as a whole number, the same.

What happens to the others is the business of `Proofs.Json.Range`.
-/

namespace ImageText.Json

open Text (encode encodeChar)

/-! ## Digits as characters -/

theorem toNat_of_isDigit {c : Char} (h : c.isDigit = true) : 0x30 ≤ c.toNat ∧ c.toNat ≤ 0x39 := by
  rw [Char.isDigit, Bool.and_eq_true, decide_eq_true_eq, decide_eq_true_eq] at h
  exact ⟨h.1, h.2⟩

/-- A decimal digit is encoded in one byte, which is a digit with the same value. -/
theorem encodeChar_digit {c : Char} (h : c.isDigit = true) :
    ∃ b, encodeChar c = [b] ∧ isDigit b = true ∧ digitValue b = c.toNat - 0x30
      ∧ (b = 0x30 ↔ c = '0') := by
  obtain ⟨hlow, hhigh⟩ := toNat_of_isDigit h
  have hb : c.toNat.toUInt8.toNat = c.toNat := Text.toNat_toUInt8 (by omega)
  refine ⟨c.toNat.toUInt8, ?_, ?_, ?_, ?_⟩
  · rw [encodeChar]
    simp only [if_pos (show c.toNat < 0x80 by omega)]
  · rw [isDigit, Bool.and_eq_true, decide_eq_true_eq, decide_eq_true_eq,
      UInt8.le_iff_toNat_le, UInt8.le_iff_toNat_le, hb]
    exact ⟨hlow, hhigh⟩
  · rw [digitValue, hb]
  · rw [← UInt8.toNat_inj, hb]
    constructor
    · intro e
      rw [← Char.ofNat_toNat c, e]
      rfl
    · rintro rfl
      rfl

theorem encode_digits {cs : List Char} (h : ∀ c ∈ cs, c.isDigit = true) :
    (∀ b ∈ encode cs, isDigit b = true)
      ∧ (encode cs).map digitValue = cs.map (fun c => c.toNat - 0x30) := by
  induction cs with
  | nil => exact ⟨fun b hb => absurd hb (List.not_mem_nil), rfl⟩
  | cons c cs ih =>
    obtain ⟨b, hb, hdigit, hvalue, -⟩ := encodeChar_digit (h c (List.mem_cons_self ..))
    obtain ⟨hall, hmap⟩ := ih fun d hd => h d (List.mem_cons_of_mem _ hd)
    rw [encode, List.flatMap_cons, hb, ← encode, List.singleton_append]
    constructor
    · intro b' hb'
      rcases List.mem_cons.mp hb' with rfl | hb'
      · exact hdigit
      · exact hall b' hb'
    · rw [List.map_cons, List.map_cons, hvalue, hmap]

/-- Digits from characters. -/
def Digits.ofChars (cs : List Char) (hne : cs ≠ []) (h : ∀ c ∈ cs, c.isDigit = true) : Digits where
  bytes := encode cs
  ne_nil := by
    cases cs with
    | nil => exact absurd rfl hne
    | cons c cs =>
      obtain ⟨b, hb, -⟩ := encodeChar_digit (h c (List.mem_cons_self ..))
      rw [encode, List.flatMap_cons, hb]
      simp
  digit := (encode_digits h).1

theorem Digits.values_ofChars {cs : List Char} (hne : cs ≠ []) (h : ∀ c ∈ cs, c.isDigit = true) :
    (Digits.ofChars cs hne h).values = cs.map fun c => c.toNat - 0x30 :=
  (encode_digits h).2

/-- Digits that begin with a zero only if they are no more than that. -/
theorem Digits.lead_ofChars {cs : List Char} (hne : cs ≠ []) (h : ∀ c ∈ cs, c.isDigit = true)
    (hzero : cs.head? = some '0' → cs = ['0']) :
    (Digits.ofChars cs hne h).bytes.head? = some 0x30
      → (Digits.ofChars cs hne h).bytes = [0x30] := by
  intro hhead
  cases cs with
  | nil => exact absurd rfl hne
  | cons c cs =>
    obtain ⟨b, hb, -, -, hiff⟩ := encodeChar_digit (h c (List.mem_cons_self ..))
    simp only [Digits.ofChars, encode, List.flatMap_cons, hb, List.singleton_append,
      List.head?_cons, Option.some.injEq] at hhead
    have hcs : c :: cs = ['0'] := hzero (by rw [hiff.mp hhead]; rfl)
    simp only [Digits.ofChars, hcs]
    rfl

/-! ## The digits of a natural number -/

theorem toDigits_digit (n : Nat) : ∀ c ∈ Nat.toDigits 10 n, c.isDigit = true :=
  fun _ hc => Nat.isDigit_of_mem_toDigits (by decide) (by decide) hc

/-- Only the digits of zero begin with a zero. -/
theorem head?_toDigits (n : Nat) :
    (Nat.toDigits 10 n).head? = some '0' → Nat.toDigits 10 n = ['0'] := by
  induction n using Nat.strongRecOn with
  | ind n ih =>
    intro hhead
    rcases Nat.lt_or_ge n 10 with hlt | hge
    · rw [Nat.toDigits_of_lt_base hlt] at hhead ⊢
      rw [List.head?_cons, Option.some.injEq] at hhead
      rw [hhead]
    · -- a digit more: what stands before it begins with a zero too, so there is nothing before it
      have hfirst : (Nat.toDigits 10 (n / 10)).head? = some '0' := by
        rw [← hhead, Nat.toDigits_of_base_le (by decide) hge]
        cases hds : Nat.toDigits 10 (n / 10) with
        | nil => exact absurd hds Nat.toDigits_ne_nil
        | cons c cs => rfl
      have hzero := ih (n / 10) (by omega) hfirst
      have hvalue := Nat.ofDigitChars_ten_toDigits (n := n / 10)
      rw [hzero] at hvalue
      have : Nat.ofDigitChars 10 ['0'] 0 = 0 := rfl
      omega

/-- The number that digits continue. -/
def significand (start : Nat) (ds : List Nat) : Nat := ds.foldl (fun n d => n * 10 + d) start

theorem significand_cons (start d : Nat) (ds : List Nat) :
    significand start (d :: ds) = significand (start * 10 + d) ds := rfl

theorem le_significand (start : Nat) (ds : List Nat) : start ≤ significand start ds := by
  induction ds generalizing start with
  | nil => exact Nat.le_refl _
  | cons d ds ih =>
    rw [significand_cons]
    exact Nat.le_trans (by omega) (ih (start * 10 + d))

theorem significand_digits (cs : List Char) (start : Nat) :
    significand start (cs.map fun c => c.toNat - 0x30) = Nat.ofDigitChars 10 cs start := by
  induction cs generalizing start with
  | nil => rfl
  | cons c cs ih =>
    rw [List.map_cons, significand_cons, ih, Nat.ofDigitChars_cons, Nat.mul_comm start 10]
    rfl

/-- As long as the number fits, the reader takes every digit. -/
theorem absorb_all (start : Nat) (ds : List Nat) (h : significand start ds ≤ maxSignificand) :
    absorb start ds = (significand start ds, ds.length) := by
  induction ds generalizing start with
  | nil => rfl
  | cons d ds ih =>
    rw [significand_cons] at h
    have hnext : start * 10 + d ≤ maxSignificand := Nat.le_trans (le_significand _ ds) h
    rw [absorb]
    simp only [if_pos hnext, ih _ h]
    rfl

/-! ## A whole number as a figure -/

/-- A whole number as it is written. -/
def Figure.ofInt (n : Int) : Figure where
  negative := decide (n < 0)
  whole := .ofChars (Nat.toDigits 10 n.natAbs) Nat.toDigits_ne_nil (toDigits_digit _)
  lead := Digits.lead_ofChars _ _ (head?_toDigits _)
  fraction := none
  power := none

theorem Figure.bytes_ofInt (n : Int) : (Figure.ofInt n).bytes = encode (wholeText n) := by
  rw [wholeText, Text.encode_append, bytes]
  show (if decide (n < 0) = true then [minusByte] else [])
    ++ (encode (Nat.toDigits 10 n.natAbs) ++ ([] ++ [])) = _
  rw [List.append_nil, List.append_nil]
  by_cases h : n < 0
  · rw [if_pos h, if_pos (decide_eq_true h)]
    rfl
  · rw [if_neg h, if_neg (by simpa using h)]
    rfl

theorem significand_ofInt (n : Int) : significand 0 (Figure.ofInt n).numeral.whole = n.natAbs := by
  show significand 0 (Figure.ofInt n).whole.values = _
  rw [Figure.ofInt, Digits.values_ofChars, significand_digits, Nat.ofDigitChars_ten_toDigits]

/-- **A whole number that fits is read as itself.** -/
theorem value_ofInt {n : Int} (hlow : -0x8000000000000000 ≤ n) (hhigh : n < 0x10000000000000000) :
    (Figure.ofInt n).numeral.value = .ok (.whole n) := by
  have hfit : n.natAbs ≤ maxSignificand := by rw [maxSignificand]; omega
  have habsorb := absorb_all 0 (Figure.ofInt n).numeral.whole
    (by rw [significand_ofInt]; exact hfit)
  rw [significand_ofInt] at habsorb
  have hpart : (Figure.ofInt n).numeral = ⟨decide (n < 0), (Figure.ofInt n).numeral.whole, [], none⟩ :=
    rfl
  rw [Numeral.value, habsorb, hpart]
  simp only [absorb, Nat.sub_self, List.isEmpty_nil, true_and, if_true]
  by_cases h : n < 0
  -- a number below zero is read by its absolute value, which is not zero
  · have hzero : ¬ (n.natAbs = 0 ∨ maxNegative < n.natAbs) := by rw [maxNegative]; omega
    simp only [h, decide_true, Bool.not_true, Bool.false_eq_true, if_false]
    refine (if_neg hzero).trans ?_
    rw [show -(n.natAbs : Int) = n by omega]
  · simp only [h, decide_false, Bool.not_false, if_true]
    rw [show (n.natAbs : Int) = n by omega]

end ImageText.Json
