import ImageText.Proofs.Decimal.Chain
import ImageText.Proofs.Json.Decimal

/-!
# Numbers that are too large

Of the digits of a number the reader keeps as many as fit 64 bits, and it multiplies what it has kept by
a power of ten. What it keeps is never more than what was written, so that a number well within the
format is read. Near the end of the format the two roundings decide:

> `inRange_of_le`: digits whose number leaves room for two roundings are in range,
> `isSome_value_ofInt`: a whole number is in range exactly if it is below `wholeBound`.
-/

namespace ImageText.Json

open Decimal (Magnitude)
open Decimal.Magnitude (overflow)

/-! ## The digits that are kept -/

theorem pow_le_significand (start : Nat) (ds : List Nat) :
    start * 10 ^ ds.length ≤ significand start ds := by
  induction ds generalizing start with
  | nil => exact Nat.le_of_eq (Nat.mul_one start)
  | cons d ds ih =>
    rw [significand_cons, List.length_cons, Nat.pow_succ, Nat.mul_comm (10 ^ ds.length),
      ← Nat.mul_assoc]
    exact Nat.le_trans (Nat.mul_le_mul_right _ (Nat.le_add_right _ _)) (ih _)

theorem significand_lt_pow (start : Nat) {ds : List Nat} (h : ∀ d ∈ ds, d < 10) :
    significand start ds < (start + 1) * 10 ^ ds.length := by
  induction ds generalizing start with
  | nil => exact Nat.lt_of_lt_of_eq (Nat.lt_succ_self start) (Nat.mul_one _).symm
  | cons d ds ih =>
    have hd := h d (List.mem_cons_self ..)
    rw [significand_cons, List.length_cons, Nat.pow_succ, Nat.mul_comm (10 ^ ds.length),
      ← Nat.mul_assoc]
    exact Nat.lt_of_lt_of_le (ih _ fun e he => h e (List.mem_cons_of_mem _ he))
      (Nat.mul_le_mul_right _ (by omega))

/-- The digits that are kept, and the first of the others, which does not fit. -/
theorem absorb_spec (start : Nat) (ds : List Nat) :
    ∃ more, more <:+ ds ∧ ds.length = (absorb start ds).2 + more.length
      ∧ significand start ds = significand (absorb start ds).1 more
      ∧ ∀ d rest, more = d :: rest → maxSignificand < (absorb start ds).1 * 10 + d := by
  induction ds generalizing start with
  | nil => exact ⟨[], List.suffix_refl _, rfl, rfl, fun _ _ h => nomatch h⟩
  | cons d ds ih =>
    rw [absorb]
    by_cases h : start * 10 + d ≤ maxSignificand
    · obtain ⟨more, hsuffix, hlength, hvalue, hstop⟩ := ih (start * 10 + d)
      simp only [if_pos h]
      refine ⟨more, hsuffix.trans (List.suffix_cons d ds), ?_, hvalue, hstop⟩
      rw [List.length_cons, hlength]
      omega
    · simp only [if_neg h]
      refine ⟨d :: ds, List.suffix_refl _, (Nat.zero_add _).symm, rfl, ?_⟩
      rintro _ _ ⟨⟩
      omega

theorem absorb_le {start : Nat} (ds : List Nat) (h : start ≤ maxSignificand) :
    (absorb start ds).1 ≤ maxSignificand := by
  induction ds generalizing start with
  | nil => exact h
  | cons d ds ih =>
    rw [absorb]
    by_cases hd : start * 10 + d ≤ maxSignificand
    · simp only [if_pos hd]
      exact ih hd
    · simp only [if_neg hd]
      exact h

theorem absorb_none {start : Nat} {ds : List Nat} (h : (absorb start ds).2 = 0) :
    (absorb start ds).1 = start := by
  cases ds with
  | nil => rfl
  | cons d ds =>
    rw [absorb] at h ⊢
    by_cases hd : start * 10 + d ≤ maxSignificand
    · simp only [if_pos hd] at h
      omega
    · simp only [if_neg hd]

namespace Numeral

/-- The significand that is kept of a numeral. -/
def kept (n : Numeral) : Nat := (absorb (absorb 0 n.whole).1 n.fraction).1

/-- The power of ten that goes with it. -/
def keptPower (n : Numeral) : Int :=
  ((n.whole.length - (absorb 0 n.whole).2 : Nat) : Int)
    - ((absorb (absorb 0 n.whole).1 n.fraction).2 : Int)

theorem kept_fits (n : Numeral) : n.kept ≤ maxSignificand :=
  absorb_le _ (absorb_le _ (Nat.zero_le _))

/-- **What is kept is never more than what was written.** -/
theorem kept_le (n : Numeral) :
    (n.kept * 10 ^ n.keptPower : ℚ) ≤ n.digits * 10 ^ (-(n.fraction.length : ℤ)) := by
  have hten : ∀ e : ℤ, (0 : ℚ) < 10 ^ e := fun e => zpow_pos (by norm_num) e
  obtain ⟨more, -, hlength, hvalue, hstop⟩ := absorb_spec 0 n.whole
  obtain ⟨rest, -, hlength', hvalue', -⟩ := absorb_spec (absorb 0 n.whole).1 n.fraction
  have hdropped : n.whole.length - (absorb 0 n.whole).2 = more.length := by omega
  have hdigits : n.digits = significand (significand 0 n.whole) n.fraction :=
    significand_append 0 n.whole n.fraction
  rw [keptPower, hdropped]
  cases more with
  | nil =>
    -- every digit before the point was kept
    have hle : n.kept * 10 ^ rest.length ≤ n.digits := by
      rw [hdigits, hvalue]
      show _ ≤ significand (absorb 0 n.whole).1 n.fraction
      rw [hvalue']
      exact pow_le_significand _ _
    have hle : (n.kept * 10 ^ rest.length : ℚ) ≤ n.digits := by exact_mod_cast hle
    have hpower : (((([] : List Nat).length : Nat) : ℤ)
        - ((absorb (absorb 0 n.whole).1 n.fraction).2 : ℤ))
          = (rest.length : ℤ) + -(n.fraction.length : ℤ) := by
      rw [List.length_nil, hlength']
      omega
    rw [hpower, zpow_add₀ (by norm_num), ← mul_assoc, zpow_natCast]
    exact mul_le_mul_of_nonneg_right hle (hten _).le
  | cons d others =>
    -- the digit `d` did not fit, so nothing that fits is as much
    have hhead := hstop d others rfl
    have hwhole : ((absorb 0 n.whole).1 * 10 + d) * 10 ^ others.length ≤ significand 0 n.whole := by
      rw [hvalue, significand_cons]
      exact pow_le_significand _ _
    have hall : (significand 0 n.whole : ℚ) ≤ n.digits * 10 ^ (-(n.fraction.length : ℤ)) := by
      have := pow_le_significand (significand 0 n.whole) n.fraction
      rw [← hdigits] at this
      rw [zpow_neg, ← div_eq_mul_inv, le_div_iff₀ (hten _), zpow_natCast]
      exact_mod_cast this
    refine le_trans ?_ hall
    refine le_trans ?_ (show ((((absorb 0 n.whole).1 * 10 + d) * 10 ^ others.length : Nat) : ℚ) ≤ _ by
      exact_mod_cast hwhole)
    rw [Nat.cast_mul, Nat.cast_pow, Nat.cast_ofNat, ← zpow_natCast]
    rcases Nat.eq_zero_or_pos (absorb (absorb 0 n.whole).1 n.fraction).2 with hnone | hsome
    · have hkept : n.kept = (absorb 0 n.whole).1 := absorb_none hnone
      rw [hnone, hkept, List.length_cons, Nat.cast_zero, sub_zero, Nat.cast_succ,
        zpow_add_one₀ (by norm_num), mul_comm ((10 : ℚ) ^ (others.length : ℤ)), ← mul_assoc]
      refine mul_le_mul_of_nonneg_right ?_ (hten _).le
      push_cast
      exact le_add_of_nonneg_right (Nat.cast_nonneg d)
    · have hfit := n.kept_fits
      have hpower : (10 : ℚ) ^ ((((d :: others).length : Nat) : ℤ)
          - ((absorb (absorb 0 n.whole).1 n.fraction).2 : ℤ)) ≤ 10 ^ (others.length : ℤ) := by
        refine zpow_le_zpow_right₀ (by norm_num) ?_
        rw [List.length_cons]
        omega
      have hkept : (n.kept : ℚ) ≤ (((absorb 0 n.whole).1 * 10 + d : Nat) : ℚ) := by
        exact_mod_cast Nat.le_trans hfit (Nat.le_of_lt hhead)
      exact mul_le_mul hkept hpower (hten _).le (Nat.cast_nonneg _)

end Numeral

/-! ## Powers of ten in range -/

/-- A significand and a power of ten come to a number of the format. -/
def InRange (significand : Nat) (power : Int) : Prop :=
  ((Magnitude.ofNat significand).bind (Magnitude.approximate 3 · power)).isSome = true

theorem exists_ofNat {s : Nat} (h : s ≤ maxSignificand) : ∃ m, Magnitude.ofNat s = some m
    ∧ (s * (1 - 1 / 2 ^ 53) : ℚ) ≤ m.value ∧ m.value ≤ s * (1 + 1 / 2 ^ 53) := by
  have hlt : s < Magnitude.limit :=
    Nat.lt_of_le_of_lt h (Nat.lt_trans (show maxSignificand < 2 ^ 70 by decide)
      Magnitude.limit_range.1)
  obtain ⟨m, hm⟩ := Option.isSome_iff_exists.mp
    ((Magnitude.isSome_ofNat s).mpr ((Magnitude.cast_lt_overflow s).mpr hlt))
  exact ⟨m, hm, Magnitude.ofNat_bounds hm⟩

theorem cast_le_max {s : Nat} (h : s ≤ maxSignificand) : (s : ℚ) < 2 ^ 64 := by
  have : s < 2 ^ 64 := Nat.lt_of_le_of_lt h (by decide)
  exact_mod_cast this

theorem inRange_below {s : Nat} (h : s ≤ maxSignificand) {power : Int} (hpower : power < 0) :
    InRange s power := by
  obtain ⟨m, hm, -, hhigh⟩ := exists_ofNat h
  have hs := cast_le_max h
  rw [InRange, hm]
  exact Magnitude.isSome_below 3 m hpower (by linarith)

/-- Which numbers of two roundings are in range. -/
theorem inRange_iff {s k : Nat} {m p : Magnitude} (hm : Magnitude.ofNat s = some m) (h : k ≤ 308)
    (hp : Magnitude.powerOfTen k = some p) : InRange s k ↔ m.value * p.value < overflow := by
  rw [InRange, hm]
  exact Magnitude.isSome_product 3 m h hp

/-- **A number that leaves room for two roundings is in range.** -/
theorem inRange_of_le {s k : Nat} (hs : s ≤ maxSignificand) (h : k ≤ 308)
    (hlt : (s * 10 ^ k * (1 + 1 / 2 ^ 53) ^ 2 : ℚ) < overflow) : InRange s k := by
  obtain ⟨m, hm, -, hm'⟩ := exists_ofNat hs
  obtain ⟨p, hp, -, hp'⟩ := Magnitude.exists_powerOfTen h
  rw [inRange_iff hm h hp]
  refine lt_of_le_of_lt (mul_le_mul hm' hp' p.value_nonneg (by positivity)) (lt_of_eq_of_lt ?_ hlt)
  ring

/-- Two roundings add less than a half. -/
theorem inRange_of_room {s k : Nat} (hs : s ≤ maxSignificand) (h : k ≤ 308)
    (hlt : 3 * (s * 10 ^ k) < 2 * Magnitude.limit) : InRange s k := by
  refine inRange_of_le hs h ?_
  have hlt : 3 * (s * 10 ^ k : ℚ) < 2 * overflow := by
    rw [Magnitude.overflow_eq]
    exact_mod_cast hlt
  have hpos : (0 : ℚ) ≤ s * 10 ^ k := mul_nonneg (Nat.cast_nonneg s) (pow_nonneg (by norm_num) k)
  generalize (s * 10 ^ k : ℚ) = x at hlt hpos ⊢
  calc x * (1 + 1 / 2 ^ 53) ^ 2 ≤ x * (3 / 2) := mul_le_mul_of_nonneg_left (by norm_num) hpos
    _ < overflow := by linarith

/-- A number that overflows by more than two roundings is not in range. -/
theorem not_inRange_of_le {s k : Nat} (hs : s ≤ maxSignificand) (h : k ≤ 308)
    (hle : overflow ≤ (s * 10 ^ k * (1 - 1 / 2 ^ 53) ^ 2 : ℚ)) : ¬ InRange s k := by
  obtain ⟨m, hm, hm', -⟩ := exists_ofNat hs
  obtain ⟨p, hp, hp', -⟩ := Magnitude.exists_powerOfTen h
  rw [inRange_iff hm h hp, not_lt]
  refine hle.trans (le_trans (le_of_eq ?_)
    (mul_le_mul hm' hp' (by positivity) m.value_nonneg))
  ring

/-- Two roundings take less than a hundredth away. -/
theorem not_inRange_of_excess {s k : Nat} (hs : s ≤ maxSignificand) (h : k ≤ 308)
    (hle : 100 * Magnitude.limit ≤ 99 * (s * 10 ^ k)) : ¬ InRange s k := by
  refine not_inRange_of_le hs h ?_
  have hle : 100 * overflow ≤ 99 * (s * 10 ^ k : ℚ) := by
    rw [Magnitude.overflow_eq]
    exact_mod_cast hle
  have hpos : (0 : ℚ) ≤ s * 10 ^ k := mul_nonneg (Nat.cast_nonneg s) (pow_nonneg (by norm_num) k)
  generalize (s * 10 ^ k : ℚ) = x at hle hpos ⊢
  calc overflow ≤ x * (99 / 100) := by linarith
    _ ≤ x * (1 - 1 / 2 ^ 53) ^ 2 := mul_le_mul_of_nonneg_left (by norm_num) hpos

/-- No number has that many zeros. -/
theorem not_inRange_large {s k : Nat} (hs : s ≤ maxSignificand) (hpos : 0 < s) (h : 308 < k) :
    ¬ InRange s k := by
  obtain ⟨m, hm, hlow, -⟩ := exists_ofNat hs
  have hs' : (1 : ℚ) ≤ s := by exact_mod_cast hpos
  rw [InRange, hm]
  show ¬ (Magnitude.approximate 3 m k).isSome = true
  rw [Magnitude.isSome_large 3 m h]
  exact Magnitude.mantissa_ne_zero (by linarith)

theorem inRange_zero (power : Int) : InRange 0 power := by
  rcases lt_or_ge power 0 with hneg | hpos
  · exact inRange_below (Nat.zero_le _) hneg
  · obtain ⟨k, rfl⟩ := Int.eq_ofNat_of_zero_le hpos
    rcases Nat.lt_or_ge 308 k with hlarge | hsmall
    · exact (Magnitude.isSome_large 3 Magnitude.zero hlarge).mpr rfl
    · refine inRange_of_le (Nat.zero_le _) hsmall ?_
      rw [Nat.cast_zero, zero_mul, zero_mul]
      exact lt_trans (by norm_num) Magnitude.large_lt_overflow

/-! ## The value of a numeral -/

theorem powerOf_fits (v : Nat) (ds : List Nat) (h : significand v ds ≤ maxPower) :
    powerOf v ds = .ok (significand v ds) := by
  induction ds generalizing v with
  | nil => rfl
  | cons d ds ih =>
    rw [significand_cons] at h ⊢
    have hle := le_significand (v * 10 + d) ds
    rw [powerOf]
    simp only [if_pos (Nat.le_trans hle h)]
    exact ih _ h

theorem powerOf_ok {v : Nat} {ds : List Nat} {p : Nat} (h : powerOf v ds = .ok p) :
    p = significand v ds := by
  induction ds generalizing v with
  | nil => cases h; rfl
  | cons d ds ih =>
    rw [powerOf] at h
    by_cases hd : v * 10 + d ≤ maxPower
    · simp only [if_pos hd] at h
      exact ih h
    · simp only [if_neg hd] at h
      cases h

theorem isSome_real? (negative : Bool) (s : Nat) (power : Int) :
    ((Numeral.real? negative s power).elim (.error 0) .ok : Except Nat Number).toOption.isSome = true
      ↔ InRange s power := by
  rw [InRange, Numeral.real?]
  cases (Magnitude.ofNat s).bind (Magnitude.approximate 3 · power) with
  | none => exact Iff.rfl
  | some m => exact iff_of_true rfl rfl

namespace Numeral

theorem value_eq (n : Numeral) :
    n.value = match n.exponent with
      | none =>
        if n.fraction.isEmpty ∧ n.whole.length - (absorb 0 n.whole).2 = 0 then
          if !n.negative then .ok (.whole n.kept)
          else if n.kept = 0 ∨ maxNegative < n.kept then
            (real? true n.kept 0).elim (.error 0) .ok
          else .ok (.whole (-n.kept))
        else (real? n.negative n.kept n.keptPower).elim (.error 0) .ok
      | some (below, ds) =>
        match powerOf 0 ds with
        | .error left =>
          if n.kept = 0 ∨ below then .ok (signedZero n.negative) else .error left
        | .ok p =>
          (real? n.negative n.kept (if below then n.keptPower - p else n.keptPower + p)).elim
            (.error 0) .ok := rfl

/-- A whole number that was kept in full is in range. -/
theorem isSome_value_whole {n : Numeral} (hexp : n.exponent = none) (hfraction : n.fraction = [])
    (hall : n.whole.length - (absorb 0 n.whole).2 = 0) : n.value.toOption.isSome = true := by
  have hzero : InRange n.kept 0 := by
    refine inRange_of_le (k := 0) n.kept_fits (Nat.zero_le _) ?_
    have := cast_le_max n.kept_fits
    refine lt_trans ?_ Magnitude.large_lt_overflow
    rw [pow_zero]
    linarith
  rw [value_eq, hexp, hfraction]
  dsimp only
  rw [if_pos ⟨rfl, hall⟩]
  split
  · rfl
  split
  · exact (isSome_real? true n.kept 0).mpr hzero
  · rfl

/-- **A numeral in range has a value.** -/
theorem isSome_value {n : Numeral} (hpower : n.power ≤ maxPower)
    (h : InRange n.kept (n.keptPower + n.power)) : n.value.toOption.isSome = true := by
  cases hexp : n.exponent with
  | none =>
    rw [power, hexp, Option.elim_none, add_zero] at h
    by_cases hall : n.fraction.isEmpty = true ∧ n.whole.length - (absorb 0 n.whole).2 = 0
    · exact isSome_value_whole hexp (List.isEmpty_iff.mp hall.1) hall.2
    · rw [value_eq, hexp]
      dsimp only
      rw [if_neg hall]
      exact (isSome_real? _ _ _).mpr h
  | some e =>
    obtain ⟨below, ds⟩ := e
    rw [power, hexp, Option.elim_some] at h hpower
    dsimp only at h hpower
    rw [value_eq, hexp]
    dsimp only
    cases below with
    | true =>
      cases hp : powerOf 0 ds with
      | error left =>
        dsimp only
        rw [if_pos (Or.inr rfl)]
        rfl
      | ok p =>
        -- the exponent was read in full
        refine (isSome_real? _ _ _).mpr ?_
        rw [if_pos rfl] at h
        rw [if_pos rfl, powerOf_ok hp, sub_eq_add_neg]
        exact h
    | false =>
      rw [if_neg (by decide)] at h hpower
      rw [powerOf_fits 0 ds (by omega)]
      refine (isSome_real? _ _ _).mpr ?_
      rw [if_neg (by decide)]
      exact h

end Numeral

/-! ## Whole numbers -/

/-- The least whole number that is out of range. Twenty of its digits are kept, and they are rounded
before they are multiplied, so it is less than the greatest number of the format. -/
def wholeBound : Nat := 17976931348623156225 * 10 ^ 289

/-- Where the bound lies: past every significand and past what fewer zeros make, and below what twenty
digits and more zeros make. -/
theorem wholeBound_range : maxSignificand < wholeBound ∧ 2 ^ 64 * 10 ^ 288 ≤ wholeBound
    ∧ wholeBound ≤ 1844674407370955161 * 10 ^ 290 := by
  decide +kernel

/-- What leaves room for two roundings below the end of the format, and what is past it with them. -/
theorem limit_room : 3 * (2 ^ 63 * 10 ^ 289) < 2 * Magnitude.limit
    ∧ 3 * (2 ^ 64 * 10 ^ 288) < 2 * Magnitude.limit
    ∧ 100 * Magnitude.limit ≤ 99 * (1844674407370955161 * 10 ^ 290) := by
  decide +kernel

/-- A significand of 64 bits loses eleven of them. -/
theorem value_ofNat_64 {s : Nat} (hlow : 2 ^ 63 ≤ s) (hhigh : s < 2 ^ 64) {m : Magnitude}
    (hm : Magnitude.ofNat s = some m) : m.value = Magnitude.nearestEven s 2048 * 2048 := by
  have hne : s ≠ 0 := by omega
  have hlow : (9223372036854775808 : ℚ) ≤ s := by exact_mod_cast hlow
  have hhigh : (s : ℚ) < 18446744073709551616 := by exact_mod_cast hhigh
  -- between these bounds the numbers of the format are multiples of 2048
  have hgrid : Magnitude.gridOf s 1 = 11 := by
    obtain ⟨hlt, -, hle⟩ := Magnitude.gridOf_spec hne Nat.one_pos
    have hpos := Magnitude.two_zpow_pos (Magnitude.gridOf s 1)
    rw [Nat.cast_one, div_one, div_lt_iff₀ hpos] at hlt
    have hlower : 10 < Magnitude.gridOf s 1 := by
      rw [← zpow_lt_zpow_iff_right₀ (show (1 : ℚ) < 2 by norm_num)]
      norm_num
      linarith
    rcases hle with hmin | hle
    · rw [hmin, Magnitude.minExponent] at hlower
      omega
    · rw [Nat.cast_one, div_one, le_div_iff₀ hpos] at hle
      have hupper : Magnitude.gridOf s 1 < 12 := by
        rw [← zpow_lt_zpow_iff_right₀ (show (1 : ℚ) < 2 by norm_num)]
        norm_num
        linarith
      omega
  rw [Magnitude.eq_rounded hne hm, (Magnitude.value_rounded hne Nat.one_pos).1, hgrid]
  have hscale : Magnitude.scale s 1 11 = (s, 2048) := rfl
  rw [hscale]
  norm_num

theorem powerOfTen_289 : Magnitude.powerOfTen 289 = some ⟨4621297602213964, 908⟩ := by
  decide +kernel

/-- Twenty digits and 289 that are dropped: the product of the two roundings decides. -/
theorem inRange_289 {s : Nat} (hs : s ≤ maxSignificand) :
    InRange s (289 : Nat) ↔ s < 17976931348623156225 := by
  rcases Nat.lt_or_ge s (2 ^ 63) with hsmall | hlarge
  · refine iff_of_true (inRange_of_room hs (by decide) ?_) (by omega)
    exact Nat.lt_of_le_of_lt (Nat.mul_le_mul_left 3 (Nat.mul_le_mul_right _ (Nat.le_of_lt hsmall)))
      limit_room.1
  · have hs' : s < 2 ^ 64 := Nat.lt_of_le_of_lt hs (by decide)
    obtain ⟨m, hm, -, -⟩ := exists_ofNat hs
    have hcut : InRange s (289 : Nat) ↔ Magnitude.nearestEven s 2048 < 8777798510069901 := by
      have h908 := Magnitude.two_zpow_pos 908
      rw [inRange_iff hm (by decide) powerOfTen_289, value_ofNat_64 hlarge hs' hm, Magnitude.value,
        overflow, show (970 : ℤ) = 62 + 908 by norm_num, zpow_add₀ (by norm_num), ← mul_assoc,
        ← mul_assoc, mul_lt_mul_iff_left₀ h908]
      generalize Magnitude.nearestEven s 2048 = q
      have hnat : (q : ℚ) * 2048 * ((4621297602213964 : Nat) : ℚ) < (2 ^ 54 - 1) * 2 ^ (62 : ℤ)
          ↔ q * 2048 * 4621297602213964 < (2 ^ 54 - 1) * 2 ^ 62 := by
        rw [← Nat.cast_lt (α := ℚ)]
        norm_num
      rw [hnat]
      omega
    rw [hcut]
    -- the nearest number grows with the significand, and here it passes the mark
    constructor
    · intro hlt
      by_contra hge
      have hmono := Magnitude.nearestEven_mono (Nat.le_of_not_lt hge) (show 0 < 2048 by decide)
      have hmark : Magnitude.nearestEven 17976931348623156225 2048 = 8777798510069901 := by decide
      omega
    · intro hlt
      have hmono := Magnitude.nearestEven_mono (show s ≤ 17976931348623156224 by omega)
        (show 0 < 2048 by decide)
      have hmark : Magnitude.nearestEven 17976931348623156224 2048 = 8777798510069900 := by decide
      omega

/-- **When digits with zeros behind them are in range.** -/
theorem inRange_whole {s k n : Nat} (hs : s ≤ maxSignificand) (hlow : s * 10 ^ k ≤ n)
    (hhigh : n < (s + 1) * 10 ^ k) (hfull : 0 < k → maxSignificand < s * 10 + 9) :
    InRange s k ↔ n < wholeBound := by
  have htwenty : 0 < k → 1844674407370955161 ≤ s := by
    intro hk
    have hfull := hfull hk
    rw [maxSignificand] at hfull
    omega
  have hpast : ∀ j, 0 < j → j ≤ k → 1844674407370955161 * 10 ^ j ≤ s * 10 ^ k := fun j hj hk =>
    Nat.mul_le_mul (htwenty (Nat.lt_of_lt_of_le hj hk)) (Nat.pow_le_pow_right (Nat.succ_pos 9) hk)
  obtain ⟨-, hbelow, hbound⟩ := wholeBound_range
  rcases Nat.lt_trichotomy k 289 with hless | rfl | hmore
  · -- with fewer than 289 zeros there is room
    have hpow : ∀ j, k ≤ j → 10 ^ k ≤ 10 ^ j := fun j hj => Nat.pow_le_pow_right (Nat.succ_pos 9) hj
    have hpow := hpow 288 (by omega)
    have hs' : s + 1 ≤ 2 ^ 64 := Nat.succ_le_of_lt (Nat.lt_of_le_of_lt hs (by decide))
    refine iff_of_true (inRange_of_room hs (by omega) ?_) (Nat.lt_of_lt_of_le hhigh ?_)
    · have hle := Nat.mul_le_mul_left 3 (Nat.mul_le_mul (Nat.le_of_succ_le hs') hpow)
      exact Nat.lt_of_le_of_lt hle limit_room.2.1
    · exact Nat.le_trans (Nat.mul_le_mul hs' hpow) hbelow
  · rw [inRange_289 hs]
    constructor
    · intro hlt
      exact Nat.lt_of_lt_of_le hhigh (Nat.mul_le_mul_right _ hlt)
    · intro hlt
      exact Nat.lt_of_mul_lt_mul_right (Nat.lt_of_le_of_lt hlow hlt)
  · -- with more, twenty digits are past the bound and past the end of the format
    have hpast := hpast 290 (by omega) hmore
    refine iff_of_false ?_ (Nat.not_lt.mpr (Nat.le_trans hbound (Nat.le_trans hpast hlow)))
    rcases Nat.lt_or_ge 308 k with hhuge | hmost
    · have hs20 := htwenty (by omega)
      exact not_inRange_large hs (Nat.lt_of_lt_of_le (Nat.succ_pos _) hs20) hhuge
    · have hroom : 100 * Magnitude.limit ≤ 99 * (s * 10 ^ k) :=
        Nat.le_trans limit_room.2.2 (Nat.mul_le_mul_left 99 hpast)
      exact not_inRange_of_excess hs hmost hroom

theorem ofInt_digits (n : Int) : ∀ d ∈ (Figure.ofInt n).numeral.whole, d < 10 := by
  intro d hd
  have hvalues : (Figure.ofInt n).numeral.whole = (Nat.toDigits 10 n.natAbs).map charValue :=
    Digits.values_ofChars Nat.toDigits_ne_nil (toDigits_digit _)
  rw [hvalues] at hd
  obtain ⟨c, hc, rfl⟩ := List.mem_map.mp hd
  have := toNat_of_isDigit (toDigits_digit _ c hc)
  rw [charValue]
  omega

/-- **A whole number is read exactly if it is below the bound.** -/
theorem isSome_value_ofInt (n : Int) :
    (Figure.ofInt n).numeral.value.toOption.isSome = true ↔ n.natAbs < wholeBound := by
  obtain ⟨more, hsuffix, hlength, hvalue, hstop⟩ := absorb_spec 0 (Figure.ofInt n).numeral.whole
  have hexp : (Figure.ofInt n).numeral.exponent = none := rfl
  have hfraction : (Figure.ofInt n).numeral.fraction = [] := rfl
  have hkept : (Figure.ofInt n).numeral.kept = (absorb 0 (Figure.ofInt n).numeral.whole).1 := rfl
  have hpower : (Figure.ofInt n).numeral.keptPower = (more.length : Int) := by
    rw [Numeral.keptPower, hfraction, hlength]
    show ((_ : Nat) : Int) - ((0 : Nat) : Int) = _
    omega
  have hdigit : ∀ d ∈ more, d < 10 := fun d hd => ofInt_digits n d (hsuffix.subset hd)
  rw [significand_ofInt, ← hkept] at hvalue
  rw [← hkept] at hstop
  have hfit := (Figure.ofInt n).numeral.kept_fits
  -- what is kept stands for its product with a power of ten, and nothing else counts
  have hrange : InRange (Figure.ofInt n).numeral.kept more.length ↔ n.natAbs < wholeBound := by
    refine inRange_whole hfit ?_ ?_ ?_
    · rw [hvalue]
      exact pow_le_significand _ more
    · rw [hvalue]
      exact significand_lt_pow _ hdigit
    · intro hpos
      cases more with
      | nil => exact absurd hpos (Nat.lt_irrefl 0)
      | cons d rest =>
        have hd := hdigit d (List.mem_cons_self ..)
        have := hstop d rest rfl
        omega
  rw [← hrange]
  cases more with
  | nil =>
    have hsmall : InRange (Figure.ofInt n).numeral.kept ([] : List Nat).length := by
      rw [hrange, hvalue]
      exact Nat.lt_of_le_of_lt hfit wholeBound_range.1
    refine iff_of_true (Numeral.isSome_value_whole hexp hfraction ?_) hsmall
    rw [List.length_nil] at hlength
    omega
  | cons d rest =>
    rw [Numeral.value_eq, hexp]
    dsimp only
    rw [if_neg, isSome_real?, hpower]
    rintro ⟨-, hall⟩
    rw [List.length_cons] at hlength
    omega

/-! ## Doubles -/

/-- One of the two greatest numbers of the format, for which two roundings leave no room. -/
def Greatest (m : Magnitude) : Prop := m.exponent = 971 ∧ 2 ^ 53 - 2 ≤ m.mantissa

/-- Two roundings of any other number do not overflow. -/
theorem room_of_fits {m : Magnitude} (h : m.Fits) (hgreatest : ¬ Greatest m) :
    ((m.mantissa + 1 / 2) * 2 ^ m.exponent * (1 + 1 / 2 ^ 53) ^ 2 : ℚ) < overflow := by
  obtain ⟨hmantissa, -, hmost⟩ := h
  rw [Magnitude.mantissaBound] at hmantissa
  rw [Magnitude.maxExponent] at hmost
  have h970 := Magnitude.two_zpow_pos 970
  rcases Int.lt_or_eq_of_le hmost with hless | heq
  -- on a finer grid the number is at most half the overflow
  · have hscale : (2 : ℚ) ^ m.exponent ≤ 2 ^ (970 : ℤ) :=
      zpow_le_zpow_right₀ (by norm_num) (by omega)
    have hm : (m.mantissa : ℚ) + 1 ≤ 2 ^ 53 := by
      have : m.mantissa + 1 ≤ 2 ^ 53 := by omega
      exact_mod_cast this
    calc ((m.mantissa + 1 / 2) * 2 ^ m.exponent * (1 + 1 / 2 ^ 53) ^ 2 : ℚ)
        ≤ (2 ^ 53 - 1 + 1 / 2) * 2 ^ (970 : ℤ) * (1 + 1 / 2 ^ 53) ^ 2 := by
          refine mul_le_mul_of_nonneg_right ?_ (by norm_num)
          exact mul_le_mul (by linarith) hscale (Magnitude.two_zpow_pos _).le (by norm_num)
      _ = (2 ^ 53 - 1 + 1 / 2) * (1 + 1 / 2 ^ 53) ^ 2 * 2 ^ (970 : ℤ) := by ring
      _ < overflow := mul_lt_mul_of_pos_right (by norm_num) h970
  -- on the coarsest grid two numbers are left out
  · have hm : (m.mantissa : ℚ) + 3 ≤ 2 ^ 53 := by
      have : m.mantissa + 3 ≤ 2 ^ 53 := by
        by_contra hlarge
        exact hgreatest ⟨heq, by omega⟩
      exact_mod_cast this
    rw [heq, show (971 : ℤ) = 970 + 1 by norm_num, zpow_add_one₀ (by norm_num)]
    calc ((m.mantissa + 1 / 2) * (2 ^ (970 : ℤ) * 2) * (1 + 1 / 2 ^ 53) ^ 2 : ℚ)
        ≤ (2 ^ 53 - 3 + 1 / 2) * (2 ^ (970 : ℤ) * 2) * (1 + 1 / 2 ^ 53) ^ 2 := by
          refine mul_le_mul_of_nonneg_right ?_ (by norm_num)
          exact mul_le_mul_of_nonneg_right (by linarith) (mul_pos h970 (by norm_num)).le
      _ = (2 ^ 53 - 3 + 1 / 2) * 2 * (1 + 1 / 2 ^ 53) ^ 2 * 2 ^ (970 : ℤ) := by ring
      _ < overflow := mul_lt_mul_of_pos_right (by norm_num) h970

/-- The digits of a number are no less than their leading place. -/
theorem pow_le_digits {n : Nat} (h : n ≠ 0) : 10 ^ ((Nat.toDigits 10 n).length - 1) ≤ n := by
  rcases Nat.eq_zero_or_pos ((Nat.toDigits 10 n).length - 1) with hzero | hpos
  · rw [hzero]
    exact Nat.pos_of_ne_zero h
  · have hlength := Nat.length_toDigits_pos (b := 10) (n := n)
    have hnot := mt (Nat.length_toDigits_le_iff (n := n) (b := 10) (by decide) hpos).mpr
      (by omega)
    omega

theorem ten_zpow_pos (e : ℤ) : (0 : ℚ) < 10 ^ e := zpow_pos (by norm_num) e

/-- A number of fewer than 310 digits has no greater power of ten below it. -/
theorem power_lt_of_le {e : ℤ} {x : ℚ} (hle : 10 ^ e ≤ x) (hlt : x < 10 ^ (309 : ℤ)) : e < 309 :=
  (zpow_lt_zpow_iff_right₀ (show (1 : ℚ) < 10 by norm_num)).mp (lt_of_le_of_lt hle hlt)

section Denoted

variable {f : Figure} {cs : List Char} {s : Decimal.Scientific}

/-- What is kept of a figure is at most what it denotes. -/
theorem Denotes.kept_le (hf : Denotes f cs s) :
    (f.numeral.kept * 10 ^ (f.numeral.keptPower + f.numeral.power) : ℚ)
      ≤ s.digits * 10 ^ s.exponent := by
  obtain ⟨k, hdigits, hscale⟩ := hf.value
  have hle := mul_le_mul_of_nonneg_right f.numeral.kept_le (ten_zpow_pos f.numeral.power).le
  have hplace : -(f.numeral.fraction.length : ℤ) + f.numeral.power = s.exponent - k := by
    rw [← hscale, Numeral.scale]
    omega
  rw [mul_assoc, mul_assoc, ← zpow_add₀ (by norm_num), ← zpow_add₀ (by norm_num), hplace, hdigits,
    Nat.cast_mul, Nat.cast_pow, Nat.cast_ofNat, mul_assoc, ← zpow_natCast,
    ← zpow_add₀ (by norm_num), add_sub_cancel] at hle
  exact hle

/-- The exponent of a figure is that of the leading digit, if it has one. -/
theorem Denotes.power_lt (hf : Denotes f cs s) (hzero : s.digits = 0 → s.exponent = 0)
    (hsmall : (s.digits * 10 ^ s.exponent : ℚ) < 10 ^ (309 : ℤ)) : f.numeral.power < 309 := by
  rcases hf.power with hnone | hplace
  · omega
  by_cases hdigits : s.digits = 0
  · rw [hplace, hzero hdigits, hdigits]
    decide
  · have hlead : ((10 : ℚ) ^ ((Nat.toDigits 10 s.digits).length - 1)) ≤ s.digits := by
      exact_mod_cast pow_le_digits hdigits
    have hlength := Nat.length_toDigits_pos (b := 10) (n := s.digits)
    refine power_lt_of_le ?_ hsmall
    refine le_trans (le_of_eq ?_) (mul_le_mul_of_nonneg_right hlead (ten_zpow_pos _).le)
    rw [← zpow_natCast, ← zpow_add₀ (by norm_num), hplace]
    congr 1
    omega

end Denoted

/-- **The text of a double is read.** What is kept of its digits is at most half a step above it. -/
theorem isSome_value_shortest {f : Figure} {cs : List Char} {m : Magnitude} (h : m.Fits)
    (hgreatest : ¬ Greatest m) (hf : Denotes f cs m.shortest) :
    f.numeral.value.toOption.isSome = true := by
  have hroom := room_of_fits h hgreatest
  have hshortest := Magnitude.shortest_le h
  have hfit : (m.shortest.digits * 10 ^ m.shortest.exponent * (1 + 1 / 2 ^ 53) ^ 2 : ℚ) < overflow :=
    lt_of_le_of_lt (mul_le_mul_of_nonneg_right hshortest (by norm_num)) hroom
  have hsmall : (m.shortest.digits * 10 ^ m.shortest.exponent : ℚ) < 10 ^ (309 : ℤ) := by
    refine lt_trans (lt_of_le_of_lt ?_ hfit) Magnitude.overflow_lt
    exact le_mul_of_one_le_right (mul_nonneg (Nat.cast_nonneg _) (ten_zpow_pos _).le) (by norm_num)
  have hkept := hf.kept_le
  have hpower := hf.power_lt (Magnitude.shortest_zero h) hsmall
  refine Numeral.isSome_value (by rw [maxPower]; omega) ?_
  rcases lt_or_ge (f.numeral.keptPower + f.numeral.power) 0 with hneg | hpos
  · exact inRange_below f.numeral.kept_fits hneg
  obtain ⟨k, hk⟩ := Int.eq_ofNat_of_zero_le hpos
  rw [hk] at hkept ⊢
  rcases Nat.eq_zero_or_pos f.numeral.kept with hzero | hsome
  · rw [hzero]
    exact inRange_zero _
  · have hone : (1 : ℚ) ≤ f.numeral.kept := by exact_mod_cast hsome
    -- a significand that is not zero leaves no place for more zeros
    have hk308 : (k : ℤ) < 309 :=
      power_lt_of_le ((le_mul_of_one_le_left (ten_zpow_pos _).le hone).trans hkept) hsmall
    rw [zpow_natCast] at hkept
    refine inRange_of_le f.numeral.kept_fits (by omega) (lt_of_le_of_lt ?_ hfit)
    exact mul_le_mul_of_nonneg_right hkept (by norm_num)

end ImageText.Json
