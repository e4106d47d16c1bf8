import ImageText.Proofs.Decimal.Rounding

/-!
# The chain of single operations

`Magnitude.approximate` multiplies a rounded significand by a rounded power of ten, so it is wrong by a
few bits, and near the end of the format it can be wrong about whether there is a number at all. Division
cannot overflow:

> `isSome_below`: a significand with a negative power of ten comes to something,
> `isSome_product`: with another power it does exactly if the product of the two rounded numbers does not
> overflow.
-/

namespace ImageText.Decimal

namespace Magnitude

/-- The least whole number that overflows. -/
def limit : Nat := (2 ^ 54 - 1) * 2 ^ 970

theorem limit_range :
    2 ^ 70 < limit ∧ (∀ k : Nat, k < 309 → 10 ^ k < limit) ∧ limit < 10 ^ 309 := by
  decide +kernel

theorem overflow_eq : overflow = (limit : ℚ) := by
  rw [overflow, limit, Nat.cast_mul, Nat.cast_pow, Nat.cast_ofNat, ← zpow_natCast]
  norm_num

theorem cast_lt_overflow (n : Nat) : (n : ℚ) < overflow ↔ n < limit := by
  rw [overflow_eq, Nat.cast_lt]

theorem overflow_lt : overflow < 10 ^ (309 : ℤ) := by
  have hlimit : (limit : ℚ) < ((10 ^ 309 : Nat) : ℚ) := by
    rw [Nat.cast_lt]
    exact limit_range.2.2
  rw [Nat.cast_pow, Nat.cast_ofNat, ← zpow_natCast] at hlimit
  rw [overflow_eq]
  exact hlimit

theorem large_lt_overflow : (2 : ℚ) ^ 70 < overflow := by
  have h := (cast_lt_overflow (2 ^ 70)).mpr limit_range.1
  rwa [Nat.cast_pow, Nat.cast_ofNat] at h

theorem exists_powerOfTen {k : Nat} (h : k ≤ 308) : ∃ p, powerOfTen k = some p
    ∧ (10 ^ k * (1 - 1 / 2 ^ 53) : ℚ) ≤ p.value ∧ p.value ≤ (10 ^ k * (1 + 1 / 2 ^ 53) : ℚ) := by
  have hlt := limit_range.2.1 k (Nat.lt_succ_of_le h)
  obtain ⟨p, hp⟩ := Option.isSome_iff_exists.mp
    ((isSome_ofNat (10 ^ k)).mpr ((cast_lt_overflow _).mpr hlt))
  have hbounds := ofNat_bounds hp
  rw [Nat.cast_pow, Nat.cast_ofNat] at hbounds
  exact ⟨p, hp, hbounds⟩

theorem mantissa_ne_zero {m : Magnitude} (h : 0 < m.value) : m.mantissa ≠ 0 := by
  intro hzero
  rw [value, hzero, Nat.cast_zero, zero_mul] at h
  exact lt_irrefl _ h

theorem approximate_near (fuel : Nat) (m : Magnitude) {e : Int} (h : e.natAbs ≤ 308) {p : Magnitude}
    (hp : powerOfTen e.natAbs = some p) :
    approximate fuel m e = if 0 ≤ e then m.times p else m.dividedBy p := by
  rw [approximate.eq_def, if_pos h, hp]
  rfl

/-- **A product of two rounded numbers.** -/
theorem isSome_product (fuel : Nat) (m : Magnitude) {k : Nat} (h : k ≤ 308) {p : Magnitude}
    (hp : powerOfTen k = some p) :
    (approximate fuel m k).isSome = true ↔ m.value * p.value < overflow := by
  rw [approximate_near fuel m (by rwa [Int.natAbs_natCast]) (by rwa [Int.natAbs_natCast]),
    if_pos (Int.natCast_nonneg k), isSome_times]

/-- A large power of ten is no number, unless there is nothing to multiply. -/
theorem isSome_large (fuel : Nat) (m : Magnitude) {k : Nat} (h : 308 < k) :
    (approximate fuel m k).isSome = true ↔ m.mantissa = 0 := by
  rw [approximate.eq_def, Int.natAbs_natCast, if_neg (by omega)]
  split
  next hzero => exact iff_of_true rfl hzero
  next hzero =>
    rw [if_pos (Int.natCast_nonneg k)]
    exact iff_of_false (fun h => nomatch h) hzero

/-- Dividing by a power of ten makes a significand no greater than it was. -/
theorem exists_quotient {m p : Magnitude} (hm : m.value ≤ 2 ^ 65) (hp : 4 ≤ p.value) :
    ∃ r, m.dividedBy p = some r ∧ r.value ≤ 2 ^ 65 := by
  have hppos : 0 < p.value := by linarith
  have hmantissa := mantissa_ne_zero hppos
  have hquot : m.value / p.value ≤ 2 ^ 63 := by
    rw [div_le_iff₀ hppos]
    linarith
  obtain ⟨r, hr⟩ := Option.isSome_iff_exists.mp ((isSome_dividedBy m hmantissa).mpr
    (lt_of_le_of_lt hquot (lt_trans (by norm_num) large_lt_overflow)))
  have hnear := (abs_le.mp (near_dividedBy hmantissa hr)).2
  have hsmall : max (m.value / p.value / 2 ^ 53 : ℚ) (2 ^ (-1075 : ℤ)) ≤ 2 ^ 11 := by
    refine max_le (by linarith) ?_
    calc (2 ^ (-1075 : ℤ) : ℚ) ≤ 2 ^ (0 : ℤ) := zpow_le_zpow_right₀ (by norm_num) (by norm_num)
      _ ≤ 2 ^ 11 := by norm_num
  exact ⟨r, hr, by linarith⟩

/-- A negative power of ten divides by something. -/
theorem four_le {k : Nat} (hk : 1 ≤ k) {v : ℚ} (h : (10 ^ k * (1 - 1 / 2 ^ 53) : ℚ) ≤ v) : 4 ≤ v := by
  have hten : (10 : ℚ) ≤ 10 ^ k := le_self_pow₀ (by norm_num) (by omega)
  linarith

theorem isSome_near_below (fuel : Nat) {m : Magnitude} {e : Int} (he : e < 0)
    (hnear : e.natAbs ≤ 308) (hm : m.value ≤ 2 ^ 65) : (approximate fuel m e).isSome = true := by
  obtain ⟨p, hp, hlow, -⟩ := exists_powerOfTen hnear
  obtain ⟨r, hr, -⟩ := exists_quotient hm (four_le (by omega) hlow)
  rw [approximate_near fuel m hnear hp, if_neg (by omega), hr]
  rfl

/-- **Division comes to something.** The induction is on the divisions by `10 ^ 308`, none of which
makes the significand greater. -/
theorem isSome_below (fuel : Nat) (m : Magnitude) {e : Int} (he : e < 0) (hm : m.value ≤ 2 ^ 65) :
    (approximate fuel m e).isSome = true := by
  induction fuel generalizing m e with
  | zero =>
    by_cases hnear : e.natAbs ≤ 308
    · exact isSome_near_below 0 he hnear hm
    · rw [approximate.eq_def, if_neg hnear]
      split
      · rfl
      -- no division is left, and what there is counts as nothing
      · rw [if_neg (by omega)]
        rfl
  | succ fuel ih =>
    by_cases hnear : e.natAbs ≤ 308
    · exact isSome_near_below (fuel + 1) he hnear hm
    · rw [approximate.eq_def, if_neg hnear]
      split
      · rfl
      · obtain ⟨p, hp, hlow, -⟩ := exists_powerOfTen (Nat.le_refl 308)
        obtain ⟨r, hr, hsmall⟩ := exists_quotient hm (four_le (by decide) hlow)
        rw [if_neg (by omega), hp]
        show ((m.dividedBy p).bind fun smaller => approximate fuel smaller (e + 308)).isSome = true
        rw [hr]
        exact ih r (by omega) hsmall

end Magnitude

end ImageText.Decimal
