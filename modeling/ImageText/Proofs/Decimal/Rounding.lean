import Mathlib.Algebra.Order.Field.Power
import Mathlib.Data.Rat.Cast.Order
import Mathlib.Tactic.FieldSimp
import Mathlib.Tactic.Linarith
import Mathlib.Tactic.NormNum
import Mathlib.Tactic.Positivity
import Mathlib.Tactic.Ring
import ImageText.Proofs.Decimal.Shortest

/-!
# Where rounding ends

`Magnitude.round` is the one place where a quotient becomes a number of the format. Two things are said
of it, both on the rational numbers that are meant. The quotient is missed by at most half a step of
the grid that was chosen, so by very little of itself; and there is a number exactly if the quotient is
less than half a step above the greatest one, which is `overflow`:

> `isSome_round`, `near_round`.

Products and quotients of numbers are instances of it.
-/

namespace ImageText.Decimal

namespace Magnitude

/-- The number that is meant. -/
def value (m : Magnitude) : ℚ := m.mantissa * 2 ^ m.exponent

/-- Half a step above the greatest number of the format. -/
def overflow : ℚ := (2 ^ 54 - 1) * 2 ^ (970 : ℤ)

theorem two_zpow_pos (e : ℤ) : (0 : ℚ) < 2 ^ e := zpow_pos (by norm_num) e

theorem value_nonneg (m : Magnitude) : 0 ≤ m.value :=
  mul_nonneg (Nat.cast_nonneg _) (le_of_lt (two_zpow_pos _))

/-! ## Scaling -/

theorem scale_ratio (num : Nat) {den : Nat} (h : 0 < den) (e : Int) :
    ((scale num den e).1 : ℚ) / (scale num den e).2 = num / den / 2 ^ e := by
  have hden : (den : ℚ) ≠ 0 := Nat.cast_ne_zero.mpr h.ne'
  rw [scale]
  split
  next he =>
    obtain ⟨k, rfl⟩ := Int.eq_ofNat_of_zero_le he
    rw [Int.toNat_natCast, zpow_natCast]
    show (num : ℚ) / ((den * 2 ^ k : Nat) : ℚ) = _
    rw [Nat.cast_mul, Nat.cast_pow, Nat.cast_ofNat, div_div]
  next he =>
    obtain ⟨k, hk⟩ := Int.eq_ofNat_of_zero_le (show 0 ≤ -e by omega)
    rw [show e = -(k : Int) by omega, neg_neg, Int.toNat_natCast, zpow_neg, zpow_natCast, div_inv_eq_mul]
    show ((num * 2 ^ k : Nat) : ℚ) / (den : ℚ) = _
    rw [Nat.cast_mul, Nat.cast_pow, Nat.cast_ofNat, mul_div_right_comm]

/-- A quarter of a power of two, counted in units of a power of ten. -/
theorem quarter_ratio (e k : Int) :
    (quarterNum e k : ℚ) / quarterDen e k = 2 ^ e / 4 / 10 ^ k := by
  have hratio := scale_ratio 1 (Nat.succ_pos 3) (-e)
  rw [zpow_neg, div_inv_eq_mul, Nat.cast_one, one_div, mul_comm, ← div_eq_mul_inv] at hratio
  rw [← show ((4 : Nat) : ℚ) = 4 from rfl, ← hratio, quarterNum, quarterDen, inUnits]
  dsimp only
  split
  next hk =>
    obtain ⟨j, rfl⟩ := Int.eq_ofNat_of_zero_le hk
    rw [Int.toNat_natCast, zpow_natCast, div_div]
    show _ / (((scale 1 4 (-e)).2 * 10 ^ j : Nat) : ℚ) = _
    rw [Nat.cast_mul, Nat.cast_pow, Nat.cast_ofNat]
  next hk =>
    obtain ⟨j, hj⟩ := Int.eq_ofNat_of_zero_le (show 0 ≤ -k by omega)
    rw [show k = -(j : Int) by omega, neg_neg, Int.toNat_natCast, zpow_neg, zpow_natCast,
      div_inv_eq_mul]
    show (((scale 1 4 (-e)).1 * 10 ^ j : Nat) : ℚ) / _ = _
    rw [Nat.cast_mul, Nat.cast_pow, Nat.cast_ofNat, mul_div_right_comm]

/-- The shortest decimal of a number is at most half a step above it. -/
theorem shortest_le {m : Magnitude} (h : m.Fits) :
    (m.shortest.digits * 10 ^ m.shortest.exponent : ℚ) ≤ (m.mantissa + 1 / 2) * 2 ^ m.exponent := by
  by_cases hm : m.mantissa = 0
  · rw [shortest, if_pos hm, hm, Nat.cast_zero, zero_mul, zero_add]
    exact mul_nonneg (by norm_num) (two_zpow_pos _).le
  · have hhigh := (admits_bounds (admits_shortest hm h)).2
    have hratio := quarter_ratio m.exponent m.shortest.exponent
    have hden : (0 : ℚ) < quarterDen m.exponent m.shortest.exponent :=
      Nat.cast_pos.mpr (quarterDen_pos _ _)
    have hten : (0 : ℚ) < 10 ^ m.shortest.exponent := zpow_pos (by norm_num) _
    have hupper : (m.upperQuarters : ℚ) = 4 * (m.mantissa + 1 / 2) := by
      rw [upperQuarters, quarters]
      push_cast
      ring
    have hhigh : (m.shortest.digits : ℚ) * quarterDen m.exponent m.shortest.exponent
        ≤ m.upperQuarters * quarterNum m.exponent m.shortest.exponent := by
      exact_mod_cast hhigh
    rw [← le_div_iff₀ hden, mul_div_assoc, hratio, hupper, div_div, mul_comm (4 : ℚ), ← div_div,
      ← mul_div_assoc, le_div_iff₀ hten] at hhigh
    linarith

/-! ## The nearest whole number -/

theorem nearestEven_near (n : Nat) {d : Nat} (hd : 0 < d) :
    |(nearestEven n d : ℚ) - n / d| ≤ 1 / 2 := by
  obtain ⟨hlow, hhigh⟩ := nearestEven_bounds n hd
  have hpos : (0 : ℚ) < d := Nat.cast_pos.mpr hd
  have hlow : 2 * (n : ℚ) ≤ 2 * (nearestEven n d * d) + d := by exact_mod_cast hlow
  have hhigh : 2 * ((nearestEven n d : ℚ) * d) ≤ 2 * n + d := by exact_mod_cast hhigh
  have hn : (n : ℚ) = n / d * d := (div_mul_cancel₀ _ hpos.ne').symm
  rw [abs_le]
  constructor
  · have : (0 : ℚ) ≤ (nearestEven n d - n / d + 1 / 2) * d := by linarith
    linarith [nonneg_of_mul_nonneg_left this hpos]
  · have : (0 : ℚ) ≤ (n / d + 1 / 2 - nearestEven n d) * d := by linarith
    linarith [nonneg_of_mul_nonneg_left this hpos]

/-- A greater quotient has no smaller nearest number. -/
theorem nearestEven_mono {n n' : Nat} (h : n ≤ n') {d : Nat} (hd : 0 < d) :
    nearestEven n d ≤ nearestEven n' d := by
  rcases Nat.eq_or_lt_of_le h with rfl | hlt
  · exact Nat.le_refl _
  · obtain ⟨-, hhigh⟩ := nearestEven_bounds n hd
    obtain ⟨hlow, -⟩ := nearestEven_bounds n' hd
    by_contra hgt
    have hstep : (nearestEven n' d + 1) * d ≤ nearestEven n d * d :=
      Nat.mul_le_mul_right d (Nat.lt_of_not_le hgt)
    rw [Nat.succ_mul] at hstep
    omega

/-- Half a step below an even number there is no smaller nearest number. -/
theorem le_nearestEven {n d k : Nat} (hd : 0 < d) (heven : k % 2 = 0) (hk : 0 < k)
    (h : (2 * k - 1) * d ≤ 2 * n) : k ≤ nearestEven n d := by
  by_contra hlt
  have hlt : nearestEven n d ≤ k - 1 := by omega
  have hdiv := Nat.div_add_mod n d
  have hmod := Nat.mod_lt n hd
  have hq : n / d ≤ k - 1 := by
    refine Nat.le_trans ?_ hlt
    rw [nearestEven]
    split
    · exact Nat.le_refl _
    · split
      · exact Nat.le_succ _
      · split
        · exact Nat.le_refl _
        · exact Nat.le_succ _
  have hk' : (2 * k - 1) * d = 2 * ((k - 1) * d) + d := by
    rw [show 2 * k - 1 = 2 * (k - 1) + 1 by omega, Nat.add_mul, Nat.mul_assoc, Nat.one_mul]
  have hle : n / d * d ≤ (k - 1) * d := Nat.mul_le_mul_right d hq
  rw [Nat.mul_comm] at hdiv
  -- the quotient lies in the upper half below `k`, so its whole part is `k - 1`, which is odd
  have heq : n / d = k - 1 := by
    by_contra hne
    have hstep : (n / d + 1) * d ≤ (k - 1) * d := Nat.mul_le_mul_right d (by omega)
    rw [Nat.succ_mul] at hstep
    omega
  rw [nearestEven, heq] at hlt
  rw [heq] at hdiv
  split at hlt
  · omega
  · split at hlt
    · omega
    · split at hlt <;> omega

/-! ## The grid -/

/-- A quotient lies within a factor of two of the powers of two below its parts. -/
theorem quotient_bounds {num den : Nat} (hnum : num ≠ 0) (hden : 0 < den) :
    (2 ^ ((num.log2 : ℤ) - den.log2) / 2 : ℚ) < num / den
      ∧ (num / den : ℚ) < 2 * 2 ^ ((num.log2 : ℤ) - den.log2) := by
  have hn : (2 ^ num.log2 : ℚ) ≤ num := by exact_mod_cast Nat.log2_self_le hnum
  have hn' : (num : ℚ) < 2 * 2 ^ num.log2 := by
    rw [← pow_succ']
    exact_mod_cast Nat.lt_log2_self
  have hd : (2 ^ den.log2 : ℚ) ≤ den := by exact_mod_cast Nat.log2_self_le hden.ne'
  have hd' : (den : ℚ) < 2 * 2 ^ den.log2 := by
    rw [← pow_succ']
    exact_mod_cast Nat.lt_log2_self
  have hden' : (0 : ℚ) < den := Nat.cast_pos.mpr hden
  rw [zpow_sub₀ (by norm_num), zpow_natCast, zpow_natCast]
  have hpn : (0 : ℚ) < 2 ^ num.log2 := by positivity
  have hpd : (0 : ℚ) < 2 ^ den.log2 := by positivity
  constructor
  · calc (2 ^ num.log2 / 2 ^ den.log2 / 2 : ℚ) = 2 ^ num.log2 / (2 * 2 ^ den.log2) := by
          rw [div_div, mul_comm]
      _ < 2 ^ num.log2 / den := div_lt_div_of_pos_left hpn hden' hd'
      _ ≤ num / den := div_le_div_of_nonneg_right hn hden'.le
  · calc (num / den : ℚ) < 2 * 2 ^ num.log2 / den := div_lt_div_of_pos_right hn' hden'
      _ ≤ 2 * 2 ^ num.log2 / 2 ^ den.log2 :=
          div_le_div_of_nonneg_left (by positivity) hpd hd
      _ = 2 * (2 ^ num.log2 / 2 ^ den.log2) := mul_div_assoc _ _ _

/-- The exponent of a grid on which a quotient has 53 or 54 bits before the point. -/
def lowGrid (num den : Nat) : Int := (num.log2 : Int) - (den.log2 : Int) - 53

theorem lowGrid_spec {num den : Nat} (hnum : num ≠ 0) (hden : 0 < den) :
    (2 ^ 52 : ℚ) < num / den / 2 ^ lowGrid num den
      ∧ (num / den / 2 ^ lowGrid num den : ℚ) < 2 ^ 54 := by
  obtain ⟨hlow, hhigh⟩ := quotient_bounds hnum hden
  have hpos := two_zpow_pos ((num.log2 : ℤ) - den.log2)
  have hgrid : (2 : ℚ) ^ lowGrid num den = 2 ^ ((num.log2 : ℤ) - den.log2) / 2 ^ 53 := by
    rw [lowGrid, zpow_sub₀ (by norm_num)]
    norm_num
  rw [hgrid, lt_div_iff₀ (by positivity), div_lt_iff₀ (by positivity)]
  constructor <;> linarith

theorem gridOf_eq (num den : Nat) :
    gridOf num den = max minExponent
      (if (scale num den (lowGrid num den)).1 / (scale num den (lowGrid num den)).2 < mantissaBound
        then lowGrid num den else lowGrid num den + 1) := rfl

/-- On the grid that is chosen a quotient has at most 53 bits before the point, and no fewer unless it
is the finest grid. -/
theorem gridOf_spec {num den : Nat} (hnum : num ≠ 0) (hden : 0 < den) :
    (num / den / 2 ^ gridOf num den : ℚ) < 2 ^ 53
      ∧ minExponent ≤ gridOf num den
      ∧ (gridOf num den = minExponent ∨ (2 ^ 52 : ℚ) ≤ num / den / 2 ^ gridOf num den) := by
  obtain ⟨hlow, hhigh⟩ := lowGrid_spec hnum hden
  have hpos := scale_pos hden num (lowGrid num den)
  have hratio := scale_ratio num hden (lowGrid num den)
  have hstep : (num / den / 2 ^ (lowGrid num den + 1) : ℚ)
      = num / den / 2 ^ lowGrid num den / 2 := by
    rw [zpow_add_one₀ (by norm_num), ← div_div]
  -- the grid before it is cut off at the finest one
  obtain ⟨g, hg, hgrid⟩ : ∃ g : Int, gridOf num den = max minExponent g
      ∧ (num / den / 2 ^ g : ℚ) < 2 ^ 53 ∧ (2 ^ 52 : ℚ) ≤ num / den / 2 ^ g := by
    have hcut : (scale num den (lowGrid num den)).1 / (scale num den (lowGrid num den)).2
        < mantissaBound ↔ (num / den / 2 ^ lowGrid num den : ℚ) < 2 ^ 53 := by
      rw [← hratio, Nat.div_lt_iff_lt_mul hpos, div_lt_iff₀ (Nat.cast_pos.mpr hpos)]
      rw [show (2 ^ 53 : ℚ) = ((mantissaBound : Nat) : ℚ) by rw [mantissaBound]; norm_num]
      exact_mod_cast Iff.rfl
    by_cases h : (num / den / 2 ^ lowGrid num den : ℚ) < 2 ^ 53
    · refine ⟨lowGrid num den, ?_, h, hlow.le⟩
      rw [gridOf_eq, if_pos (hcut.mpr h)]
    · refine ⟨lowGrid num den + 1, ?_, ?_, ?_⟩
      · rw [gridOf_eq, if_neg fun hc => h (hcut.mp hc)]
      · rw [hstep]
        linarith
      · rw [hstep]
        linarith
  rcases le_total minExponent g with hle | hle
  · rw [hg, max_eq_right hle]
    exact ⟨hgrid.1, hle, Or.inr hgrid.2⟩
  · rw [hg, max_eq_left hle]
    refine ⟨lt_of_le_of_lt ?_ hgrid.1, le_refl _, Or.inl rfl⟩
    exact div_le_div_of_nonneg_left (by positivity) (two_zpow_pos g)
      (zpow_le_zpow_right₀ (by norm_num) hle)

/-! ## Rounding -/

/-- The quotient on its grid, before it is asked whether there is such a number. -/
def rounded (num den : Nat) : Magnitude :=
  let m := nearestEven (scale num den (gridOf num den)).1 (scale num den (gridOf num den)).2
  if m < mantissaBound then ⟨m, gridOf num den⟩ else ⟨m / 2, gridOf num den + 1⟩

theorem round_eq {num : Nat} (hnum : num ≠ 0) (den : Nat) :
    round num den
      = if (rounded num den).exponent ≤ maxExponent then some (rounded num den) else none := by
  rw [round, if_neg hnum]
  rfl

theorem eq_rounded {num den : Nat} (hnum : num ≠ 0) {r : Magnitude} (h : round num den = some r) :
    r = rounded num den := by
  rw [round_eq hnum] at h
  split at h
  · exact (Option.some.inj h).symm
  · cases h

/-- A number that was carried over to the next grid is the same number. -/
theorem value_rounded {num den : Nat} (hnum : num ≠ 0) (hden : 0 < den) :
    (rounded num den).value
        = nearestEven (scale num den (gridOf num den)).1 (scale num den (gridOf num den)).2
          * 2 ^ gridOf num den
      ∧ ((rounded num den).exponent = gridOf num den
          ∧ nearestEven (scale num den (gridOf num den)).1 (scale num den (gridOf num den)).2
            < mantissaBound
        ∨ (rounded num den).exponent = gridOf num den + 1
          ∧ nearestEven (scale num den (gridOf num den)).1 (scale num den (gridOf num den)).2
            = mantissaBound) := by
  obtain ⟨hlt, -, -⟩ := gridOf_spec hnum hden
  have hpos := scale_pos hden num (gridOf num den)
  have hnear := abs_le.mp (nearestEven_near (scale num den (gridOf num den)).1 hpos)
  rw [scale_ratio num hden] at hnear
  unfold rounded
  obtain ⟨m, hm⟩ : ∃ m, nearestEven (scale num den (gridOf num den)).1
      (scale num den (gridOf num den)).2 = m := ⟨_, rfl⟩
  rw [hm] at hnear ⊢
  have hle : m ≤ mantissaBound := by
    have hlt : (m : ℚ) < 2 ^ 53 + 1 := by linarith [hnear.2]
    have hlt : (m : ℚ) < ((mantissaBound + 1 : Nat) : ℚ) := by
      refine lt_of_lt_of_eq hlt ?_
      rw [mantissaBound]
      norm_num
    exact Nat.lt_succ_iff.mp (by exact_mod_cast hlt)
  dsimp only
  by_cases h : m < mantissaBound
  · rw [if_pos h]
    exact ⟨rfl, Or.inl ⟨rfl, h⟩⟩
  · rw [if_neg h]
    have hm : m = mantissaBound := by omega
    refine ⟨?_, Or.inr ⟨rfl, hm⟩⟩
    rw [value, hm, zpow_add_one₀ (by norm_num)]
    rw [show ((mantissaBound / 2 : Nat) : ℚ) = ((mantissaBound : Nat) : ℚ) / 2 by
      rw [mantissaBound]; norm_num]
    ring

/-- A quotient that is carried to the nearest number of its grid, perhaps the first one of the next, is
on a grid of the format exactly if it does not overflow. -/
theorem exponent_le_iff {n d : Nat} (hd : 0 < d) {e x : Int} (hlt : (n / d : ℚ) < 2 ^ 53)
    (hgrid : e = minExponent ∨ (2 ^ 52 : ℚ) ≤ n / d)
    (hexp : x = e ∧ nearestEven n d < mantissaBound ∨ x = e + 1 ∧ nearestEven n d = mantissaBound) :
    x ≤ maxExponent ↔ (n / d * 2 ^ e : ℚ) < overflow := by
  have hdpos : (0 : ℚ) < d := Nat.cast_pos.mpr hd
  have hpos := two_zpow_pos e
  have h970 := two_zpow_pos 970
  rcases lt_trichotomy e maxExponent with hless | rfl | hmore
  · -- the grid below the coarsest has no number that overflows
    rw [maxExponent] at hless ⊢
    refine iff_of_true (by omega) ?_
    have hscale : (2 : ℚ) ^ e ≤ 2 ^ (970 : ℤ) := zpow_le_zpow_right₀ (by norm_num) (by omega)
    calc (n / d * 2 ^ e : ℚ) < 2 ^ 53 * 2 ^ e := mul_lt_mul_of_pos_right hlt hpos
      _ ≤ 2 ^ 53 * 2 ^ (970 : ℤ) := mul_le_mul_of_nonneg_left hscale (by norm_num)
      _ ≤ overflow := mul_le_mul_of_nonneg_right (by norm_num) h970.le
  · -- on the coarsest grid the number after the greatest one overflows
    have hcut : (n / d * 2 ^ maxExponent : ℚ) < overflow ↔ (n : ℚ) / d < (2 ^ 54 - 1) / 2 := by
      rw [overflow, maxExponent, show (971 : ℤ) = 970 + 1 by norm_num, zpow_add_one₀ (by norm_num),
        lt_div_iff₀ (by norm_num), mul_comm ((2 : ℚ) ^ (970 : ℤ)) 2, ← mul_assoc,
        mul_lt_mul_iff_left₀ h970]
    rw [hcut]
    have hbound : (mantissaBound : ℚ) = 2 ^ 53 := by rw [mantissaBound]; norm_num
    have hnear := abs_le.mp (nearestEven_near n hd)
    constructor
    · intro hx
      by_contra hge
      -- it would be carried to the next grid
      have hcarry : mantissaBound ≤ nearestEven n d := by
        refine le_nearestEven hd (by decide) (by decide) ?_
        rw [not_lt, div_le_div_iff₀ (by norm_num) hdpos] at hge
        have : ((2 * mantissaBound - 1 : Nat) : ℚ) * d ≤ 2 * n := by
          rw [mantissaBound]
          norm_num at hge ⊢
          linarith
        exact_mod_cast this
      rcases hexp with ⟨-, hm⟩ | ⟨hx', -⟩
      · omega
      · omega
    · intro hless
      rcases hexp with ⟨hx', -⟩ | ⟨-, hm⟩
      · omega
      · rw [hm, hbound] at hnear
        linarith [hnear.2]
  · -- there is no coarser grid, and every number of one would overflow
    rw [maxExponent] at hmore ⊢
    refine iff_of_false (by rcases hexp with ⟨hx, -⟩ | ⟨hx, -⟩ <;> omega) ?_
    rw [not_lt]
    have hlarge : (2 ^ 52 : ℚ) ≤ n / d := by
      rcases hgrid with he | hlarge
      · rw [minExponent] at he
        omega
      · exact hlarge
    have hscale : (2 : ℚ) ^ (972 : ℤ) ≤ 2 ^ e := zpow_le_zpow_right₀ (by norm_num) (by omega)
    have htwo : (2 : ℚ) ^ (972 : ℤ) = 4 * 2 ^ (970 : ℤ) := by
      rw [show (972 : ℤ) = 970 + 2 by norm_num, zpow_add₀ (by norm_num), mul_comm]
      norm_num
    calc overflow ≤ 2 ^ 52 * (4 * 2 ^ (970 : ℤ)) := by
          rw [overflow, ← mul_assoc]
          exact mul_le_mul_of_nonneg_right (by norm_num) h970.le
      _ ≤ 2 ^ 52 * 2 ^ e := by
          rw [← htwo]
          exact mul_le_mul_of_nonneg_left hscale (by norm_num)
      _ ≤ n / d * 2 ^ e := mul_le_mul_of_nonneg_right hlarge hpos.le

/-- **A quotient is rounded to a number of the format exactly if it does not overflow.** -/
theorem isSome_round (num : Nat) {den : Nat} (hden : 0 < den) :
    (round num den).isSome = true ↔ (num / den : ℚ) < overflow := by
  by_cases hnum : num = 0
  · rw [hnum, round, if_pos rfl, Nat.cast_zero, zero_div]
    refine iff_of_true rfl ?_
    rw [overflow]
    exact mul_pos (by norm_num) (two_zpow_pos _)
  obtain ⟨hlt, -, hgrid⟩ := gridOf_spec hnum hden
  obtain ⟨-, hexp⟩ := value_rounded hnum hden
  have hpos := scale_pos hden num (gridOf num den)
  have hratio := scale_ratio num hden (gridOf num den)
  rw [← hratio] at hlt hgrid
  have hquot : (num / den : ℚ) = (scale num den (gridOf num den)).1
      / (scale num den (gridOf num den)).2 * 2 ^ gridOf num den := by
    rw [hratio, div_mul_cancel₀ _ (two_zpow_pos _).ne']
  have hsome : (round num den).isSome = true ↔ (rounded num den).exponent ≤ maxExponent := by
    rw [round_eq hnum]
    split <;> simp [*]
  rw [hsome, hquot]
  exact exponent_le_iff hpos hlt hgrid hexp

/-- **A rounded quotient is near the quotient.** -/
theorem near_round {num den : Nat} (hden : 0 < den) {r : Magnitude} (h : round num den = some r) :
    |r.value - num / den| ≤ max (num / den / 2 ^ 53 : ℚ) (2 ^ (-1075 : ℤ)) := by
  by_cases hnum : num = 0
  · rw [hnum, round, if_pos rfl] at h
    cases h
    rw [hnum, value, zero, Nat.cast_zero, zero_mul, zero_div, sub_zero, abs_zero, zero_div]
    exact le_max_left _ _
  obtain ⟨-, -, hgrid⟩ := gridOf_spec hnum hden
  obtain ⟨hvalue, -⟩ := value_rounded hnum hden
  have hpos := two_zpow_pos (gridOf num den)
  have hnear := nearestEven_near (scale num den (gridOf num den)).1
    (scale_pos hden num (gridOf num den))
  rw [scale_ratio num hden] at hnear
  rw [eq_rounded hnum h, hvalue]
  -- half a step of the grid
  have hstep : |(nearestEven (scale num den (gridOf num den)).1 (scale num den (gridOf num den)).2 : ℚ)
      * 2 ^ gridOf num den - num / den| ≤ 2 ^ gridOf num den / 2 := by
    have hsplit : ∀ m : ℚ, m * 2 ^ gridOf num den - num / den
        = (m - num / den / 2 ^ gridOf num den) * 2 ^ gridOf num den := by
      intro m
      rw [sub_mul, div_mul_cancel₀ _ hpos.ne']
    rw [hsplit, abs_mul, abs_of_pos hpos]
    calc _ ≤ 1 / 2 * (2 : ℚ) ^ gridOf num den := mul_le_mul_of_nonneg_right hnear hpos.le
      _ = 2 ^ gridOf num den / 2 := by ring
  refine hstep.trans ?_
  rcases hgrid with hfinest | hlarge
  · refine le_max_of_le_right (le_of_eq ?_)
    rw [hfinest, minExponent, show (-1074 : ℤ) = -1075 + 1 by norm_num, zpow_add_one₀ (by norm_num)]
    ring
  · refine le_max_of_le_left ?_
    rw [le_div_iff₀ hpos] at hlarge
    linarith

/-! ## Whole numbers, products and quotients -/

theorem isSome_ofNat (n : Nat) : (ofNat n).isSome = true ↔ (n : ℚ) < overflow := by
  rw [ofNat, isSome_round n Nat.one_pos, Nat.cast_one, div_one]

/-- A rounded whole number is the number but for its 53rd bit. -/
theorem ofNat_bounds {n : Nat} {r : Magnitude} (h : ofNat n = some r) :
    (n * (1 - 1 / 2 ^ 53) : ℚ) ≤ r.value ∧ r.value ≤ n * (1 + 1 / 2 ^ 53) := by
  rcases Nat.eq_zero_or_pos n with rfl | hpos
  · cases h
    rw [value, zero, Nat.cast_zero, zero_mul, zero_mul, zero_mul]
    exact ⟨le_refl _, le_refl _⟩
  · have hnear := near_round Nat.one_pos h
    have hone : (1 : ℚ) ≤ n := by exact_mod_cast hpos
    have hfinest : (2 ^ (-1075 : ℤ) : ℚ) ≤ n / 2 ^ 53 := by
      calc (2 ^ (-1075 : ℤ) : ℚ) ≤ 2 ^ (-53 : ℤ) := zpow_le_zpow_right₀ (by norm_num) (by norm_num)
        _ = 1 / 2 ^ 53 := by rw [zpow_neg, one_div]; rfl
        _ ≤ n / 2 ^ 53 := div_le_div_of_nonneg_right hone (by norm_num)
    rw [Nat.cast_one, div_one, max_eq_left hfinest, abs_le] at hnear
    constructor <;> linarith [hnear.1, hnear.2]

theorem roundScaled_eq (num den : Nat) (e : Int) :
    roundScaled num den e = round (scale num den (-e)).1 (scale num den (-e)).2 := rfl

theorem isSome_roundScaled (num : Nat) {den : Nat} (hden : 0 < den) (e : Int) :
    (roundScaled num den e).isSome = true ↔ (num / den * 2 ^ e : ℚ) < overflow := by
  rw [roundScaled_eq, isSome_round _ (scale_pos hden num (-e)), scale_ratio num hden, zpow_neg, div_inv_eq_mul]

theorem isSome_times (a b : Magnitude) :
    (a.times b).isSome = true ↔ a.value * b.value < overflow := by
  rw [times, isSome_roundScaled _ Nat.one_pos, Nat.cast_mul, Nat.cast_one, div_one,
    zpow_add₀ (by norm_num), value, value, mul_mul_mul_comm]

theorem value_quotient (a b : Magnitude) :
    a.value / b.value = a.mantissa / b.mantissa * 2 ^ (a.exponent - b.exponent) := by
  rw [value, value, mul_div_mul_comm, zpow_sub₀ (by norm_num)]

theorem isSome_dividedBy (a : Magnitude) {b : Magnitude} (hb : b.mantissa ≠ 0) :
    (a.dividedBy b).isSome = true ↔ a.value / b.value < overflow := by
  rw [dividedBy, isSome_roundScaled _ (Nat.pos_of_ne_zero hb), value_quotient]

theorem near_dividedBy {a b r : Magnitude} (hb : b.mantissa ≠ 0) (h : a.dividedBy b = some r) :
    |r.value - a.value / b.value| ≤ max (a.value / b.value / 2 ^ 53 : ℚ) (2 ^ (-1075 : ℤ)) := by
  have hpos := Nat.pos_of_ne_zero hb
  rw [dividedBy, roundScaled_eq] at h
  have hnear := near_round (scale_pos hpos a.mantissa (-(a.exponent - b.exponent))) h
  rw [scale_ratio _ hpos, zpow_neg, div_inv_eq_mul, ← value_quotient] at hnear
  exact hnear

end Magnitude

end ImageText.Decimal
