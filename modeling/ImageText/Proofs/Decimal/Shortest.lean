import ImageText.Decimal.Shortest

/-!
# The search for the fewest digits

`Magnitude.shortest` tries one decimal grid after another and takes the first point that rounds to
the number. Two things are shown of it. A grid whose step is at most half the gap between the
numbers of the format has a point that will do, and among the twenty-four grids that are tried there
is such a grid, so the search comes to something. And whatever it comes to has been tested:

> `admits_shortest`: the decimal that is found lies among the numbers that round to the one given.
-/

namespace ImageText.Decimal

namespace Magnitude

/-- A number of the format: the mantissa has at most 53 bits, and the exponent is one of those that
the format has. -/
structure Fits (m : Magnitude) : Prop where
  mantissa : m.mantissa < mantissaBound
  least : minExponent ≤ m.exponent
  most : m.exponent ≤ maxExponent

/-! ## Quarters on a grid -/

/-- The numerator of one quarter of `2 ^ e` in units of `10 ^ k`. -/
def quarterNum (e k : Int) : Nat := (inUnits 1 e k).1

/-- The denominator of one quarter of `2 ^ e` in units of `10 ^ k`. -/
def quarterDen (e k : Int) : Nat := (inUnits 1 e k).2

theorem inUnits_eq (q : Nat) (e k : Int) :
    inUnits q e k = (q * quarterNum e k, quarterDen e k) := by
  rw [quarterNum, quarterDen, inUnits, inUnits, scale, scale]
  by_cases he : 0 ≤ -e <;> by_cases hk : 0 ≤ k <;>
    simp only [he, hk, if_true, if_false, Nat.mul_one, Nat.one_mul, Nat.mul_assoc]

theorem scale_num_pos {num : Nat} (h : 0 < num) (den : Nat) (e : Int) :
    0 < (scale num den e).1 := by
  rw [scale]
  split
  · exact h
  · exact Nat.mul_pos h (Nat.pow_pos Nat.two_pos)

theorem scale_pos {den : Nat} (h : 0 < den) (num : Nat) (e : Int) : 0 < (scale num den e).2 := by
  rw [scale]
  split
  · exact Nat.mul_pos h (Nat.pow_pos Nat.two_pos)
  · exact h

theorem quarterNum_pos (e k : Int) : 0 < quarterNum e k := by
  have hpos := scale_num_pos Nat.one_pos 4 (-e)
  rw [quarterNum, inUnits]
  dsimp only
  split
  · exact hpos
  · exact Nat.mul_pos hpos (Nat.pow_pos (Nat.succ_pos 9))

theorem quarterDen_pos (e k : Int) : 0 < quarterDen e k := by
  have hpos := scale_pos (Nat.succ_pos 3) 1 (-e)
  rw [quarterDen, inUnits]
  dsimp only
  split
  · exact Nat.mul_pos hpos (Nat.pow_pos (Nat.succ_pos 9))
  · exact hpos

/-- A point that rounds to `m` lies between the ends of the interval of `m`. -/
theorem admits_bounds {m : Magnitude} {k : Int} {point : Nat} (h : m.admits k point = true) :
    m.lowerQuarters * quarterNum m.exponent k ≤ point * quarterDen m.exponent k
      ∧ point * quarterDen m.exponent k ≤ m.upperQuarters * quarterNum m.exponent k := by
  rw [admits, inUnits_eq, inUnits_eq] at h
  dsimp only at h
  split at h
  · rw [Bool.and_eq_true, decide_eq_true_eq, decide_eq_true_eq] at h
    exact h
  · rw [Bool.and_eq_true, decide_eq_true_eq, decide_eq_true_eq] at h
    exact ⟨Nat.le_of_lt h.1, Nat.le_of_lt h.2⟩

theorem admits_of_lt {m : Magnitude} {k : Int} {point : Nat}
    (hlow : m.lowerQuarters * quarterNum m.exponent k < point * quarterDen m.exponent k)
    (hhigh : point * quarterDen m.exponent k < m.upperQuarters * quarterNum m.exponent k) :
    m.admits k point = true := by
  rw [admits, inUnits_eq, inUnits_eq]
  dsimp only
  split
  · rw [Bool.and_eq_true, decide_eq_true_eq, decide_eq_true_eq]
    exact ⟨Nat.le_of_lt hlow, Nat.le_of_lt hhigh⟩
  · rw [Bool.and_eq_true, decide_eq_true_eq, decide_eq_true_eq]
    exact ⟨hlow, hhigh⟩

/-! ## A fine grid -/

/-- The step of the grid `10 ^ k` is less than half of `2 ^ e`. -/
def Fine (e k : Int) : Prop := quarterDen e k < 2 * quarterNum e k

instance (e k : Int) : Decidable (Fine e k) := inferInstanceAs (Decidable (_ < _))

/-- The whole number nearest to a quotient is at most a half away from it. -/
theorem nearestEven_bounds (n : Nat) {d : Nat} (hd : 0 < d) :
    2 * n ≤ 2 * (nearestEven n d * d) + d ∧ 2 * (nearestEven n d * d) ≤ 2 * n + d := by
  have hdiv := Nat.div_add_mod n d
  have hmod := Nat.mod_lt n hd
  rw [Nat.mul_comm] at hdiv
  have hstep : ∀ q, (q + 1) * d = q * d + d := fun q => Nat.succ_mul q d
  rw [nearestEven]
  split
  · omega
  split
  · rw [hstep]
    omega
  split
  · omega
  · rw [hstep]
    omega

/-- On a fine grid the nearest point rounds to `m`. -/
theorem admits_nearest {m : Magnitude} (hm : m.mantissa ≠ 0) {k : Int} (h : Fine m.exponent k) :
    m.admits k (nearestEven (m.quarters * quarterNum m.exponent k) (quarterDen m.exponent k))
      = true := by
  obtain ⟨hlow, hhigh⟩ := nearestEven_bounds (m.quarters * quarterNum m.exponent k)
    (quarterDen_pos m.exponent k)
  rw [Fine] at h
  have hq : 4 ≤ m.quarters := by rw [quarters]; omega
  have hlower : m.lowerQuarters + 1 ≤ m.quarters := by
    rw [lowerQuarters]
    split <;> omega
  -- one quarter below and two above are more than half a step
  have hbelow : m.lowerQuarters * quarterNum m.exponent k + quarterNum m.exponent k
      ≤ m.quarters * quarterNum m.exponent k := by
    rw [← Nat.succ_mul]
    exact Nat.mul_le_mul_right _ hlower
  have habove : m.upperQuarters * quarterNum m.exponent k
      = m.quarters * quarterNum m.exponent k + 2 * quarterNum m.exponent k := by
    rw [upperQuarters, Nat.add_mul]
  generalize m.quarters * quarterNum m.exponent k = n at *
  generalize nearestEven n (quarterDen m.exponent k) = p at *
  exact admits_of_lt (by omega) (by omega)

theorem onGrid?_admits {m : Magnitude} {k : Int} {found : Scientific}
    (h : m.onGrid? k = some found) : found.exponent = k ∧ m.admits k found.digits = true := by
  -- which of the two points is the first does not matter
  obtain ⟨first, second, hgrid⟩ : ∃ first second, m.onGrid? k
      = if m.admits k first then some ⟨first, k⟩
        else if m.admits k second then some ⟨second, k⟩ else none := ⟨_, _, rfl⟩
  rw [hgrid] at h
  split at h
  next hfirst =>
    cases h
    exact ⟨rfl, hfirst⟩
  next =>
    split at h
    next hsecond =>
      cases h
      exact ⟨rfl, hsecond⟩
    next => cases h

theorem onGrid?_fine {m : Magnitude} (hm : m.mantissa ≠ 0) {k : Int} (h : Fine m.exponent k) :
    (m.onGrid? k).isSome = true := by
  rw [onGrid?, inUnits_eq]
  dsimp only
  rw [if_pos (admits_nearest hm h)]
  rfl

/-! ## The search -/

/-- If one of the grids that are tried is fine, the search finds a point that rounds to `m`. -/
theorem admits_searchGrids {m : Magnitude} (hm : m.mantissa ≠ 0) {fuel : Nat} {k : Int}
    (h : ∃ j : Nat, j < fuel ∧ Fine m.exponent (k - j)) :
    m.admits (m.searchGrids fuel k).exponent (m.searchGrids fuel k).digits = true := by
  induction fuel generalizing k with
  | zero =>
    obtain ⟨j, hj, -⟩ := h
    exact absurd hj (Nat.not_lt_zero j)
  | succ fuel ih =>
    rw [searchGrids]
    cases hg : m.onGrid? k with
    | some found =>
      obtain ⟨he, hadmits⟩ := onGrid?_admits hg
      rw [← he] at hadmits
      exact hadmits
    | none =>
      obtain ⟨j, hj, hfine⟩ := h
      -- the present grid was not fine
      have hpos : j ≠ 0 := by
        rintro rfl
        have hsome := onGrid?_fine hm hfine
        rw [show k - ((0 : Nat) : Int) = k by omega, hg] at hsome
        cases hsome
      refine ih ⟨j - 1, by omega, ?_⟩
      rw [show k - 1 - ((j - 1 : Nat) : Int) = k - j by omega]
      exact hfine

/-- A grid that is fine for the exponent `e`. -/
def fineGrid (e : Int) : Int := (52 + e) * 30103 / 100000 - 21

/-- The decimal logarithm of 2 is close enough to `0.30103` for every exponent of the format. -/
theorem fine_fineGrid : ∀ i : Nat, i < 2046 → Fine ((i : Int) - 1074) (fineGrid ((i : Int) - 1074)) := by
  -- over a list the test takes time in proportion to its length, which it does not over a bound
  have hall : ((List.range 2046).all fun i =>
      decide (Fine ((i : Int) - 1074) (fineGrid ((i : Int) - 1074)))) = true := by
    decide +kernel
  intro i hi
  exact of_decide_eq_true (List.all_eq_true.mp hall i (List.mem_range.mpr hi))

theorem exists_fine {m : Magnitude} (hm : m.mantissa ≠ 0) (h : m.Fits) :
    ∃ j : Nat, j < 24 ∧ Fine m.exponent (m.ceilingExponent - j) := by
  obtain ⟨hmantissa, hleast, hmost⟩ := h
  rw [minExponent] at hleast
  rw [maxExponent] at hmost
  have hlog : m.mantissa.log2 < 53 := (Nat.log2_lt hm).mpr hmantissa
  refine ⟨(m.ceilingExponent - fineGrid m.exponent).toNat, ?_, ?_⟩
  · rw [ceilingExponent, fineGrid]
    omega
  · have hgrid : m.ceilingExponent - ((m.ceilingExponent - fineGrid m.exponent).toNat : Int)
        = fineGrid m.exponent := by
      rw [ceilingExponent, fineGrid]
      omega
    have hfine := fine_fineGrid (m.exponent + 1074).toNat (by omega)
    rw [show ((m.exponent + 1074).toNat : Int) - 1074 = m.exponent by omega] at hfine
    rw [hgrid]
    exact hfine

/-- **The shortest decimal of a number rounds to it.** -/
theorem admits_shortest {m : Magnitude} (hm : m.mantissa ≠ 0) (h : m.Fits) :
    m.admits m.shortest.exponent m.shortest.digits = true := by
  rw [shortest, if_neg hm]
  exact admits_searchGrids hm (exists_fine hm h)

/-- The shortest decimal has the digits of zero only for zero, and then no exponent. -/
theorem shortest_zero {m : Magnitude} (h : m.Fits) (hzero : m.shortest.digits = 0) :
    m.shortest.exponent = 0 := by
  by_cases hm : m.mantissa = 0
  · rw [shortest, if_pos hm]
  · have hlow := (admits_bounds (admits_shortest hm h)).1
    rw [hzero, Nat.zero_mul] at hlow
    have hpos := quarterNum_pos m.exponent m.shortest.exponent
    have hquarters : 0 < m.lowerQuarters := by
      rw [lowerQuarters, quarters]
      split <;> omega
    have := Nat.mul_pos hquarters hpos
    omega

end Magnitude

end ImageText.Decimal
