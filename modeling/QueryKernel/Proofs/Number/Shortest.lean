import QueryKernel.Proofs.Number.Decimals

/-!
Contract: the shortest decimal of a neighbourhood lies in the neighbourhood.

Owns:
- membership of rational numbers in a neighbourhood;
- the points that are taken from a grid;
- the main statement, for neighbourhoods that the finest grid cannot miss.

Does not own: that no shorter decimal exists.
-/

namespace QueryKernel.Number

/-- Membership in a neighbourhood, whose ends belong to it only if it is closed. -/
def Neighbourhood.Contains (region : Neighbourhood) (number : ℚ) : Prop :=
  if region.closed then
    region.lower ≤ number * region.denominator ∧ number * region.denominator ≤ region.upper
  else
    region.lower < number * region.denominator ∧ number * region.denominator < region.upper

/-- A power of ten as a quotient of the two powers that the grid is computed with. -/
theorem ten_zpow_mul_fine (exponent : ℤ) :
    (10 : ℚ) ^ exponent * (10 ^ (-exponent).toNat : Nat) = (10 ^ exponent.toNat : Nat) := by
  push_cast
  rw [← zpow_natCast, ← zpow_natCast, ← zpow_add₀ (by norm_num)]
  congr 1
  omega

section Grid

variable {region : Neighbourhood} {exponent : ℤ}

/-- Whether a grid point lies in the neighbourhood, as the grid search decides it. -/
def Neighbourhood.meets (region : Neighbourhood) (exponent : ℤ) (point : Nat) : Bool :=
  if region.closed then
    region.lower * 10 ^ (-exponent).toNat ≤ point * (region.denominator * 10 ^ exponent.toNat) &&
      point * (region.denominator * 10 ^ exponent.toNat) ≤ region.upper * 10 ^ (-exponent).toNat
  else
    region.lower * 10 ^ (-exponent).toNat < point * (region.denominator * 10 ^ exponent.toNat) &&
      point * (region.denominator * 10 ^ exponent.toNat) < region.upper * 10 ^ (-exponent).toNat

theorem Neighbourhood.contains_of_meets {point : Nat} (meets : region.meets exponent point = true) :
    region.Contains (point * 10 ^ exponent) := by
  have fine : (0 : ℚ) < (10 ^ (-exponent).toNat : Nat) := by positivity
  -- Both sides of every comparison are scaled by the same power of ten.
  have scaled : (point : ℚ) * 10 ^ exponent * region.denominator * (10 ^ (-exponent).toNat : Nat) =
      (point * (region.denominator * 10 ^ exponent.toNat) : Nat) := by
    have power := ten_zpow_mul_fine exponent
    calc (point : ℚ) * 10 ^ exponent * region.denominator * (10 ^ (-exponent).toNat : Nat)
        = point * (region.denominator * (10 ^ exponent * (10 ^ (-exponent).toNat : Nat))) := by ring
      _ = (point * (region.denominator * 10 ^ exponent.toNat) : Nat) := by
        rw [power]
        push_cast
        ring
  unfold Neighbourhood.meets at meets
  unfold Neighbourhood.Contains
  split at meets
  · rename_i closed
    simp only [Bool.and_eq_true, decide_eq_true_eq] at meets
    rw [if_pos closed]
    constructor
    · apply le_of_mul_le_mul_right _ fine
      rw [scaled]
      exact_mod_cast meets.1
    · apply le_of_mul_le_mul_right _ fine
      rw [scaled]
      exact_mod_cast meets.2
  · rename_i opened
    simp only [Bool.and_eq_true, decide_eq_true_eq] at meets
    rw [if_neg opened]
    constructor
    · apply lt_of_mul_lt_mul_right _ fine.le
      rw [scaled]
      exact_mod_cast meets.1
    · apply lt_of_mul_lt_mul_right _ fine.le
      rw [scaled]
      exact_mod_cast meets.2

/-- The grid search tries the point below the value and the one above it. -/
theorem Neighbourhood.pointOnGrid_eq (region : Neighbourhood) (exponent : ℤ) :
    region.pointOnGrid exponent =
      let step := region.denominator * 10 ^ exponent.toNat
      let below := region.value * 10 ^ (-exponent).toNat / step
      match region.meets exponent below, region.meets exponent (below + 1) with
      | false, false => none
      | true, false => some below
      | false, true => some (below + 1)
      | true, true =>
          some (if 2 * (region.value * 10 ^ (-exponent).toNat % step) < step then below
            else below + 1) := rfl

theorem Neighbourhood.pointOnGrid_contains {point : Nat}
    (found : region.pointOnGrid exponent = some point) :
    region.Contains (point * 10 ^ exponent) := by
  apply contains_of_meets
  rw [pointOnGrid_eq] at found
  dsimp only at found
  split at found
  · contradiction
  · rename_i below above
    cases found
    exact below
  · rename_i below above
    cases found
    exact above
  · rename_i below above
    cases found
    split
    · exact below
    · exact above

/-- A neighbourhood around its value that is wider than the grid step meets the grid. -/
theorem Neighbourhood.pointOnGrid_isSome (below : region.lower < region.value)
    (above : region.value < region.upper)
    (wide : region.denominator * 10 ^ exponent.toNat <
      (region.upper - region.lower) * 10 ^ (-exponent).toNat)
    (positive : 0 < region.denominator) : (region.pointOnGrid exponent).isSome = true := by
  generalize fineEq : 10 ^ (-exponent).toNat = fine at wide
  generalize stepEq : region.denominator * 10 ^ exponent.toNat = step at wide
  have finePositive : 0 < fine := fineEq ▸ Nat.pow_pos (by decide)
  have belowScaled : region.lower * fine < region.value * fine :=
    Nat.mul_lt_mul_of_pos_right below finePositive
  have aboveScaled : region.value * fine < region.upper * fine :=
    Nat.mul_lt_mul_of_pos_right above finePositive
  have stepPositive : 0 < step := by
    rw [← stepEq]
    exact Nat.mul_pos positive (Nat.pow_pos (by decide))
  rw [Nat.sub_mul] at wide
  -- The value lies between two neighbouring grid points, one of which is in the region.
  have division := Nat.div_add_mod (region.value * fine) step
  have remainder := Nat.mod_lt (region.value * fine) stepPositive
  have next := Nat.succ_mul (region.value * fine / step) step
  rw [Nat.mul_comm] at division
  have either : region.meets exponent (region.value * fine / step) = true ∨
      region.meets exponent (region.value * fine / step + 1) = true := by
    unfold meets
    rw [fineEq, stepEq, ← Nat.succ_eq_add_one, next]
    split
    · simp only [Bool.and_eq_true, decide_eq_true_eq]
      omega
    · simp only [Bool.and_eq_true, decide_eq_true_eq]
      omega
  rw [pointOnGrid_eq, fineEq, stepEq]
  dsimp only
  split
  · rename_i first second
    rw [first, second] at either
    simp at either
  · rfl
  · rfl
  · rfl

end Grid

/-! ### The choice of the grid -/

theorem digitCount_le_iff {value count : Nat} (positive : 0 < count) :
    digitCount value ≤ count ↔ value < 10 ^ count :=
  Nat.length_toDigits_le_iff (by decide) positive

theorem digitCount_pos (value : Nat) : 0 < digitCount value := Nat.length_toDigits_pos

theorem ten_pow_pred_le {value : Nat} (positive : 0 < value) :
    10 ^ (digitCount value - 1) ≤ value := by
  by_cases single : digitCount value - 1 = 0
  · rw [single]
    exact positive
  · have long : ¬ digitCount value ≤ digitCount value - 1 := by
      have counted := digitCount_pos value
      omega
    rw [digitCount_le_iff (Nat.pos_of_ne_zero single)] at long
    exact Nat.le_of_not_lt long

theorem lt_ten_pow (value : Nat) : value < 10 ^ digitCount value :=
  (digitCount_le_iff (digitCount_pos value)).mp (Nat.le_refl _)

/-- The power of ten at the leading digit is not above the number. -/
theorem ten_zpow_leadingExponent_le {numerator denominator : Nat} (positive : 0 < numerator)
    (inhabited : 0 < denominator) :
    (10 : ℚ) ^ leadingExponent numerator denominator * denominator ≤ numerator := by
  unfold leadingExponent
  split
  · rename_i whole
    have quotient : 0 < numerator / denominator := Nat.div_pos whole inhabited
    have bound := Nat.mul_le_mul_right denominator (ten_pow_pred_le quotient)
    have power : ((digitCount (numerator / denominator) : ℤ) - 1) =
        ((digitCount (numerator / denominator) - 1 : Nat) : ℤ) := by
      have counted := digitCount_pos (numerator / denominator)
      omega
    rw [power, zpow_natCast]
    exact_mod_cast bound.trans (Nat.div_mul_le_self numerator denominator)
  · have next : denominator - 1 < (denominator - 1) / numerator * numerator + numerator :=
      Nat.lt_div_mul_add positive
    have bound := Nat.mul_le_mul_right numerator
      (Nat.succ_le_of_lt (lt_ten_pow ((denominator - 1) / numerator)))
    have covered : denominator ≤ 10 ^ digitCount ((denominator - 1) / numerator) * numerator := by
      rw [Nat.succ_mul] at bound
      omega
    rw [zpow_neg, zpow_natCast, inv_mul_le_iff₀ (by positivity)]
    exact_mod_cast covered

/-- A neighbourhood around its value that is wider than the finest grid contains its shortest
decimal. -/
theorem Neighbourhood.shortest_contains {region : Neighbourhood}
    (below : region.lower < region.value) (above : region.value < region.upper)
    (positive : 0 < region.denominator)
    (wide : region.value < (region.upper - region.lower) * 10 ^ (maximalDigits - 1)) :
    region.Contains region.shortest.value := by
  let leading := leadingExponent region.value region.denominator
  have finest : (region.pointOnGrid (leading - (maximalDigits - 1 : Nat))).isSome = true := by
    apply pointOnGrid_isSome below above _ positive
    generalize exponentEq : leading - (maximalDigits - 1 : Nat) = exponent
    have leadingLe : (10 : ℚ) ^ leading * region.denominator ≤ region.value :=
      ten_zpow_leadingExponent_le (Nat.lt_of_le_of_lt (Nat.zero_le _) below) positive
    have split : (10 : ℚ) ^ leading = 10 ^ exponent * 10 ^ (maximalDigits - 1) := by
      rw [← zpow_natCast, ← zpow_add₀ (by norm_num), ← exponentEq]
      congr 1
      omega
    have wideRational : (region.value : ℚ) <
        (region.upper - region.lower : Nat) * 10 ^ (maximalDigits - 1) := by
      exact_mod_cast wide
    have step : (10 : ℚ) ^ exponent * region.denominator < (region.upper - region.lower : Nat) := by
      apply lt_of_mul_lt_mul_right _ (by positivity : (0 : ℚ) ≤ 10 ^ (maximalDigits - 1))
      calc (10 : ℚ) ^ exponent * region.denominator * 10 ^ (maximalDigits - 1)
          = 10 ^ leading * region.denominator := by rw [split]; ring
        _ ≤ region.value := leadingLe
        _ < (region.upper - region.lower : Nat) * 10 ^ (maximalDigits - 1) := wideRational
    have fine : (0 : ℚ) < (10 ^ (-exponent).toNat : Nat) := by positivity
    have scaled := mul_lt_mul_of_pos_right step fine
    rw [mul_right_comm, ten_zpow_mul_fine, mul_comm] at scaled
    exact_mod_cast scaled
  unfold shortest
  dsimp only
  rw [Decimal.trim_value]
  cases found : ((List.range maximalDigits).map fun (extra : Nat) => leading - extra).findSome?
      fun exponent => (region.pointOnGrid exponent).map fun point => Decimal.mk point exponent with
  | none =>
      have missed := List.findSome?_eq_none_iff.mp found (leading - (maximalDigits - 1 : Nat))
        (List.mem_map.mpr ⟨maximalDigits - 1, by decide, rfl⟩)
      rw [Option.map_eq_none_iff] at missed
      rw [missed] at finest
      contradiction
  | some decimal =>
      rcases List.exists_of_findSome?_eq_some found with ⟨exponent, -, taken⟩
      rcases Option.map_eq_some_iff.mp taken with ⟨point, onGrid, rfl⟩
      exact pointOnGrid_contains onGrid

end QueryKernel.Number
