import Mathlib.Data.Nat.Bitwise
import QueryKernel.Number.Word

/-!
Contract: shifts and masks of words take residues.

A word that is shifted up and back with its sign is the representative around zero of its residue,
and a word under the mask of a width is the residue itself.

Owns:
- the number that sign extension gives, at every width;
- the number that the mask of a width leaves;
- the shift of an unsigned pattern, as a shift of that number.

Does not own: canonical words, and what kernel code does with them.
-/

namespace QueryKernel.Number

theorem two_pow_eq_double {width : Nat} (positive : 0 < width) :
    2 ^ width = 2 * 2 ^ (width - 1) := by
  rw [← Nat.pow_succ']
  congr 1
  omega

theorem toInt64_eq_ofNat (value : UInt64) : value.toInt64 = Int64.ofNat value.toNat := by
  refine Int64.toBitVec.inj ?_
  change value.toBitVec = BitVec.ofNat 64 value.toBitVec.toNat
  rw [BitVec.ofNat_toNat, BitVec.setWidth_eq]

/-- A word is congruent to its bits, read as an unsigned number. -/
theorem toInt_emod_two_pow {width : Nat} (narrow : width ≤ 64) (value : Int64) :
    value.toInt % (2 ^ width : Nat) = ((value.toBitVec.toNat % 2 ^ width : Nat) : Int) := by
  have divides : ((2 ^ width : Nat) : Int) ∣ ((2 ^ 64 : Nat) : Int) := by
    exact_mod_cast Nat.pow_dvd_pow 2 narrow
  rw [← Int64.toInt_toBitVec, BitVec.toInt_eq_toNat_bmod, ← Int.emod_emod_of_dvd _ divides,
    Int.bmod_emod, Int.emod_emod_of_dvd _ divides]
  rfl

/-! ### Sign extension -/

/-- A common factor of a number and its modulus is one of the representative around zero. -/
theorem bmod_mul_right {factor : Nat} (positive : 0 < factor) (number : Int) (modulus : Nat) :
    (number * factor).bmod (modulus * factor) = number.bmod modulus * factor := by
  have residue : number * factor % ((modulus * factor : Nat) : Int) =
      number % (modulus : Int) * factor := by
    push_cast
    rw [Int.mul_comm number, Int.mul_comm modulus, Int.mul_comm (number % _)]
    exact Int.mul_emod_mul_of_pos _ _ (by exact_mod_cast positive)
  have half : number % (modulus : Int) * factor < (((modulus * factor : Nat) : Int) + 1) / 2 ↔
      number % (modulus : Int) < ((modulus : Int) + 1) / 2 := by
    have scaled : number % (modulus : Int) * 2 * factor < (modulus : Int) * factor ↔
        number % (modulus : Int) * 2 < (modulus : Int) :=
      Int.mul_lt_mul_right (by exact_mod_cast positive)
    have order : number % (modulus : Int) * 2 * factor = number % (modulus : Int) * factor * 2 :=
      Int.mul_right_comm ..
    push_cast
    omega
  rw [Int.bmod_def, Int.bmod_def, residue, if_congr half rfl rfl]
  split
  · rfl
  · push_cast
    exact (Int.sub_mul ..).symm

private theorem shift_amount :
    ∀ distance < 64, ((Int64.ofNat distance).toBitVec.smod 64).toNat = distance := by
  decide

/-- What is shifted up and back with its sign is the representative around zero of the low bits. -/
theorem toInt_shiftLeft_shiftRight {distance : Nat} (inside : distance < 64) (value : Int64) :
    ((value.toUInt64 <<< UInt64.ofNat distance).toInt64 >>> Int64.ofNat distance).toInt =
      value.toInt.bmod (2 ^ (64 - distance)) := by
  have amount : distance % 2 ^ 64 % 64 = distance := by omega
  have up : (value.toUInt64 <<< UInt64.ofNat distance).toBitVec = value.toBitVec <<< distance := by
    rw [UInt64.toBitVec_shiftLeft, BitVec.shiftLeft_eq', BitVec.toNat_umod]
    exact congrArg (value.toBitVec <<< ·) amount
  have whole : 2 ^ 64 = 2 ^ (64 - distance) * 2 ^ distance := by
    rw [← Nat.pow_add, Nat.sub_add_cancel (Nat.le_of_lt inside)]
  have top : ((value.toUInt64 <<< UInt64.ofNat distance).toInt64).toInt =
      (value.toBitVec.toNat : Int).bmod (2 ^ (64 - distance)) * ((2 ^ distance : Nat) : Int) := by
    rw [← Int64.toInt_toBitVec, UInt64.toBitVec_toInt64, up, BitVec.toInt_shiftLeft,
      Nat.shiftLeft_eq, whole, Int.natCast_mul, bmod_mul_right (Nat.two_pow_pos distance)]
  have divides : 2 ^ (64 - distance) ∣ 2 ^ 64 := ⟨_, whole⟩
  rw [← Int64.toInt_toBitVec, Int64.toBitVec_shiftRight, BitVec.sshiftRight_eq',
    shift_amount distance inside, BitVec.toInt_sshiftRight, Int64.toInt_toBitVec, top,
    Int.shiftRight_eq_div_pow, Int.mul_ediv_cancel _ (by exact_mod_cast (Nat.two_pow_pos _).ne'),
    ← Int64.toInt_toBitVec, BitVec.toInt_eq_toNat_bmod, Int.bmod_bmod_of_dvd divides]

/-- Sign extension gives the representative around zero. -/
theorem toInt_signExtend {width : Nat} (wide : 1 < width) (narrow : width < 64) (value : Int64) :
    (signExtend width value).toInt = value.toInt.bmod (2 ^ width) := by
  have back : 64 - (64 - width) = width := by omega
  rw [signExtend, if_neg (by omega), if_neg (by omega), toInt_shiftLeft_shiftRight (by omega), back]

/-- Of a truth value, sign extension keeps the lowest bit. -/
theorem toInt_signExtend_one (value : Int64) : (signExtend 1 value).toInt = value.toInt % 2 := by
  have low : (value.toUInt64 &&& 1).toNat = value.toBitVec.toNat % 2 := by
    rw [UInt64.toNat_and, UInt64.toNat_one, Nat.and_one_is_mod]
    rfl
  have small : (value.toUInt64 &&& 1).toNat < 2 ^ 63 := by omega
  rw [signExtend, if_pos rfl, toInt64_eq_ofNat, Int64.toInt_ofNat_of_lt small, low]
  exact (toInt_emod_two_pow (by decide : 1 ≤ 64) value).symm

/-- Widths without a representative of their own leave a word as it is. -/
theorem signExtend_of_outer {width : Nat} (outer : width = 0 ∨ 64 ≤ width) (value : Int64) :
    signExtend width value = value := by
  rw [signExtend, if_neg (by omega), if_pos outer]

/-! ### Unsigned patterns -/

/-- The low bits of a word are the residue of its bits. -/
theorem unsignedPattern_eq_mod {width : Nat} (narrow : width ≤ 64) (value : Int64) :
    (unsignedPattern width value).toNat = value.toBitVec.toNat % 2 ^ width := by
  have ones : (widthMask width).toNat = 2 ^ width - 1 := by
    unfold widthMask
    split
    · rename_i full
      obtain rfl : width = 64 := by omega
      rfl
    · rename_i short
      have bound : 2 ^ width < 2 ^ 64 := Nat.pow_lt_pow_right (by decide) (by omega)
      have amount : (UInt64.ofNat width).toNat % 64 = width := by
        rw [UInt64.toNat_ofNat']
        omega
      have power : ((1 : UInt64) <<< UInt64.ofNat width).toNat = 2 ^ width := by
        rw [UInt64.toNat_shiftLeft, amount, UInt64.toNat_one, Nat.one_shiftLeft,
          Nat.mod_eq_of_lt bound]
      have positive : 1 ≤ (1 : UInt64) <<< UInt64.ofNat width := by
        rw [UInt64.le_iff_toNat_le, power]
        exact Nat.two_pow_pos width
      rw [UInt64.toNat_sub_of_le _ _ positive, power]
      rfl
  rw [unsignedPattern, UInt64.toNat_and, ones, Nat.and_two_pow_sub_one_eq_mod]
  rfl

/-- The shift of a pattern, as one of a number. -/
theorem wordShiftRight_eq (width : Nat) (value amount : Int64) :
    wordShiftRight width value amount = signExtend width
      (Int64.ofNat ((unsignedPattern width value).toNat >>> (amount.toUInt64.toNat % 64))) := by
  rw [wordShiftRight, toInt64_eq_ofNat, UInt64.toNat_shiftRight]

end QueryKernel.Number
