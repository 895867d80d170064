import Mathlib.Algebra.Order.Field.Power
import Mathlib.Data.List.TakeWhile
import Mathlib.Tactic.Linarith
import Mathlib.Tactic.NormNum
import Mathlib.Tactic.Positivity
import Mathlib.Tactic.Ring
import QueryKernel.Number.Real
import QueryKernel.Proofs.Text.Tokens

/-!
Contract: the plain text of a decimal, read back.

Owns:
- the rational number that a decimal stands for;
- the reading of a plain text, which gives that number back;
- the characters of plain texts.

Does not own: which decimal is chosen for a floating word.
-/

namespace QueryKernel.Number

/-- The number that a decimal stands for. -/
def Decimal.value (number : Decimal) : ℚ := number.coefficient * 10 ^ number.exponent

/-- Trimming moves zeros from the coefficient to the exponent. -/
theorem Decimal.trim_value (number : Decimal) : number.trim.value = number.value := by
  induction number using Decimal.trim.induct with
  | case1 number positive inductionHypothesis =>
      rw [Decimal.trim, dif_pos positive, inductionHypothesis, Decimal.value, Decimal.value]
      have whole : (number.coefficient : ℚ) = (number.coefficient / 10 : Nat) * 10 := by
        have exact := Nat.div_mul_cancel (Nat.dvd_of_mod_eq_zero positive.2)
        exact_mod_cast exact.symm
      rw [whole, zpow_add₀ (by norm_num), zpow_one]
      dsimp only
      ring
  | case2 number trimmed => rw [Decimal.trim, dif_neg trimmed]

/-- The number that a plain text is read as: all of its digits, over a power of ten for the
digits behind the point. -/
def readDecimal (text : List Char) : ℚ :=
  let whole := text.takeWhile (· != '.')
  let fraction := (text.dropWhile (· != '.')).drop 1
  Nat.ofDigitChars 10 (whole ++ fraction) 0 / 10 ^ fraction.length

theorem readDecimal_whole {digits : List Char} (free : '.' ∉ digits) :
    readDecimal digits = Nat.ofDigitChars 10 digits 0 := by
  have all : ∀ c ∈ digits, (c != '.') = true := by
    intro c member
    apply bne_iff_ne.mpr
    rintro rfl
    exact free member
  rw [readDecimal, List.takeWhile_eq_self_iff.mpr all, List.dropWhile_eq_nil_iff.mpr all]
  simp

theorem readDecimal_point {whole fraction : List Char} (free : '.' ∉ whole) :
    readDecimal (whole ++ '.' :: fraction) =
      Nat.ofDigitChars 10 (whole ++ fraction) 0 / 10 ^ fraction.length := by
  have all : ∀ c ∈ whole, (c != '.') = true := by
    intro c member
    apply bne_iff_ne.mpr
    rintro rfl
    exact free member
  rw [readDecimal, List.takeWhile_append_of_pos all, List.dropWhile_append_of_pos all]
  simp

theorem point_notMem_digits (value : Nat) : '.' ∉ Nat.toDigits 10 value := by
  intro member
  have digit := Nat.isDigit_of_mem_toDigits (by decide) (by decide) member
  contradiction

/-- A plain text is read as the number that it was written for. -/
theorem Decimal.readDecimal_positionalText (number : Decimal) :
    readDecimal (number.positionalText false).toList = number.value := by
  have free := point_notMem_digits number.coefficient
  have digits : Nat.ofDigitChars 10 (Nat.toDigits 10 number.coefficient) 0 = number.coefficient :=
    Nat.ofDigitChars_ten_toDigits
  unfold Decimal.positionalText Decimal.value
  dsimp only
  split
  · rename_i whole
    have zeros : '.' ∉ Nat.toDigits 10 number.coefficient ++
        List.replicate number.exponent.toNat '0' := by
      simp [free]
    simp only [String.toList_append, String.toList_ofList, Bool.false_eq_true, if_false]
    rw [show "".toList = [] from rfl, List.append_nil, readDecimal_whole zeros,
      Nat.ofDigitChars_append, digits, Nat.ofDigitChars_replicate_zero]
    obtain ⟨exponent, same⟩ := Int.eq_ofNat_of_zero_le whole
    rw [same]
    push_cast
    simp [mul_comm]
  · rename_i fractional
    obtain ⟨shift, same⟩ : ∃ shift : Nat, number.exponent = -shift :=
      ⟨(-number.exponent).toNat, by omega⟩
    have shifted : (-number.exponent).toNat = shift := by omega
    rw [shifted, same, zpow_neg, zpow_natCast, ← div_eq_mul_inv]
    split
    · rename_i inside
      have wholeFree : '.' ∉ (Nat.toDigits 10 number.coefficient).take
          ((Nat.toDigits 10 number.coefficient).length - shift) :=
        fun member => free (List.mem_of_mem_take member)
      simp only [String.toList_append, String.toList_ofList]
      rw [show ".".toList = ['.'] from rfl, List.append_assoc, List.singleton_append,
        readDecimal_point wholeFree, List.take_append_drop, digits, List.length_drop]
      congr 2
      omega
    · rename_i outside
      simp only [String.toList_append, String.toList_ofList]
      have zero : '.' ∉ ['0'] := by decide
      rw [show "0.".toList = ['0'] ++ ['.'] from rfl, List.append_assoc, List.singleton_append,
        List.singleton_append, ← List.singleton_append, readDecimal_point zero,
        Nat.ofDigitChars_append, Nat.ofDigitChars_append, Nat.ofDigitChars_cons,
        Nat.ofDigitChars_nil, Nat.ofDigitChars_replicate_zero]
      have length : (List.replicate (shift - (Nat.toDigits 10 number.coefficient).length) '0' ++
          Nat.toDigits 10 number.coefficient).length = shift := by
        rw [List.length_append, List.length_replicate]
        omega
      rw [length]
      simp [digits]

end QueryKernel.Number
