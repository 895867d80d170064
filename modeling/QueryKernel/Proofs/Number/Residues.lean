import QueryKernel.Proofs.Number.Canonical

/-!
Contract: the words of a width are numbers modulo a power of two.

Every residue has one word in canonical form, and the operations on words give the canonical word of
the residue that they are named for.

Owns:
- the word of a width that stands for a number, and that there is one only;
- sign extension, conjunction and the shift to the right, as such words;
- the signed reading of a word by its bits, and comparison by it.

Does not own: operands and their evaluation.
-/

namespace QueryKernel.Number

/-- The word of a width that stands for a number: it is congruent to the number, and a truth value
for width one or a signed number of the width. -/
structure Represents (width : Nat) (number : Int) (word : Int64) : Prop where
  congruent : word.toInt % (2 ^ width : Nat) = number % (2 ^ width : Nat)
  truth : width = 1 → word.toInt = 0 ∨ word.toInt = 1
  lower : width ≠ 1 → -((2 ^ (width - 1) : Nat) : Int) ≤ word.toInt
  upper : width ≠ 1 → word.toInt < (2 ^ (width - 1) : Nat)

/-- The low bits of a word. -/
def lowBits (width : Nat) (word : Int64) : BitVec width := word.toBitVec.setWidth width

section Widths

variable {width : Nat} (positive : 0 < width) (narrow : width ≤ 64)

include narrow in
theorem toInt_emod_eq_lowBits (word : Int64) :
    word.toInt % (2 ^ width : Nat) = (lowBits width word).toNat := by
  rw [lowBits, BitVec.toNat_setWidth, toInt_emod_two_pow narrow]

/-- A number is congruent at a narrow width to what it becomes in a word. -/
theorem toInt_ofInt_emod (narrow : width ≤ 64) (number : Int) :
    (Int64.ofInt number).toInt % (2 ^ width : Nat) = number % (2 ^ width : Nat) := by
  have divides : ((2 ^ width : Nat) : Int) ∣ ((Int64.size : Nat) : Int) := by
    exact_mod_cast Nat.pow_dvd_pow 2 narrow
  rw [Int64.toInt_ofInt, ← Int.emod_emod_of_dvd _ divides, Int.bmod_emod,
    Int.emod_emod_of_dvd _ divides]

include positive narrow

theorem represents_of_canonical {word : Int64} (canonical : IsCanonical width word) :
    Represents width word.toInt word where
  congruent := rfl
  truth isOne := (canonical.truth isOne).imp (congrArg Int64.toInt) (congrArg Int64.toInt)
  lower wide := by
    by_cases full : width = 64
    · subst full
      exact word.le_toInt
    · exact canonical.lower (by omega) (by omega)
  upper wide := by
    by_cases full : width = 64
    · subst full
      exact word.toInt_lt
    · exact canonical.upper (by omega) (by omega)

omit narrow in
/-- A word in canonical form is its own representative around zero. -/
theorem Represents.bmod {number : Int} {word : Int64} (represents : Represents width number word)
    (several : width ≠ 1) : word.toInt.bmod (2 ^ width) = word.toInt := by
  have lower := represents.lower several
  have upper := represents.upper several
  push_cast at lower upper
  exact bmod_of_fits positive lower (by omega)

omit narrow in
/-- A number has one word of a width. -/
theorem Represents.unique {number : Int} {word other : Int64}
    (represents : Represents width number word) (again : Represents width number other) :
    word = other := by
  apply Int64.toInt_inj.mp
  have congruent := represents.congruent.trans again.congruent.symm
  by_cases single : width = 1
  · subst single
    rcases represents.truth rfl with zero | one <;> rcases again.truth rfl with zero' | one' <;>
      simp_all
  · rw [← represents.bmod positive single, ← again.bmod positive single,
      ← Int.emod_bmod, congruent, Int.emod_bmod]

/-- Sign extension gives the word that stands for a word. -/
theorem signExtend_represents (value : Int64) :
    Represents width value.toInt (signExtend width value) := by
  have canonical := represents_of_canonical positive narrow (signExtend_canonical width value)
  refine { canonical with congruent := ?_ }
  by_cases single : width = 1
  · subst single
    rw [toInt_signExtend_one]
    exact Int.emod_emod_of_dvd _ (by decide)
  by_cases full : 64 ≤ width
  · rw [signExtend_of_outer (.inr full)]
  · rw [toInt_signExtend (by omega) (by omega), Int.bmod_emod]

/-- Sign extension gives the word that stands for an unsigned word. -/
theorem signExtend_toInt64_represents (value : UInt64) :
    Represents width value.toNat (signExtend width value.toInt64) where
  __ := signExtend_represents positive narrow value.toInt64
  congruent := by
    have bits : (lowBits width value.toInt64).toNat = value.toNat % 2 ^ width :=
      BitVec.toNat_setWidth ..
    rw [(signExtend_represents positive narrow value.toInt64).congruent,
      toInt_emod_eq_lowBits narrow, bits]
    rfl

/-- A number as a word, sign-extended. -/
theorem signExtend_ofInt_represents (number : Int) :
    Represents width number (signExtend width (Int64.ofInt number)) where
  __ := signExtend_represents positive narrow (Int64.ofInt number)
  congruent :=
    (signExtend_represents positive narrow _).congruent.trans (toInt_ofInt_emod narrow number)

/-- A canonical word is its own sign extension. -/
theorem signExtend_of_canonical {word : Int64} (canonical : IsCanonical width word) :
    signExtend width word = word :=
  (signExtend_represents positive narrow word).unique positive
    (represents_of_canonical positive narrow canonical)

/-! ### Operations -/

/-- The conjunction stands for the conjunction of the bits. -/
theorem wordAnd_represents (left right : Int64) :
    Represents width (lowBits width left &&& lowBits width right).toNat
      (wordAnd width left right) where
  __ := signExtend_represents positive narrow (left &&& right)
  congruent := by
    have same : lowBits width (left &&& right) = lowBits width left &&& lowBits width right := by
      rw [lowBits, Int64.toBitVec_and, BitVec.setWidth_and]
      rfl
    have sum := (signExtend_represents positive narrow (left &&& right)).congruent
    rw [toInt_emod_eq_lowBits narrow (left &&& right), same] at sum
    rw [wordAnd, sum]
    have small : (lowBits width left &&& lowBits width right).toNat < 2 ^ width := BitVec.isLt _
    exact (Int.emod_eq_of_lt (Int.natCast_nonneg _) (by exact_mod_cast small)).symm

/-- The shift to the right stands for the quotient of the residue. -/
theorem wordShiftRight_represents (value : Int64) {amount : Nat} (inside : amount < width) :
    Represents width (value.toInt % (2 ^ width : Nat) / (2 ^ amount : Nat))
      (wordShiftRight width value (Int64.ofNat amount)) := by
  have count : (Int64.ofNat amount).toUInt64.toNat % 64 = amount := by
    change amount % 2 ^ 64 % 64 = amount
    omega
  have quotient : (((unsignedPattern width value).toNat >>> amount : Nat) : Int) =
      value.toInt % (2 ^ width : Nat) / (2 ^ amount : Nat) := by
    rw [Nat.shiftRight_eq_div_pow, unsignedPattern_eq_mod narrow, toInt_emod_two_pow narrow,
      Int.natCast_ediv]
  rw [wordShiftRight_eq, count, ← quotient]
  exact signExtend_ofInt_represents positive narrow _

/-- The signed number that the bits of a word stand for, where a single bit is a truth value. -/
def signedReading (width : Nat) (word : Int64) : Int :=
  if width = 1 then (lowBits width word).toNat else (lowBits width word).toInt

/-- A canonical word is the number that its bits stand for. -/
theorem signedReading_of_canonical {word : Int64} (canonical : IsCanonical width word) :
    signedReading width word = word.toInt := by
  have represents := represents_of_canonical positive narrow canonical
  unfold signedReading
  split_ifs with single
  · subst single
    rw [← toInt_emod_eq_lowBits narrow]
    rcases represents.truth rfl with zero | one
    · rw [zero]; rfl
    · rw [one]; rfl
  · rw [BitVec.toInt_eq_toNat_bmod, ← toInt_emod_eq_lowBits narrow, Int.emod_bmod,
      represents.bmod positive single]

end Widths

end QueryKernel.Number
