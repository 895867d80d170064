import QueryKernel.Proofs.Number.Words

/-!
Contract: words of a width are kept in one form.

Owns:
- canonical words: truth values for width one, and sign-extended words for the widths up to 63;
- sign extension gives them, whatever it is given, and so does a comparison.

Does not own: which word of the form it is.
-/

namespace QueryKernel.Number

/-- The word is a truth value if the width is one, and repeats its highest bit if the width lies
between two and 63. Words of other widths have no other form. -/
structure IsCanonical (width : Nat) (value : Int64) : Prop where
  truth : width = 1 → value = 0 ∨ value = 1
  lower : 1 < width → width < 64 → -((2 ^ (width - 1) : Nat) : Int) ≤ value.toInt
  upper : 1 < width → width < 64 → value.toInt < ((2 ^ (width - 1) : Nat) : Int)

/-- Every width has its words sign-extended. -/
theorem signExtend_canonical (width : Nat) (value : Int64) :
    IsCanonical width (signExtend width value) := by
  have positive : 0 < 2 ^ width := Nat.two_pow_pos width
  constructor
  · rintro rfl
    rw [← Int64.toInt_inj, ← Int64.toInt_inj, toInt_signExtend_one]
    exact Int.emod_two_eq value.toInt
  · intro wide narrow
    have lower := Int.le_bmod (x := value.toInt) (m := 2 ^ width) positive
    have half := two_pow_eq_double (Nat.lt_of_succ_lt wide)
    rw [toInt_signExtend wide narrow]
    omega
  · intro wide narrow
    have upper := Int.bmod_lt (x := value.toInt) (m := 2 ^ width) positive
    have half := two_pow_eq_double (Nat.lt_of_succ_lt wide)
    rw [toInt_signExtend wide narrow]
    omega

theorem wordGreater_canonical (left right : Int64) : IsCanonical 1 (wordGreater left right) := by
  constructor
  · intro _
    unfold wordGreater
    split
    · exact .inr rfl
    · exact .inl rfl
  · intro wide
    contradiction
  · intro wide
    contradiction

end QueryKernel.Number
