import QueryKernel.Proofs.Ir.Definition
import QueryKernel.Proofs.Ir.Execution
import QueryKernel.Proofs.Number.Residues

/-!
Contract: kernel code computes with residues.

Owns:
- what executing an instruction gives;
- the main statement: sign extension, conjunction, the shift to the right and comparison, evaluated
  at any width up to 64, are those of residues in canonical form.

Does not own: that operands are canonical.
-/

namespace QueryKernel.Ir

open QueryKernel.Number

/-- Executing the instruction at a place of a run gives the integer as the result of the place. -/
def Frame.Gives (frame : Frame) (instruction : Instruction) (bits : Nat) (word : Int64) : Prop :=
  ∀ code image place type, place < frame.results.size →
    ∃ next, frame.step code image place instruction = .ok next ∧
      next.resolve (.result place type) = .ok (.int bits word)

/-- An instruction gives what it computes. -/
theorem Frame.gives_of_computed {frame : Frame} {instruction : Instruction} {bits : Nat}
    {word : Int64} (noStore : ∀ value global, instruction ≠ .store value global)
    (computed : ∀ code image, frame.compute code image instruction = .ok (some (.int bits word))) :
    frame.Gives instruction bits word := by
  intro code image place type inside
  refine ⟨_, step_of_computed noStore (computed code image), ?_⟩
  simp only [resolve]
  rw [Array.getElem?_setIfInBounds_self_of_lt inside]

/-- At every width up to 64, sign extension takes a word of 64 bits to the canonical word that is
congruent to it, and does nothing the second time. The conjunction is that of the low bits, the
shift to the right divides the residue, and the comparison is that of the signed numbers that the
bits stand for. An immediate that fits its width is kept. -/
theorem evaluation_is_modular {width : Nat} (positive : 0 < width) (narrow : width ≤ 64) :
    (∀ value : UInt64, Represents width value.toNat (signExtend width value.toInt64)) ∧
    (∀ value, signExtend width (signExtend width value) = signExtend width value) ∧
    (∀ (frame : Frame) (left right : Operand) (leftWord rightWord : Int64),
      frame.resolve left = .ok (.int width leftWord) →
      frame.resolve right = .ok (.int width rightWord) →
        (∃ word, frame.Gives (.and left right) width word ∧
          Represents width (lowBits width leftWord &&& lowBits width rightWord).toNat word) ∧
        (IsCanonical width leftWord → IsCanonical width rightWord →
          frame.Gives (.greater left right) 1
            (if signedReading width rightWord < signedReading width leftWord then 1 else 0))) ∧
    (∀ (frame : Frame) (value amount : Operand) (word : Int64) (bits count : Nat),
      frame.resolve value = .ok (.int width word) →
      frame.resolve amount = .ok (.int bits (Int64.ofNat count)) → count < width →
        ∃ shifted, frame.Gives (.shiftRight value amount) width shifted ∧
          Represents width (word.toInt % (2 ^ width : Nat) / (2 ^ count : Nat)) shifted) ∧
    (∀ bits, 1 < bits → ∀ value : Int64, -((2 ^ (bits - 1) : Nat) : Int) ≤ value.toInt →
      value.toInt < (2 ^ (bits - 1) : Nat) → Operand.ofInt bits value = .int bits value) := by
  refine ⟨fun value => ?_, fun value => ?_,
    fun frame left right leftWord rightWord leftEq rightEq =>
      ⟨?_, fun leftCanonical rightCanonical => ?_⟩,
    fun frame value amount word bits count valueEq amountEq inside => ?_,
    fun bits wide value lower upper => ?_⟩
  · exact signExtend_toInt64_represents positive narrow value
  · exact signExtend_of_canonical positive narrow (signExtend_canonical width value)
  · exact ⟨_, Frame.gives_of_computed (by simp) fun _ _ => Frame.compute_and leftEq rightEq,
      wordAnd_represents positive narrow leftWord rightWord⟩
  · have compared : wordGreater leftWord rightWord =
        if signedReading width rightWord < signedReading width leftWord then 1 else 0 := by
      rw [signedReading_of_canonical positive narrow leftCanonical,
        signedReading_of_canonical positive narrow rightCanonical, wordGreater]
      exact if_congr Int64.lt_iff_toInt_lt rfl rfl
    rw [← compared]
    exact Frame.gives_of_computed (by simp) fun _ _ => Frame.compute_greater leftEq rightEq
  · exact ⟨_,
      Frame.gives_of_computed (by simp) fun _ _ => Frame.compute_shiftRight valueEq amountEq,
      wordShiftRight_represents positive narrow word inside⟩
  · push_cast at lower upper
    rw [Operand.ofInt, signExtend_of_fits wide lower (by omega)]

/-- The byte -16 is shifted as the pattern 240, and the sign of what comes out is that of the
pattern 15. -/
theorem evaluation_is_modular_byte :
    let frame : Frame := { results := #[some (.int 8 (-16)), none], globals := #[] }
    let value : Operand := .result 0 (.int 8)
    frame.resolve value = .ok (.int 8 (-16)) ∧ IsCanonical 8 (-16) ∧
      (∃ shifted, frame.Gives (.shiftRight value (.ofInt 64 4)) 8 shifted ∧
        Represents 8 15 shifted) ∧
      frame.Gives (.greater (.ofInt 8 127) value) 1 1 := by
  intro frame value
  have canonical : IsCanonical 8 (-16) :=
    ⟨by decide, fun _ _ => by decide, fun _ _ => by decide⟩
  have largest : IsCanonical 8 127 :=
    ⟨by decide, fun _ _ => by decide, fun _ _ => by decide⟩
  obtain ⟨-, -, paired, shifts, -⟩ := @evaluation_is_modular 8 (by decide) (by decide)
  refine ⟨rfl, canonical, shifts frame value (.ofInt 64 4) (-16) 64 4 rfl rfl (by decide), ?_⟩
  exact (paired frame (.ofInt 8 127) value 127 (-16) rfl rfl).2 largest canonical

end QueryKernel.Ir
