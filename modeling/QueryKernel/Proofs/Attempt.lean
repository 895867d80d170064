import Mathlib.Data.List.Forall2
import QueryKernel.Error

/-!
Contract: successful computations taken apart.

Owns: inversion of a bind, of a test and of a traversal that succeed.
-/

namespace QueryKernel

variable {α β : Type}

/-- A computation in two steps succeeds when both steps do. -/
theorem bind_eq_ok {first : Except Error α} {next : α → Except Error β} {result : β} :
    (first >>= next) = .ok result ↔ ∃ value, first = .ok value ∧ next value = .ok result := by
  cases first with
  | error failure =>
      constructor
      · intro impossible
        contradiction
      · rintro ⟨value, impossible, -⟩
        contradiction
  | ok value =>
      constructor
      · intro rest
        exact ⟨value, rfl, rest⟩
      · rintro ⟨found, same, rest⟩
        cases same
        exact rest

/-- Behind the same test, outcomes are carried over branch by branch. -/
theorem ite_eq_ok_imp {test : Prop} [Decidable test] {first second : Except Error α}
    {firstOther secondOther : Except Error β} {result : α} {other : β}
    (carryFirst : first = .ok result → firstOther = .ok other)
    (carrySecond : second = .ok result → secondOther = .ok other)
    (made : (if test then first else second) = .ok result) :
    (if test then firstOther else secondOther) = .ok other := by
  split_ifs at made ⊢
  · exact carryFirst made
  · exact carrySecond made

theorem exists_of_toBool {outcome : Except Error α} (succeeds : outcome.toBool = true) :
    ∃ value, outcome = .ok value := by
  cases outcome with
  | error failure => contradiction
  | ok value => exact ⟨value, rfl⟩

/-- A traversal succeeds when every element does, and gives the results in order. -/
theorem mapM_eq_ok {visit : α → Except Error β} {elements : List α} {results : List β} :
    elements.mapM visit = .ok results ↔
      List.Forall₂ (fun element result => visit element = .ok result) elements results := by
  induction elements generalizing results with
  | nil =>
      rw [List.mapM_nil, List.forall₂_nil_left_iff]
      constructor
      · intro same
        cases same
        rfl
      · rintro rfl
        rfl
  | cons element rest inductionHypothesis =>
      rw [List.mapM_cons, bind_eq_ok]
      constructor
      · rintro ⟨first, firstEq, others⟩
        obtain ⟨behind, behindEq, same⟩ := bind_eq_ok.mp others
        cases same
        exact .cons firstEq (inductionHypothesis.mp behindEq)
      · intro all
        cases all with
        | cons firstEq behind =>
            exact ⟨_, firstEq, bind_eq_ok.mpr ⟨_, inductionHypothesis.mpr behind, rfl⟩⟩

end QueryKernel
