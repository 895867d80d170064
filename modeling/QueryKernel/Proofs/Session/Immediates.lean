import QueryKernel.Proofs.Attempt
import QueryKernel.Session.Immediate

/-!
Contract: the shapes of immediates.

Owns: the inversion of an immediate into the operands that it can consist of, each with what it
changes in the workspace.

Does not own: which constants have immediates.
-/

namespace QueryKernel.Session

open QueryKernel.Ir (Operand)
open QueryKernel.Sql (Constant)

/-- The operands of an immediate, and the workspace behind it. Only ids change the dictionaries, and
only texts change the code. -/
inductive Immediate (workspace : Workspace) : List Operand → Workspace → Prop where
  | word (bits : Nat) (value : Int64) : Immediate workspace [.ofInt bits value] workspace
  | float (value : Number.Real32) : Immediate workspace [.float value] workspace
  | double (value : Number.Real64) : Immediate workspace [.double value] workspace
  | id (handle : Nat) (value : String) :
      Immediate workspace [.ofInt 32 (workspace.registry.idOf handle value).1.toInt64]
        { workspace with registry := (workspace.registry.idOf handle value).2 }
  | nullText : Immediate workspace [.ofInt 64 0, .null, .ofInt 32 0] workspace
  | text (value : String) :
      Immediate workspace
        [.ofInt 64 0, (workspace.session.code.addString value).1,
          .ofInt 32 (Int64.ofNat value.utf8ByteSize)]
        { workspace with session := { workspace.session with
            code := (workspace.session.code.addString value).2 } }

theorem immediateBoolean_eq_ok {constant : Constant} {operand : Operand}
    (made : immediateBoolean constant = .ok operand) :
    ∃ bits value, operand = .ofInt bits value := by
  unfold immediateBoolean at made
  split at made
  all_goals
    obtain ⟨value, -, same⟩ := bind_eq_ok.mp made
    cases same
    exact ⟨_, _, rfl⟩

theorem immediateInteger_eq_ok {constant : Constant} {operand : Operand}
    (made : immediateInteger constant = .ok operand) :
    ∃ bits value, operand = .ofInt bits value := by
  obtain ⟨bits, -, rest⟩ := bind_eq_ok.mp made
  obtain ⟨value, -, same⟩ := bind_eq_ok.mp rest
  cases same
  exact ⟨bits, value, rfl⟩

variable {workspace after : Workspace} {constant : Constant} {encoding : StringEncoding}
  {operands : List Operand}

theorem immediateString_eq_ok
    (made : immediateString workspace constant encoding = .ok (operands, after)) :
    Immediate workspace operands after := by
  unfold immediateString at made
  split at made
  · split at made
    · cases made
      exact .word 32 _
    · obtain ⟨value, -, rest⟩ := bind_eq_ok.mp made
      obtain ⟨handle, -, same⟩ := bind_eq_ok.mp rest
      cases same
      exact .id handle value
  · split at made
    · cases made
      exact .nullText
    · obtain ⟨value, -, rest⟩ := bind_eq_ok.mp made
      split at rest
      · contradiction
      · cases rest
        exact .text value

theorem immediate_eq_ok (made : immediate workspace constant encoding = .ok (operands, after)) :
    Immediate workspace operands after := by
  unfold immediate at made
  cases storage : constant.type.storage
  all_goals
    simp only [storage] at made
  case array | point | decimal => contradiction
  case char | varchar | text => exact immediateString_eq_ok made
  case float =>
    split at made
    all_goals
      obtain ⟨value, -, same⟩ := bind_eq_ok.mp made
      cases same
      exact .float _
  case double =>
    split at made
    all_goals
      obtain ⟨value, -, same⟩ := bind_eq_ok.mp made
      cases same
      exact .double _
  case boolean =>
    obtain ⟨operand, truth, same⟩ := bind_eq_ok.mp made
    obtain ⟨bits, value, rfl⟩ := immediateBoolean_eq_ok truth
    cases same
    exact .word bits value
  all_goals
    obtain ⟨operand, integer, same⟩ := bind_eq_ok.mp made
    obtain ⟨bits, value, rfl⟩ := immediateInteger_eq_ok integer
    cases same
    exact .word bits value

end QueryKernel.Session
