import QueryKernel.Proofs.Session.Lockstep

/-!
Contract: a call of the code generator that fails leaves nothing behind.

A hoisting call registers its literal on one device after the other, and then decodes it. In
lockstep only the literal itself can be refused, and that happens on the first device, before
anything is registered.

Owns:
- a failing call on a session in lockstep;
- the main statement: after any history of calls, a failing call changes neither the session nor
  the dictionaries, and what follows goes on as if it had not been made.

Does not own: hoisting calls with different constants for the devices.
-/

namespace QueryKernel

open QueryKernel.Ir (Operand)
open QueryKernel.Sql (Constant)

namespace Session

/-- In lockstep a failing call changes nothing. -/
theorem Lockstep.call_error {session : Session} {count : Nat} {buffer : Literal.Buffer}
    (lockstep : session.Lockstep (count + 1) buffer) (wellFormed : buffer.WellFormed)
    {call : Call} {failure : Error} {after : Workspace}
    (failed : session.call call = (.error failure, after)) : after = ⟨session, call.registry⟩ := by
  unfold Session.call at failed
  by_cases hoisting : call.hoisting = true
  · rw [hoisting] at failed
    cases made : literalOf call.constant call.encoding call.registry with
    | error cause =>
        rw [lockstep.generate_error made] at failed
        exact (Prod.mk.inj failed).2.symm
    | ok result =>
        -- Once the first device has its literal, the call succeeds.
        rcases result with ⟨literal, known⟩
        rcases lockstep.hoist_ok wellFormed made with ⟨operands, next, success, -⟩
        rw [Workspace.generate, if_pos rfl, lockstep.devices_eq, success] at failed
        cases failed
  · rw [Workspace.generate, if_neg hoisting] at failed
    split at failed
    · exact (Prod.mk.inj failed).2.symm
    · cases failed

theorem afterCalls_append (session : Session) (front back : List Call) :
    session.afterCalls (front ++ back) = (session.afterCalls front).afterCalls back :=
  List.foldl_append

/-- After any history of calls, a call that fails leaves all buffers, the table of decoded
literals, the code and every dictionary exactly as they were, so later calls find the session that
they would find without it. -/
theorem failing_calls_change_nothing {name : String} {devices : Nat} {session : Session}
    (started : Session.start name devices = .ok session) (calls : List Call) {call : Call}
    {failure : Error} {after : Workspace}
    (failed : (session.afterCalls calls).call call = (.error failure, after)) :
    after = ⟨session.afterCalls calls, call.registry⟩ ∧
      ∀ later,
        session.afterCalls (calls ++ call :: later) = session.afterCalls (calls ++ later) := by
  obtain ⟨inhabited, rfl⟩ := start_eq_ok started
  obtain ⟨count, rfl⟩ : ∃ count, devices = count + 1 := ⟨devices - 1, by omega⟩
  obtain ⟨buffer, wellFormed, lockstep⟩ :=
    (Lockstep.empty name (count + 1)).afterCalls Literal.Buffer.WellFormed.empty calls
  have unchanged := lockstep.call_error wellFormed failed
  refine ⟨unchanged, fun later => ?_⟩
  rw [afterCalls_append, afterCalls_append]
  show Session.afterCalls (Session.call _ call).2.session later = _
  rw [failed, unchanged]

theorem failing_calls_change_nothing_no_dictionary :
    let started : Session := { code := { name := "kernel" }, buffers := [{}, {}] }
    let dictionaries : Dictionary.Registry := Dictionary.Registry.register {} 1 (.ofList ["one"])
    let calls : List Call :=
      [⟨.ofString "two", ⟨.dictionary, 1⟩, true, dictionaries⟩, ⟨.ofString "one", {}, true, {}⟩]
    let call : Call := ⟨.ofString "five", ⟨.dictionary, 3⟩, true, dictionaries⟩
    (started.afterCalls calls).call call =
        (.error (.noDictionary 3), ⟨started.afterCalls calls, dictionaries⟩) ∧
      started.afterCalls (calls ++ [call]) = started.afterCalls calls := by
  intro started dictionaries calls call
  have start : Session.start "kernel" 2 = .ok started := rfl
  have refused : ((started.afterCalls calls).call call).1 = .error (.noDictionary 3) := by
    decide +kernel
  have failed : (started.afterCalls calls).call call =
      (.error (.noDictionary 3), ((started.afterCalls calls).call call).2) :=
    Prod.ext refused rfl
  have unchanged := failing_calls_change_nothing start calls failed
  have same := unchanged.2 []
  rw [List.append_nil] at same
  exact ⟨failed.trans (congrArg (Prod.mk _) unchanged.1), same⟩

end Session

end QueryKernel
