import QueryKernel.Proofs.Session.Acceptance
import QueryKernel.Proofs.Session.Atomicity

/-!
Contract: operands carry the literal of their constant to every device.

This holds for every constant, hoisted or embedded. Only what a null boolean reads as depends on
the constants before it, so that nothing is said about its values here.

Owns:
- operands that carry a literal, and values that read as one;
- the values of such operands in a frame;
- the main statement: the operands of every call that succeeds carry the literal of its constant;
- calls lead on, so that what was carried once is carried after any further calls.

Does not own: the code of a whole step.
-/

namespace QueryKernel

open QueryKernel.Ir (Module Operand Frame RuntimeValue)
open QueryKernel.Sql (Constant)
open QueryKernel.Dictionary (Registry)

/-- Values that read as a literal, unless it is that of the null booleans. -/
def Literal.ReadBy (code : Module) (image : Array UInt8) (literal : Literal)
    (values : List RuntimeValue) : Prop :=
  literal ≠ .nullByte → literal.meaning.ReadBy code image values

namespace Session

/-- Operands that bring a literal to every device: they load it, or they state what it means. -/
inductive Carries (session : Session) (operands : List Operand) (literal : Literal) : Prop where
  | loads {offset : Nat} (available : session.Available offset operands)
      (held : ∀ device < session.devices, session.Holds device offset literal)
  | immediates (states : session.code.States operands literal.meaning)

theorem Carries.leads {before after : Session} (leads : before.Leads after)
    {operands : List Operand} {literal : Literal} (carries : before.Carries operands literal) :
    after.Carries operands literal := by
  cases carries with
  | loads available held =>
      refine .loads (available.leads leads) fun device inside => ?_
      exact leads.holds device _ literal (held device (leads.devices ▸ inside))
  | immediates states =>
      rcases states with ⟨values, resolved, reads⟩
      exact .immediates ⟨values, resolved, fun image => (reads image).mono leads.grows⟩

/-! ### Values -/

section Values

variable {session : Session} {count : Nat} {first? : Option Bool}
  (shared : session.Shared (count + 1) first?) {device : Nat} {image : Array UInt8} {frame : Frame}
  (inside : device < session.devices) (sound : session.Sound device image frame)

include shared inside sound

/-- In a frame of a session, operands resolve to values that read as their literal. -/
theorem Shared.resolve {operands : List Operand} {literal : Literal}
    (carries : session.Carries operands literal) :
    ∃ values, operands.mapM frame.resolve = .ok values ∧
      literal.ReadBy session.code image values := by
  cases carries with
  | loads available held =>
      rcases available with ⟨globals, known, loads⟩
      have holds := held device inside
      rcases sound.decodes _ globals known literal holds with ⟨contents, decodes, filled⟩
      rw [shared.typed _ globals known device literal holds] at decodes
      refine ⟨contents, sound.solves.resolve_loads loads filled, fun other => ?_⟩
      have reads := decodes.readBy_under session.code
      rw [Literal.meaningUnder_of_ne other] at reads
      exact reads
  | immediates states =>
      rcases states with ⟨values, resolved, reads⟩
      exact ⟨values, resolved frame, fun _ => reads image⟩

theorem Shared.resolveAll {outputs : List (List Operand)} {literals : List Literal}
    (carry : List.Forall₂ session.Carries outputs literals) :
    ∃ results, outputs.mapM (fun operands => operands.mapM frame.resolve) = .ok results ∧
      List.Forall₂ (Literal.ReadBy session.code image) literals results := by
  induction carry with
  | nil => exact ⟨[], rfl, .nil⟩
  | cons first _ inductionHypothesis =>
      rcases shared.resolve inside sound first with ⟨values, resolved, reads⟩
      rcases inductionHypothesis with ⟨others, othersResolved, othersRead⟩
      exact ⟨values :: others,
        mapM_eq_ok.mpr (.cons resolved (mapM_eq_ok.mp othersResolved)), .cons reads othersRead⟩

end Values

/-! ### One call -/

section Calls

variable {session : Session} {count : Nat} {first? : Option Bool} {constant : Constant}
  {encoding : StringEncoding} {registry : Registry} {operands : List Operand} {after : Workspace}

/-- Immediates exist only where the constant has a literal, of which they state the meaning. -/
theorem literalOf_of_immediate
    (made : immediate ⟨session, registry⟩ constant encoding = .ok (operands, after)) :
    ∃ literal, literalOf constant encoding registry = .ok (literal, after.registry) ∧
      after.session.code.States operands literal.meaning := by
  have judged := verdict constant encoding registry
  generalize constant.isAdmissible encoding registry = admissible at judged
  cases judged with
  | accepted known =>
      rcases immediate_embeds known session with ⟨others, next, embedded, states⟩
      rw [made] at embedded
      cases embedded
      exact ⟨_, known, states⟩
  | refused _ embedding =>
      rw [embedding session] at made
      contradiction

/-- A call that succeeds made the literal of its constant, and its operands carry it. -/
theorem Shared.generate (shared : session.Shared (count + 1) first?) {hoisting : Bool}
    (succeeded : Workspace.generate ⟨session, registry⟩ constant encoding hoisting =
      (.ok operands, after)) :
    ∃ literal next?, literalOf constant encoding registry = .ok (literal, after.registry) ∧
      session.Leads after.session ∧ after.session.Shared (count + 1) next? ∧
      after.session.Carries operands literal := by
  have devices : session.devices = count + 1 := by
    rcases shared.lockstep with ⟨buffer, lockstep, -⟩
    exact lockstep.devices_eq
  cases hoisting with
  | true =>
      rcases shared.hoisted succeeded with
        ⟨literal, made, nextShared, -, offset, available, held⟩
      rw [Workspace.generate, if_pos rfl] at succeeded
      rcases Workspace.hoist_steps shared.coherent (by simp) succeeded with ⟨leads, -⟩
      refine ⟨literal, _, made, leads, nextShared, .loads available fun device inside => ?_⟩
      rw [leads.devices, devices] at inside
      exact held device inside
  | false =>
      rw [Workspace.generate, if_neg (by decide)] at succeeded
      cases made : Session.immediate ⟨session, registry⟩ constant encoding with
      | error failure =>
          rw [made] at succeeded
          cases succeeded
      | ok result =>
          rw [made] at succeeded
          cases succeeded
          rcases literalOf_of_immediate made with ⟨literal, known, states⟩
          exact ⟨literal, first?, known, immediate_leads made, shared.immediate made,
            .immediates states⟩

end Calls

/-! ### Further calls -/

section Histories

variable {session : Session} {count : Nat} {first? : Option Bool}
  (shared : session.Shared (count + 1) first?)

include shared

/-- Whether it succeeds or fails, a call leads on. -/
theorem Shared.call_leads (call : Call) : session.Leads (session.call call).2.session := by
  cases outcome : session.call call with
  | mk result after =>
      cases result with
      | ok operands =>
          rcases shared.generate outcome with ⟨literal, next?, -, leads, -⟩
          exact leads
      | error failure =>
          rcases shared.lockstep with ⟨buffer, lockstep, -⟩
          rw [lockstep.call_error (lockstep.wellFormed shared.coherent) outcome]
          exact .refl session

theorem Shared.afterCalls_leads (calls : List Call) : session.Leads (session.afterCalls calls) := by
  induction calls generalizing session first? with
  | nil => exact .refl session
  | cons call rest inductionHypothesis =>
      exact (shared.call_leads call).trans (inductionHypothesis (shared.call call))

end Histories

end Session

end QueryKernel
