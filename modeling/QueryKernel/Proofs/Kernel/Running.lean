import QueryKernel.Proofs.Kernel.Compilation
import QueryKernel.Proofs.Session.Carrying

/-!
Contract: a kernel that was built runs on all of its devices.

Owns:
- the code of all constants of a step, whose operands carry the literals of the constants;
- the main statement: on every device the kernel runs, and its entries read as these literals.

Does not own: kernels with and without hoisted literals side by side, or dispatch.
-/

namespace QueryKernel

open QueryKernel.Ir (Module Operand RuntimeValue)
open QueryKernel.Plan (QueryStep)
open QueryKernel.Sql (Constant)
open QueryKernel.Dictionary (Registry)

/-- The constant, encoded as its own type asks, becomes the literal, and no dictionary has to
change for it. -/
def Sql.Constant.Becomes (registry : Registry) (constant : Constant) (literal : Literal) : Prop :=
  literalOf constant ⟨constant.type.encoding, constant.type.parameter⟩ registry =
    .ok (literal, registry)

/-- The kernel runs on all of its devices, and its entries read as the literals. -/
def Kernel.RunsAs (kernel : Kernel) (literals : List Literal) : Prop :=
  ∀ device < kernel.devices, ∃ image output, kernel.images[device]? = some image ∧
    kernel.run device = .ok output ∧
    List.Forall₂ (Literal.ReadBy kernel.code image) literals output

/-- What stands at a place of one list is related to what stands there in the other. -/
theorem exists_at_place {α β : Type} {relation : α → β → Prop} {left : List α} {right : List β}
    (related : List.Forall₂ relation left right) {place : Nat} {element : α}
    (listed : left[place]? = some element) :
    ∃ other, right[place]? = some other ∧ relation element other := by
  induction related generalizing place with
  | nil => contradiction
  | cons first _ inductionHypothesis =>
      cases place with
      | zero =>
          cases listed
          exact ⟨_, rfl, first⟩
      | succ next => exact inductionHypothesis listed

namespace Executor

open Session

theorem generateAll_carries {session : Session} {count : Nat} {first? : Option Bool}
    (shared : session.Shared (count + 1) first?) {hoisting : Bool} {registry : Registry}
    {constants : List Constant} {outputs : List (List Operand)} {after : Workspace}
    (generated : generateAll hoisting ⟨session, registry⟩ constants = (.ok outputs, after)) :
    ∃ literals next?, List.Forall₂ (Constant.Becomes after.registry) constants literals ∧
      session.Leads after.session ∧ after.session.Shared (count + 1) next? ∧
      List.Forall₂ after.session.Carries outputs literals := by
  induction constants generalizing session registry first? outputs with
  | nil =>
      cases generated
      exact ⟨[], first?, .nil, .refl session, shared, .nil⟩
  | cons constant rest inductionHypothesis =>
      simp only [generateAll] at generated
      split at generated
      · cases generated
      · rename_i operands middle first
        have grows := generateAll_grows hoisting middle rest
        split at generated
        · cases generated
        · rename_i others last remaining
          cases generated
          rw [remaining] at grows
          rcases shared.generate first with ⟨literal, _, made, leads, middleShared, carries⟩
          rcases inductionHypothesis middleShared remaining with
            ⟨literals, next?, become, restLeads, nextShared, carry⟩
          exact ⟨literal :: literals, next?, .cons (literalOf_stable made grows) become,
            leads.trans restLeads, nextShared, .cons (carries.leads restLeads) carry⟩

/-- A kernel that was built runs on every device, of which there is one at least, and its entries
read as the literals that the constants of the step become. -/
theorem build_runs [Hash.Digest] {settings : Settings} {registry after : Registry}
    {step : QueryStep} {options : CompileOptions} {kernel : Kernel}
    (built : build settings registry step options = (.ok kernel, after)) :
    0 < kernel.devices ∧
      ∃ literals, List.Forall₂ (Constant.Becomes after) step.constants literals ∧
        kernel.RunsAs literals := by
  obtain ⟨session, outputs, workspace, images, ids, started, generated, serialized, -, rfl,
    rfl⟩ := build_eq_ok built
  obtain ⟨inhabited, rfl⟩ := Session.start_eq_ok started
  generalize settings.deviceCount (options.device == .gpu) = devices at inhabited generated
  obtain ⟨count, rfl⟩ : ∃ count, devices = count + 1 := ⟨devices - 1, by omega⟩
  rcases generateAll_carries (Shared.start _ (count + 1)) generated with
    ⟨literals, _, become, leads, shared, carry⟩
  have sized : images.length = workspace.session.devices :=
    (mapM_eq_ok.mp serialized).length_eq.symm
  have inside : workspace.session.devices = count + 1 := by
    rw [leads.devices]
    exact List.length_replicate
  refine ⟨?_, literals, become, fun device within => ?_⟩
  · show 0 < images.length
    omega
  · have held : device < count + 1 := by
      rw [← inside, ← sized]
      exact within
    rcases shared.frame serialized held with ⟨insideSession, image, frame, imageAt, sound⟩
    rcases shared.resolveAll insideSession sound carry with ⟨output, resolved, readBy⟩
    have ran := Module.evaluateAll_eq_ok sound.solves shared.coherent.ordered resolved
    refine ⟨_, output, imageAt, bind_eq_ok.mpr ⟨_, ?_, ran⟩, readBy⟩
    rw [Kernel.image, imageAt]

end Executor

end QueryKernel
