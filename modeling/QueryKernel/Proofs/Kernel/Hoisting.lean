import QueryKernel.Proofs.Kernel.Compilation
import QueryKernel.Proofs.Session.Embedding
import QueryKernel.Proofs.Task.Joining

/-!
Contract: whether literals are hoisted does not reach the results of a kernel.

Owns:
- the code of all constants of a step, generated in both ways;
- the runs of a kernel whose operands have meanings, and their dispatch;
- entries that a query cannot tell apart, and the main statement.
-/

namespace QueryKernel

open QueryKernel.Ir (Module Operand Frame RuntimeValue)
open QueryKernel.Plan (QueryStep)
open QueryKernel.Sql (Constant)
open QueryKernel.Dictionary (Registry)

/-- The meaning of a constant that is encoded as its own type asks. -/
def Sql.Constant.ownMeaning? (constant : Constant) (registry : Registry) : Option Meaning :=
  constant.meaning? ⟨constant.type.encoding, constant.type.parameter⟩ registry

/-- The entry reads on a device as the constant means. -/
def Kernel.Yields (kernel : Kernel) (registry : Registry) (device : Nat) (constant : Constant)
    (entry : List RuntimeValue) : Prop :=
  ∃ image meaning, kernel.images[device]? = some image ∧
    constant.ownMeaning? registry = some meaning ∧ meaning.ReadBy kernel.code image entry

/-- Entries of two kernels that a query cannot tell apart on a device: equal scalars, or
strings of the same start and length with equal bytes behind their addresses. -/
inductive Kernel.SameEntry (left right : Kernel) (device : Nat) :
    List RuntimeValue → List RuntimeValue → Prop
  | scalar (value : RuntimeValue) : SameEntry left right device [value] [value]
  | text (start : Int64) (length : Nat) {leftAddress rightAddress : Ir.Address}
      {leftImage rightImage : Array UInt8} {bytes : List UInt8}
      (leftLoaded : left.images[device]? = some leftImage)
      (rightLoaded : right.images[device]? = some rightImage)
      (leftRead : left.code.readBytes leftImage leftAddress length = .ok bytes)
      (rightRead : right.code.readBytes rightImage rightAddress length = .ok bytes) :
      SameEntry left right device
        [.int 64 start, .pointer leftAddress, .int 32 (Int64.ofNat length)]
        [.int 64 start, .pointer rightAddress, .int 32 (Int64.ofNat length)]

/-- Entries that read as the same constant cannot be told apart. -/
theorem Kernel.Yields.same {left right : Kernel} {registry : Registry} {device : Nat}
    {constant : Constant} {entry other : List RuntimeValue}
    (yields : left.Yields registry device constant entry)
    (otherYields : right.Yields registry device constant other) :
    left.SameEntry right device entry other := by
  obtain ⟨leftImage, meaning, leftLoaded, means, leftReads⟩ := yields
  obtain ⟨rightImage, otherMeaning, rightLoaded, otherMeans, rightReads⟩ := otherYields
  rw [means] at otherMeans
  cases otherMeans
  cases meaning with
  | scalar value =>
      cases leftReads
      cases rightReads
      exact .scalar value
  | text value =>
      obtain ⟨leftAddress, rfl, leftRead⟩ := leftReads
      obtain ⟨rightAddress, rfl, rightRead⟩ := rightReads
      exact .text 0 value.utf8ByteSize leftLoaded rightLoaded leftRead rightRead

/-- Relations between lists compose element by element. -/
theorem forall₂_compose {α β γ : Type} {first : α → β → Prop} {second : β → γ → Prop}
    {both : α → γ → Prop} (compose : ∀ left middle right, first left middle →
      second middle right → both left right) {lefts : List α} {middles : List β}
    {rights : List γ} (front : List.Forall₂ first lefts middles)
    (back : List.Forall₂ second middles rights) : List.Forall₂ both lefts rights := by
  induction front generalizing rights with
  | nil =>
      cases back
      exact .nil
  | cons related _ inductionHypothesis =>
      cases back with
      | cons other others =>
          exact .cons (compose _ _ _ related other) (inductionHypothesis others)

namespace Executor

open Session

/-! ### All constants of a step -/

theorem generateAll_both {hoisted plain : Session} {count : Nat}
    (beside : Beside hoisted plain (count + 1)) {constants : List Constant} {registry : Registry}
    {outputs : List (List Operand)} {after : Workspace}
    (regular : ∀ constant ∈ constants, constant.isNullTruth = false)
    (succeeded : generateAll true ⟨hoisted, registry⟩ constants = (.ok outputs, after)) :
    ∃ meanings others next,
      generateAll false ⟨plain, registry⟩ constants = (.ok others, ⟨next, after.registry⟩) ∧
      registry.Grows after.registry ∧
      List.Forall₂ (fun constant meaning => constant.ownMeaning? after.registry = some meaning)
        constants meanings ∧
      hoisted.Leads after.session ∧ plain.Leads next ∧ Beside after.session next (count + 1) ∧
      List.Forall₂ after.session.Expresses outputs meanings ∧
      List.Forall₂ next.Expresses others meanings := by
  induction constants generalizing hoisted plain registry outputs with
  | nil =>
      cases succeeded
      exact ⟨[], [], plain, rfl, .refl registry, .nil, .refl hoisted, .refl plain, beside, .nil,
        .nil⟩
  | cons constant rest inductionHypothesis =>
      simp only [generateAll] at succeeded
      split at succeeded
      · cases succeeded
      · rename_i operands middle first
        split at succeeded
        · cases succeeded
        · rename_i behind last remaining
          cases succeeded
          obtain ⟨meaning, others, next, plainFirst, grows, means, leads, plainLeads, besideNext,
            expresses, plainExpresses⟩ :=
            beside.generate (regular constant List.mem_cons_self) first
          obtain ⟨meanings, othersBehind, final, plainRest, restGrows, restMean, restLeads,
            plainRestLeads, besideFinal, restExpress, plainRestExpress⟩ :=
            inductionHypothesis besideNext
              (fun other member => regular other (List.mem_cons_of_mem _ member)) remaining
          refine ⟨meaning :: meanings, others :: othersBehind, final, ?_, grows.trans restGrows,
            .cons (means _ restGrows) restMean, leads.trans restLeads,
            plainLeads.trans plainRestLeads, besideFinal,
            .cons (expresses.leads restLeads) restExpress,
            .cons (plainExpresses.leads plainRestLeads) plainRestExpress⟩
          simp only [generateAll, plainFirst, plainRest]

/-! ### Runs -/

/-- A kernel whose operands mean constants, in the session that it comes from. -/
structure Means (kernel : Kernel) (session : Session) (registry : Registry)
    (constants : List Constant) : Prop where
  readable : session.Readable
  code : kernel.code = session.code
  serialized : session.serialize = .ok kernel.images
  expresses : ∃ meanings,
    List.Forall₂ (fun constant meaning => constant.ownMeaning? registry = some meaning)
      constants meanings ∧
    List.Forall₂ session.Expresses kernel.outputs meanings

section Means

variable {kernel : Kernel} {session : Session} {registry : Registry} {constants : List Constant}

theorem Means.devices (means : Means kernel session registry constants) :
    kernel.devices = session.devices :=
  (mapM_eq_ok.mp means.serialized).length_eq.symm

/-- On every device the kernel runs, and its entries read as the constants. -/
theorem Means.run (means : Means kernel session registry constants) {device : Nat}
    (inside : device < kernel.devices) :
    ∃ output, kernel.run device = .ok output ∧
      List.Forall₂ (kernel.Yields registry device) constants output := by
  have insideSession : device < session.devices := means.devices ▸ inside
  obtain ⟨image, frame, imageAt, sound⟩ := frame_of_serialize means.readable.coherent
    means.readable.sound means.serialized insideSession
  obtain ⟨meanings, mean, express⟩ := means.expresses
  obtain ⟨output, resolved, readBy⟩ := means.readable.resolveAll insideSession sound express
  have ran := Module.evaluateAll_eq_ok sound.solves means.readable.coherent.ordered resolved
  refine ⟨output, bind_eq_ok.mpr ⟨image, ?_, means.code ▸ ran⟩, ?_⟩
  · rw [Kernel.image, imageAt]
  · refine forall₂_compose (fun constant meaning values mean read => ?_) mean readBy
    exact ⟨_, meaning, imageAt, mean, means.code ▸ read⟩

end Means

theorem runs_tasks (dispatcher : Dispatcher) (kernel : Kernel) :
    (runs dispatcher kernel).tasks =
      ((List.range kernel.devices).map kernel.run).map Task.Outcome.value := by
  have spawned : ∀ (devices : List Nat) (group : Task.Group (Except Error KernelOutput)),
      (devices.foldl (fun group device => group.spawn (.value (kernel.run device))) group).tasks =
        group.tasks ++ (devices.map kernel.run).map Task.Outcome.value := by
    intro devices
    induction devices with
    | nil => simp
    | cons device rest inductionHypothesis =>
        intro group
        rw [List.foldl_cons, inductionHypothesis]
        simp [Task.Group.spawn]
  exact spawned (List.range kernel.devices) dispatcher.group

/-- Dispatch runs the kernel on all devices, in device order. -/
theorem dispatch_eq (executor : Executor) (kernel : Kernel) :
    executor.dispatch kernel = (List.range kernel.devices).mapM kernel.run := by
  have joined := Task.Group.join_values (runs_tasks executor.dispatcher kernel)
    (List.Perm.refl (List.range (runs executor.dispatcher kernel).size))
  unfold dispatch Task.Group.spawnOrder
  simp only [joined]
  rw [List.mapM_map]
  rfl

/-- Dispatch of a kernel whose operands mean constants. -/
theorem Means.dispatch {kernel : Kernel} {session : Session} {registry : Registry}
    {constants : List Constant} (means : Means kernel session registry constants)
    (executor : Executor) :
    ∃ results, executor.dispatch kernel = .ok results ∧ results.length = kernel.devices ∧
      ∀ device < kernel.devices, ∃ output, results[device]? = some output ∧
        List.Forall₂ (kernel.Yields registry device) constants output := by
  obtain ⟨results, ran⟩ : ∃ results, (List.range kernel.devices).mapM kernel.run = .ok results := by
    have each : ∀ devices : List Nat, (∀ device ∈ devices, device < kernel.devices) →
        ∃ results, devices.mapM kernel.run = .ok results := by
      intro devices inside
      induction devices with
      | nil => exact ⟨[], rfl⟩
      | cons device rest inductionHypothesis =>
          obtain ⟨output, first, -⟩ := means.run (inside device List.mem_cons_self)
          obtain ⟨others, behind⟩ := inductionHypothesis fun other member =>
            inside other (List.mem_cons_of_mem _ member)
          exact ⟨output :: others, mapM_eq_ok.mpr (.cons first (mapM_eq_ok.mp behind))⟩
    exact each _ fun device member => List.mem_range.mp member
  have all := mapM_eq_ok.mp ran
  have length : results.length = kernel.devices := by
    rw [← all.length_eq, List.length_range]
  refine ⟨results, (dispatch_eq executor kernel).trans ran, length, fun device inside => ?_⟩
  obtain ⟨output, success, yields⟩ := means.run inside
  have collected := (List.forall₂_iff_get.mp all).2 device (by simpa using inside)
    (length.symm ▸ inside)
  simp only [List.get_eq_getElem, List.getElem_range, success] at collected
  refine ⟨output, ?_, yields⟩
  rw [List.getElem?_eq_getElem (length.symm ▸ inside), ← Except.ok.inj collected]

/-! ### Compilation -/

/-- Where a kernel with hoisted literals is built, one without is built for the same devices,
and both mean the constants of the step. -/
theorem build_both [Hash.Digest] {settings : Settings} {registry after : Registry}
    {step : QueryStep} {device : Device} {kernel : Kernel}
    (regular : ∀ constant ∈ step.constants, constant.isNullTruth = false)
    (built : build settings registry step ⟨device, true⟩ = (.ok kernel, after)) :
    ∃ other session next, build settings registry step ⟨device, false⟩ = (.ok other, after) ∧
      Means kernel session after step.constants ∧ Means other next after step.constants ∧
      other.devices = kernel.devices := by
  obtain ⟨session, outputs, workspace, images, ids, started, generated, serialized, range, rfl,
    rfl⟩ := build_eq_ok built
  obtain ⟨inhabited, same⟩ := start_eq_ok started
  let name := "kernel_" ++ Text.hexPadded 16 (cacheKey step ⟨device, false⟩).toNat
  have otherStarted := start_other started name
  generalize counted : settings.deviceCount (device == .gpu) = devices at *
  obtain ⟨count, rfl⟩ : ∃ count, devices = count + 1 := ⟨devices - 1, by omega⟩
  subst same
  obtain ⟨meanings, others, next, plain, -, mean, leads, -, beside, express, plainExpress⟩ :=
    generateAll_both (Beside.start _ name (count + 1)) regular generated
  have otherSerialized : next.serialize = .ok (List.replicate (count + 1) #[]) := by
    rw [Session.serialize, beside.plainBuffers]
    exact (mapM_replicate Literal.Buffer.serialize {} count).trans rfl
  have otherBuilt := @build_of_parts _ settings registry step ⟨device, false⟩ _ _ _ _ _
    (counted ▸ otherStarted) plain otherSerialized (counted ▸ range)
  refine ⟨_, workspace.session, next, otherBuilt,
    ⟨beside.hoistedReadable, rfl, serialized, meanings, mean, express⟩,
    ⟨beside.plainReadable, rfl, otherSerialized, meanings, mean, plainExpress⟩, ?_⟩
  have imageCount : images.length = count + 1 := by
    rw [← (mapM_eq_ok.mp serialized).length_eq, ← Session.devices, leads.devices]
    simp [Session.devices]
  change (List.replicate (count + 1) #[]).length = images.length
  rw [imageCount, List.length_replicate]

/-- Where a step compiles with hoisted literals, it compiles without them, to a kernel that
gives every device the same entries, one for each constant of the step. -/
theorem hoisting_is_invisible [Hash.Digest] {executor : Executor}
    (empty : executor.cache.entries = []) {step : QueryStep}
    (regular : ∀ constant ∈ step.constants, constant.isNullTruth = false)
    {wanted : Device} {hoisted : Issued} {after : Executor}
    (compiled : executor.compile step ⟨wanted, true⟩ = (.ok hoisted, after)) :
    ∃ plain next results others,
      executor.compile step ⟨wanted, false⟩ = (.ok plain, next) ∧
      next.registry = after.registry ∧
      after.dispatch hoisted.kernel = .ok results ∧ next.dispatch plain.kernel = .ok others ∧
      results.length = hoisted.kernel.devices ∧ others.length = results.length ∧
      ∀ device < results.length, ∃ entries otherEntries,
        results[device]? = some entries ∧ others[device]? = some otherEntries ∧
        List.Forall₂ (hoisted.kernel.Yields after.registry device) step.constants entries ∧
        List.Forall₂ (plain.kernel.Yields after.registry device) step.constants otherEntries ∧
        List.Forall₂ (hoisted.kernel.SameEntry plain.kernel device) entries otherEntries := by
  rw [compile_of_miss (get_of_empty empty _)] at compiled
  rw [compile_of_miss (get_of_empty empty _)]
  unfold effectiveOptions at compiled ⊢
  split at compiled
  · cases compiled
  · rename_i kernel registry built
    obtain ⟨same, rest⟩ := Prod.mk.inj compiled
    obtain rfl := Except.ok.inj same
    subst rest
    obtain ⟨other, session, next, otherBuilt, means, otherMeans, devices⟩ :=
      build_both regular built
    simp only [otherBuilt]
    obtain ⟨results, ran, length, each⟩ := means.dispatch executor
    obtain ⟨others, otherRan, otherLength, eachOther⟩ := otherMeans.dispatch executor
    refine ⟨_, _, results, others, rfl, rfl, ran, otherRan, length,
      otherLength.trans (devices.trans length.symm), fun device inside => ?_⟩
    rw [length] at inside
    obtain ⟨entries, found, yields⟩ := each device inside
    obtain ⟨otherEntries, otherFound, otherYields⟩ := eachOther device (devices ▸ inside)
    refine ⟨entries, otherEntries, found, otherFound, yields, otherYields, ?_⟩
    refine forall₂_compose ?_ yields.flip otherYields
    intro entry constant other leftYields rightYields
    exact Kernel.Yields.same leftYields rightYields

theorem hoisting_is_invisible_two_gpus :
    let executor : Executor :=
      { settings := { gpus := 2 }, registry := {}, cache := { capacity := 1 } }
    let step : QueryStep := { targets := [.constant (.smallInt 7), .constant (.ofString "seven")] }
    ∃ hoisted after plain next results others,
      executor.compile step ⟨.gpu, true⟩ = (.ok hoisted, after) ∧
      executor.compile step ⟨.gpu, false⟩ = (.ok plain, next) ∧
      next.registry = after.registry ∧
      after.dispatch hoisted.kernel = .ok results ∧ next.dispatch plain.kernel = .ok others ∧
      results.length = hoisted.kernel.devices ∧ others.length = results.length ∧
      ∀ device < results.length, ∃ entries otherEntries,
        results[device]? = some entries ∧ others[device]? = some otherEntries ∧
        List.Forall₂ (hoisted.kernel.Yields after.registry device) step.constants entries ∧
        List.Forall₂ (plain.kernel.Yields after.registry device) step.constants otherEntries ∧
        List.Forall₂ (hoisted.kernel.SameEntry plain.kernel device) entries otherEntries := by
  intro executor step
  have regular : ∀ constant ∈ step.constants, constant.isNullTruth = false := by decide
  obtain ⟨hoisted, outcome⟩ : ∃ hoisted, (executor.compile step ⟨.gpu, true⟩).1 = .ok hoisted :=
    exists_of_toBool (by decide +kernel)
  have compiled : executor.compile step ⟨.gpu, true⟩ =
      (.ok hoisted, (executor.compile step ⟨.gpu, true⟩).2) := Prod.ext outcome rfl
  obtain ⟨plain, next, results, others, rest⟩ := hoisting_is_invisible rfl regular compiled
  exact ⟨hoisted, _, plain, next, results, others, compiled, rest⟩

end Executor

end QueryKernel
