import QueryKernel.Proofs.Kernel.Origin
import QueryKernel.Proofs.Kernel.Retention

/-!
Contract: a kernel is packaged for the step that it is handed out for.

The kernel of a hit was built for another step object. What is recorded beside its code is compared
with what that step, this step and the settings ask for.

Owns:
- the end of a cache description, which tells the allocator flag whatever the strings of the step
  are;
- the literal images and the device numbers of a kernel that was built;
- the main statement, for hits and misses alike.

Does not own: what the code of the kernel computes.
-/

namespace QueryKernel

open QueryKernel.Ir (Operand)
open QueryKernel.Plan (QueryStep UnionKind unionText)
open QueryKernel.Sql (Constant)
open QueryKernel.Dictionary (Registry)

namespace Executor

/-! ### The end of a description -/

def lastCharacter : Option UnionKind → Char
  | none => 'e'
  | some .all => 'L'
  | some .distinct => 'N'

theorem exists_front_of_closing (flag : Bool) (union : Option UnionKind) :
    ∃ front, (Text.truth flag).toList ++ (unionText union).toList =
      front ++ [lastCharacter union] := by
  refine ⟨((Text.truth flag).toList ++ (unionText union).toList).dropLast, ?_⟩
  rcases union with _ | _ | _ <;> cases flag <;> decide

theorem lastCharacter_injective {left right : Option UnionKind}
    (same : lastCharacter left = lastCharacter right) : left = right := by
  revert same
  rcases left with _ | _ | _ <;> rcases right with _ | _ | _ <;> decide

/-- The flag in front of the union marker is read off the end of a text. -/
theorem flag_unique {left right : List Char} {leftFlag rightFlag : Bool}
    {leftUnion rightUnion : Option UnionKind}
    (same : left ++ (Text.truth leftFlag).toList ++ (unionText leftUnion).toList =
      right ++ (Text.truth rightFlag).toList ++ (unionText rightUnion).toList) :
    leftFlag = rightFlag := by
  have unions : leftUnion = rightUnion := by
    rcases exists_front_of_closing leftFlag leftUnion with ⟨leftFront, leftClosing⟩
    rcases exists_front_of_closing rightFlag rightUnion with ⟨rightFront, rightClosing⟩
    rw [List.append_assoc, List.append_assoc, leftClosing, rightClosing, ← List.append_assoc,
      ← List.append_assoc] at same
    exact lastCharacter_injective (List.head_eq_of_cons_eq (List.append_inj' same rfl).2)
  rw [unions] at same
  exact (truth_unique (List.append_cancel_right same)).2

/-- Steps of one description agree on the allocator, also where a string looks like the rest of a
description. -/
theorem bumpAllocator_of_cacheDescription {step other : QueryStep}
    (same : step.cacheDescription = other.cacheDescription) :
    step.bumpAllocator = other.bumpAllocator := by
  have texts := congrArg String.toList same
  simp only [Plan.cacheDescription_eq, String.toList_append] at texts
  exact flag_unique texts

/-! ### Literal images and device numbers -/

/-- Sessions stay in lockstep while the constants of a step are generated. -/
theorem generateAll_lockstep {session : Session} {count : Nat} {buffer : Literal.Buffer}
    (lockstep : session.Lockstep (count + 1) buffer) (wellFormed : buffer.WellFormed)
    {hoisting : Bool} {registry : Registry} {constants : List Constant}
    {outputs : List (List Operand)} {after : Workspace}
    (generated : generateAll hoisting ⟨session, registry⟩ constants = (.ok outputs, after)) :
    ∃ grown, after.session.Lockstep (count + 1) grown := by
  induction constants generalizing session buffer registry outputs with
  | nil =>
      cases generated
      exact ⟨buffer, lockstep⟩
  | cons constant rest inductionHypothesis =>
      simp only [generateAll] at generated
      split at generated
      · cases generated
      · rename_i operands middle made
        rcases (lockstep.call wellFormed ⟨constant,
          ⟨constant.type.encoding, constant.type.parameter⟩, hoisting, registry⟩).1 with
          ⟨grown, grownWellFormed, next⟩
        rw [Session.call, made] at next
        split at generated
        · cases generated
        · rename_i others last remaining
          cases generated
          exact inductionHypothesis next grownWellFormed remaining

/-- All images of a kernel are the same, and there is one for each device. -/
theorem build_images [Hash.Digest] {settings : Settings} {registry after : Registry}
    {step : QueryStep} {options : CompileOptions} {kernel : Kernel}
    (built : build settings registry step options = (.ok kernel, after)) :
    ∃ image, kernel.images =
      List.replicate (settings.deviceCount (options.device == .gpu)) image := by
  obtain ⟨session, outputs, workspace, images, ids, started, generated, serialized, -, rfl, rfl⟩ :=
    build_eq_ok built
  obtain ⟨inhabited, rfl⟩ := Session.start_eq_ok started
  generalize settings.deviceCount (options.device == .gpu) = devices at inhabited generated
  obtain ⟨count, rfl⟩ : ∃ count, devices = count + 1 := ⟨devices - 1, by omega⟩
  rcases generateAll_lockstep (.empty _ (count + 1)) .empty generated with ⟨buffer, lockstep⟩
  rw [lockstep.serialize] at serialized
  rcases map_eq_ok.mp serialized with ⟨image, -, same⟩
  exact ⟨image, same.symm⟩

theorem deviceRange_eq_ok {first devices : Nat} {ids : List Nat}
    (range : deviceRange first devices = .ok ids) : ids = List.range' first devices := by
  unfold deviceRange at range
  split at range
  · rw [List.range'_eq_map_range]
    exact (Except.ok.inj range).symm
  · contradiction

theorem build_deviceIds [Hash.Digest] {settings : Settings} {registry after : Registry}
    {step : QueryStep} {options : CompileOptions} {kernel : Kernel}
    (built : build settings registry step options = (.ok kernel, after)) :
    kernel.deviceIds = List.range' (if options.device = .gpu then settings.firstGpu else 0)
      (settings.deviceCount (options.device == .gpu)) := by
  obtain ⟨session, outputs, workspace, images, ids, -, -, -, range, rfl, rfl⟩ := build_eq_ok built
  exact deviceRange_eq_ok range

/-- A kernel keeps the options that it was built with, and has a bump allocator if it runs on GPUs
and the step or the settings ask for one. -/
theorem build_options [Hash.Digest] {settings : Settings} {registry after : Registry}
    {step : QueryStep} {options : CompileOptions} {kernel : Kernel}
    (built : build settings registry step options = (.ok kernel, after)) :
    kernel.options = options ∧ kernel.bumpAllocator =
      (options.device == .gpu && (step.bumpAllocator || settings.bumpAllocator)) := by
  obtain ⟨session, outputs, workspace, images, ids, -, -, -, -, rfl, rfl⟩ := build_eq_ok built
  exact ⟨rfl, rfl⟩

end Executor

/-! ### The main statement -/

/-- What is recorded in a kernel is what the settings, the step and the request ask for. -/
structure Kernel.Packages (kernel : Kernel) (settings : Settings) (step : QueryStep)
    (requested : CompileOptions) : Prop where
  cpu : kernel.options.device = .cpu ↔
    settings.cpuOnly = true ∨ step.hints.cpuMode = true ∨ requested.device = .cpu
  hoisting : kernel.options.hoisting = requested.hoisting
  allocator : kernel.bumpAllocator = true ↔ kernel.options.device = .gpu ∧
    (step.bumpAllocator = true ∨ settings.bumpAllocator = true)
  images : ∃ image, kernel.images = List.replicate
    (match kernel.options.device with | .cpu => 1 | .gpu => settings.gpus) image
  deviceIds : kernel.deviceIds =
    match kernel.options.device with
    | .cpu => [0]
    | .gpu => List.range' settings.firstGpu settings.gpus
  lengths : kernel.deviceIds.length = kernel.images.length

namespace Executor

theorem effectiveDevice_eq_cpu_iff {settings : Settings} {step : QueryStep} {wanted : Device} :
    effectiveDevice settings step wanted = .cpu ↔
      settings.cpuOnly = true ∨ step.hints.cpuMode = true ∨ wanted = .cpu := by
  unfold effectiveDevice
  cases settings.cpuOnly <;> cases step.hints.cpuMode <;> simp

/-- Settings that an executor accepts have a GPU, unless they are for the CPU only. -/
theorem gpus_pos_of_validate {settings : Settings} (validated : settings.validate = .ok ())
    (allowed : settings.cpuOnly = false) : 0 < settings.gpus := by
  unfold Settings.validate at validated
  split at validated
  · contradiction
  · split at validated
    · contradiction
    · rename_i gpus
      rw [allowed] at gpus
      simp at gpus
      omega

theorem deviceCount_of_gpu {settings : Settings} (validated : settings.validate = .ok ())
    (allowed : settings.cpuOnly = false) : settings.deviceCount true = settings.gpus := by
  have gpus := gpus_pos_of_validate validated allowed
  unfold Settings.deviceCount
  rw [allowed]
  exact (if_pos rfl).trans (Nat.max_eq_left gpus)

/-- A kernel fits any step that asks for its options and has the allocator flag of the step that
it was built for. -/
theorem packages_of_build [Hash.Digest] {settings : Settings}
    (validated : settings.validate = .ok ()) {registry after : Registry} {step other : QueryStep}
    {requested : CompileOptions} {kernel : Kernel}
    (allocator : other.bumpAllocator = step.bumpAllocator)
    (built : build settings registry other
      { requested with device := effectiveDevice settings step requested.device } =
        (.ok kernel, after)) :
    kernel.Packages settings step requested := by
  rcases build_options built with ⟨options, flag⟩
  rcases build_images built with ⟨image, images⟩
  have ids := build_deviceIds built
  rw [allocator] at flag
  have device : effectiveDevice settings step requested.device = kernel.options.device := by
    rw [options]
  have wanted := @effectiveDevice_eq_cpu_iff settings step requested.device
  dsimp only at flag images ids
  rw [device] at flag images ids wanted
  have lengths : kernel.deviceIds.length = kernel.images.length := by
    rw [ids, images, List.length_range', List.length_replicate]
  have hoisting : kernel.options.hoisting = requested.hoisting := by rw [options]
  have counted : settings.deviceCount (kernel.options.device == .gpu) =
      match kernel.options.device with | .cpu => 1 | .gpu => settings.gpus := by
    cases placed : kernel.options.device with
    | cpu => rfl
    | gpu =>
        rw [placed] at wanted
        exact deviceCount_of_gpu validated
          (Bool.eq_false_iff.mpr fun only => Device.noConfusion (wanted.mpr (.inl only)))
  rw [counted] at images ids
  refine ⟨wanted, hoisting, ?_, ⟨image, images⟩, ?_, lengths⟩
  · simp [flag]
  · rw [ids]
    cases kernel.options.device <;> rfl

/-- After any events, a step that compiles gets a kernel that is packaged for it, be it new or the
kernel of another step. -/
theorem kernels_are_packaged_as_requested [Hash.Digest] {settings : Settings} {registry : Registry}
    {executor : Executor} (started : start settings registry = .ok executor) (events : List Event)
    {step : QueryStep} {requested : CompileOptions}
    (distinct : executor.Uncollided events step requested) {issued : Issued}
    (success : ((executor.after events).compile step requested).1 = .ok issued) :
    issued.kernel.Packages settings step requested := by
  rcases bind_eq_ok.mp started with ⟨⟨⟩, validated, rest⟩
  rcases start_eq_ok started with ⟨-, rfl⟩
  rcases exists_origin_of_success rfl distinct success with ⟨origin, stems, description, options⟩
  have built := stems.built
  rw [options] at built
  exact packages_of_build validated (bumpAllocator_of_cacheDescription description) built

/-- A hit on the kernel of another step, where the string of one looks like the end of a
description. -/
theorem kernels_are_packaged_as_requested_hit :
    let settings : Settings := { gpus := 2, firstGpu := 3 }
    let first : QueryStep :=
      { targets := [.constant (.ofString "\n\tBump Allocator: false")], bumpAllocator := true }
    let step : QueryStep := { first with estimator := some ⟨"rows", 8⟩ }
    ∃ executor issued, start settings {} = .ok executor ∧
      ((executor.after [.compile first ⟨.gpu, true⟩]).compile step ⟨.gpu, true⟩).1 = .ok issued ∧
      issued.kernel.Packages settings step ⟨.gpu, true⟩ ∧ issued.kernel.bumpAllocator = true ∧
      issued.kernel.deviceIds = [3, 4] := by
  intro settings first step
  let executor : Executor := { settings, registry := {}, cache := { capacity := 128 } }
  have started : start settings {} = .ok executor := rfl
  have description : first.cacheDescription = step.cacheDescription := rfl
  obtain ⟨kernel, built⟩ : ∃ kernel, (build settings {} first ⟨.gpu, true⟩).1 = .ok kernel :=
    exists_of_toBool (by decide +kernel)
  have success := (@compile_of_built _ executor rfl first step ⟨.gpu, true⟩ description rfl kernel _
    (Prod.ext built rfl)).1
  have distinct : executor.Uncollided [.compile first ⟨.gpu, true⟩] step ⟨.gpu, true⟩ := by
    intro other wanted asked _
    exact keyDescription_of_mem_singleton description rfl other wanted asked
  have packages := kernels_are_packaged_as_requested started _ distinct success
  have gpu : kernel.options.device = .gpu :=
    congrArg CompileOptions.device (build_options (Prod.ext built rfl)).1
  have ids := packages.deviceIds
  rw [gpu] at ids
  exact ⟨executor, _, started, success, packages, packages.allocator.mpr ⟨gpu, .inl rfl⟩, ids⟩

end Executor

end QueryKernel
