import QueryKernel.Kernel.Executor
import QueryKernel.Proofs.Session.Substitution

/-!
Contract: compilation, apart from what the kernels compute.

Keys are made with any digest: here and behind, no property of it is used.

Owns:
- the parts of a kernel that was built, and building from them;
- dictionaries only grow in a compilation, whether it succeeds or fails;
- a kernel that was built is built again wherever the dictionaries repeat their answers, also for
  a step with alike constants;
- compilation of a step that is not in the cache.

Does not own: what the cache holds, or the runs of a kernel.
-/

namespace QueryKernel

open QueryKernel.Ir (Operand)
open QueryKernel.Plan (QueryStep)
open QueryKernel.Sql (Constant)
open QueryKernel.Dictionary (Registry)

namespace Executor

open Session

/-! ### All constants of a step -/

theorem generateAll_grows (hoisting : Bool) (workspace : Workspace) (constants : List Constant) :
    workspace.registry.Grows (generateAll hoisting workspace constants).2.registry := by
  induction constants generalizing workspace with
  | nil => exact .refl _
  | cons constant rest inductionHypothesis =>
      have first := workspace.generate_grows constant
        ⟨constant.type.encoding, constant.type.parameter⟩ hoisting
      simp only [generateAll]
      split
      · rename_i failure after generated
        rw [generated] at first
        exact first
      · rename_i operands middle generated
        rw [generated] at first
        have behind := inductionHypothesis middle
        split
        · rename_i failure after remaining
          rw [remaining] at behind
          exact first.trans behind
        · rename_i others after remaining
          rw [remaining] at behind
          exact first.trans behind

theorem generateAll_length {hoisting : Bool} {workspace after : Workspace}
    {constants : List Constant} {outputs : List (List Operand)}
    (generated : generateAll hoisting workspace constants = (.ok outputs, after)) :
    outputs.length = constants.length := by
  induction constants generalizing workspace outputs with
  | nil =>
      cases generated
      rfl
  | cons constant rest inductionHypothesis =>
      simp only [generateAll] at generated
      split at generated
      · cases generated
      · split at generated
        · cases generated
        · rename_i others last remaining
          cases generated
          rw [List.length_cons, List.length_cons, inductionHypothesis remaining]

/-- Constants that were generated in lockstep are generated again, and so are alike ones. -/
theorem generateAll_again {session : Session} {count : Nat} {buffer : Literal.Buffer}
    (lockstep : session.Lockstep (count + 1) buffer) (wellFormed : buffer.WellFormed)
    {constants others : List Constant} (alike : List.Forall₂ Constant.Alike constants others)
    {hoisting : Bool} {registry later : Registry} {outputs : List (List Operand)}
    {after : Workspace}
    (generated : generateAll hoisting ⟨session, registry⟩ constants = (.ok outputs, after))
    (repeats : after.registry.Repeats later) :
    generateAll hoisting ⟨session, later⟩ others = (.ok outputs, ⟨after.session, later⟩) := by
  induction alike generalizing session buffer registry outputs with
  | nil =>
      cases generated
      rfl
  | @cons constant other rest _ first _ inductionHypothesis =>
      let encoding : StringEncoding := ⟨constant.type.encoding, constant.type.parameter⟩
      simp only [generateAll] at generated
      split at generated
      · cases generated
      · rename_i operands middle made
        obtain ⟨grown, grownWellFormed, next⟩ :=
          (lockstep.call wellFormed ⟨constant, encoding, hoisting, registry⟩).1
        rw [Session.call, made] at next
        have middleGrows := generateAll_grows hoisting middle rest
        split at generated
        · cases generated
        · rename_i behind last remaining
          cases generated
          rw [remaining] at middleGrows
          have again :=
            lockstep.generate_again first first.own made (middleGrows.repeats.trans repeats)
          have behindAgain : generateAll hoisting ⟨middle.session, later⟩ _ = _ :=
            inductionHypothesis next grownWellFormed remaining
          simp only [generateAll, again, behindAgain]

/-! ### Building -/

section Digest

variable [Hash.Digest]

/-- The parts of a kernel that was built. -/
theorem build_eq_ok {settings : Settings} {registry after : Registry} {step : QueryStep}
    {options : CompileOptions} {kernel : Kernel}
    (built : build settings registry step options = (.ok kernel, after)) :
    ∃ session outputs workspace images ids,
      Session.start ("kernel_" ++ Text.hexPadded 16 (cacheKey step options).toNat)
        (settings.deviceCount (options.device == .gpu)) = .ok session ∧
      generateAll options.hoisting ⟨session, registry⟩ step.constants = (.ok outputs, workspace) ∧
      workspace.session.serialize = .ok images ∧
      deviceRange (if options.device = .gpu then settings.firstGpu else 0)
        (settings.deviceCount (options.device == .gpu)) = .ok ids ∧
      after = workspace.registry ∧
      kernel = {
        key := cacheKey step options, options, outputs, images, deviceIds := ids
        bumpAllocator := options.device == .gpu && (step.bumpAllocator || settings.bumpAllocator)
        code := workspace.session.code } := by
  unfold build at built
  dsimp only at built
  split at built
  · cases built
  · rename_i session started
    split at built
    · cases built
    · rename_i outputs workspace generated
      split at built
      · cases built
      · rename_i images serialized
        split at built
        · cases built
        · rename_i ids range
          obtain ⟨sameKernel, sameRegistry⟩ := Prod.mk.inj built
          exact ⟨session, outputs, workspace, images, ids, started, generated, serialized, range,
            sameRegistry.symm, (Except.ok.inj sameKernel).symm⟩

theorem build_key {settings : Settings} {registry after : Registry} {step : QueryStep}
    {options : CompileOptions} {kernel : Kernel}
    (built : build settings registry step options = (.ok kernel, after)) :
    kernel.key = cacheKey step options := by
  obtain ⟨_, _, _, _, _, _, _, _, _, _, same⟩ := build_eq_ok built
  generalize cacheKey step options = key at same ⊢
  rw [same]

/-- A kernel is built from its parts. -/
theorem build_of_parts {settings : Settings} {registry : Registry} {step : QueryStep}
    {options : CompileOptions} {session : Session} {outputs : List (List Operand)}
    {workspace : Workspace} {images : List (Array UInt8)} {ids : List Nat}
    (started : Session.start ("kernel_" ++ Text.hexPadded 16 (cacheKey step options).toNat)
      (settings.deviceCount (options.device == .gpu)) = .ok session)
    (generated : generateAll options.hoisting ⟨session, registry⟩ step.constants =
      (.ok outputs, workspace))
    (serialized : workspace.session.serialize = .ok images)
    (range : deviceRange (if options.device = .gpu then settings.firstGpu else 0)
      (settings.deviceCount (options.device == .gpu)) = .ok ids) :
    build settings registry step options =
      (.ok {
        key := cacheKey step options, options, outputs, images, deviceIds := ids
        bumpAllocator := options.device == .gpu && (step.bumpAllocator || settings.bumpAllocator)
        code := workspace.session.code }, workspace.registry) := by
  unfold build
  dsimp only
  rw [started]
  dsimp only
  rw [generated]
  dsimp only
  rw [serialized]
  dsimp only
  rw [range]

theorem build_grows (settings : Settings) (registry : Registry) (step : QueryStep)
    (options : CompileOptions) :
    registry.Grows (build settings registry step options).2 := by
  unfold build
  dsimp only
  split
  · exact .refl _
  · rename_i session started
    have grows := generateAll_grows options.hoisting ⟨session, registry⟩ step.constants
    split
    · rename_i failure workspace generated
      rw [generated] at grows
      exact grows
    · rename_i outputs workspace generated
      rw [generated] at grows
      split
      · exact grows
      · split
        · exact grows
        · exact grows

/-- A kernel that was built is built again wherever the dictionaries repeat their answers, and for
any step that has the same key and alike constants. -/
theorem build_again {settings : Settings} {registry after later : Registry}
    {step other : QueryStep} {options : CompileOptions} {kernel : Kernel}
    (alike : List.Forall₂ Constant.Alike step.constants other.constants)
    (sameKey : cacheKey step options = cacheKey other options)
    (sameAllocator : step.bumpAllocator = other.bumpAllocator)
    (built : build settings registry step options = (.ok kernel, after))
    (repeats : after.Repeats later) : build settings later other options = (.ok kernel, later) := by
  obtain ⟨session, outputs, workspace, images, ids, started, generated, serialized, range, rfl,
    rfl⟩ := build_eq_ok built
  obtain ⟨inhabited, sameSession⟩ := start_eq_ok started
  obtain ⟨count, devices⟩ : ∃ count, settings.deviceCount (options.device == .gpu) = count + 1 :=
    ⟨settings.deviceCount (options.device == .gpu) - 1, by omega⟩
  have lockstep : session.Lockstep (count + 1) {} := by
    rw [sameSession, devices]
    exact .empty _ (count + 1)
  have again := generateAll_again lockstep .empty alike generated repeats
  rw [sameKey] at started
  rw [build_of_parts started again serialized range, sameKey, sameAllocator]

/-- The options that a step is compiled with, where others are requested. -/
def effectiveOptions (executor : Executor) (step : QueryStep) (requested : CompileOptions) :
    CompileOptions :=
  { requested with device := effectiveDevice executor.settings step requested.device }

/-- A step that is not in the cache is built, and its kernel is the one handed out. -/
theorem compile_of_miss {executor : Executor} {step : QueryStep} {requested : CompileOptions}
    (missed : executor.cache.get (cacheKey step (executor.effectiveOptions step requested)) =
      none) :
    executor.compile step requested =
      match build executor.settings executor.registry step
        (executor.effectiveOptions step requested) with
      | (.error failure, registry) => (.error failure, { executor with registry })
      | (.ok kernel, registry) =>
          (.ok ⟨executor.compiled, kernel⟩, { executor with
            registry
            cache := (executor.cache.insert ⟨executor.compiled, kernel⟩).2
            compiled := executor.compiled + 1 }) := by
  unfold compile
  unfold effectiveOptions at missed ⊢
  cases built : build executor.settings executor.registry step
      { requested with device := effectiveDevice executor.settings step requested.device } with
  | mk outcome registry =>
      cases outcome with
      | error failure => simp only [missed, built]
      | ok kernel =>
          have kept : executor.cache.get kernel.key = none := by
            rw [build_key built]
            exact missed
          simp only [missed, built, CodeCache.insert, kept]

end Digest

theorem get_of_empty {cache : CodeCache} (empty : cache.entries = []) (key : UInt64) :
    cache.get key = none := by
  rw [CodeCache.get, empty]
  rfl

end Executor

end QueryKernel
