import QueryKernel.Proofs.Kernel.History
import QueryKernel.Proofs.Plan.Readability
import QueryKernel.Proofs.Sql.Legibility

/-!
Contract: when the kernel of the code cache may stand in for a new one.

A step is looked up by its description. Two steps can share a description, since a string in a
description is not marked off from the text around it.

Owns:
- what is observed of the runs of a kernel;
- steps that can stand in for each other, and steps whose description tells them apart;
- the main statement: after any requests, a kernel is handed out faithfully if and only if the
  step it was built for can stand in.

Does not own: when the key of one description is the key of another.
-/

namespace QueryKernel

open QueryKernel.Ir (RuntimeValue Address)
open QueryKernel.Plan (QueryStep)
open QueryKernel.Sql (Constant)
open QueryKernel.Dictionary (Registry)

/-! ### Descriptions -/

namespace Executor

/-- A truth value is read off the end of a text. -/
theorem truth_unique {left right : List Char} {flag other : Bool}
    (same : left ++ (Text.truth flag).toList = right ++ (Text.truth other).toList) :
    left = right ∧ flag = other := by
  have backwards := congrArg List.reverse same
  rw [List.reverse_append, List.reverse_append] at backwards
  cases flag <;> cases other
  · exact ⟨List.append_cancel_right same, rfl⟩
  · exact absurd (List.cons.inj (List.cons.inj backwards).2).1 (by decide)
  · exact absurd (List.cons.inj (List.cons.inj backwards).2).1 (by decide)
  · exact ⟨List.append_cancel_right same, rfl⟩

/-- The key of a compilation tells the description of the step and the options. -/
theorem keyDescription_injective {step other : QueryStep} {options otherOptions : CompileOptions}
    (same : keyDescription step options = keyDescription other otherOptions) :
    step.cacheDescription = other.cacheDescription ∧ options = otherOptions := by
  rcases options with ⟨device, hoisting⟩
  rcases otherOptions with ⟨otherDevice, otherHoisting⟩
  -- The options stand at the end, so the texts are compared from there.
  have texts := congrArg String.toList same
  unfold keyDescription at texts
  simp only [String.toList_append] at texts
  rcases truth_unique texts with ⟨behind, rfl⟩
  have lengths : device.render.toList.length = otherDevice.render.toList.length := by
    cases device <;> cases otherDevice <;> rfl
  rcases List.append_inj' (List.append_cancel_right behind) lengths with ⟨descriptions, devices⟩
  have device : device = otherDevice := by
    revert devices
    cases device <;> cases otherDevice <;> decide
  rw [device]
  exact ⟨String.toList_inj.mp (List.append_cancel_right descriptions), rfl⟩

theorem cacheKey_of_cacheDescription [Hash.Digest] {step other : QueryStep}
    {options : CompileOptions} (same : step.cacheDescription = other.cacheDescription) :
    cacheKey step options = cacheKey other options := by
  rw [cacheKey, cacheKey, keyDescription, keyDescription, same]

/-- Constants of equal texts are alike, if all of them are legible. -/
theorem alike_of_all_texts {constants others : List Constant}
    (legible : ∀ constant ∈ constants, constant.isLegible = true)
    (othersLegible : ∀ constant ∈ others, constant.isLegible = true)
    (texts : (constants.map fun constant => (constant.datum.render, constant.type.render)) =
      others.map fun constant => (constant.datum.render, constant.type.render)) :
    List.Forall₂ Constant.Alike constants others := by
  induction constants generalizing others with
  | nil =>
      rw [List.map_nil, eq_comm, List.map_eq_nil_iff] at texts
      rw [texts]
      exact .nil
  | cons constant rest inductionHypothesis =>
      cases others with
      | nil => contradiction
      | cons other behind =>
          rcases List.cons.inj texts with ⟨first, remaining⟩
          rcases Prod.mk.inj first with ⟨payloads, types⟩
          apply List.Forall₂.cons
          · exact Sql.alike_of_texts (legible _ List.mem_cons_self)
              (othersLegible _ List.mem_cons_self) types payloads
          · exact inductionHypothesis
              (fun next member => legible next (List.mem_cons_of_mem _ member))
              (fun next member => othersLegible next (List.mem_cons_of_mem _ member)) remaining

end Executor

/-- No constant of the step could be mistaken in a description. -/
def Plan.QueryStep.IsLegible (step : QueryStep) : Prop :=
  ∀ constant ∈ step.constants, constant.isLegible = true

theorem Plan.QueryStep.IsLegible.isQuoteFree {step : QueryStep} (legible : step.IsLegible) :
    step.IsQuoteFree := by
  intro constant member
  exact Sql.Constant.isQuoteFree_of_isLegible (legible constant member)

namespace Executor

/-- Legible steps of one description have alike constants. -/
theorem alike_of_cacheDescription {step other : QueryStep} (legible : step.IsLegible)
    (otherLegible : other.IsLegible) (same : step.cacheDescription = other.cacheDescription) :
    List.Forall₂ Constant.Alike step.constants other.constants := by
  have outlines :=
    Plan.outline_of_cacheDescription legible.isQuoteFree otherLegible.isQuoteFree same
  apply alike_of_all_texts legible otherLegible
  rw [← QueryStep.constants_outline, ← QueryStep.constants_outline, outlines]

/-- A legible step is built to the kernel of any other legible step of its description. -/
theorem build_of_cacheDescription [Hash.Digest] {settings : Settings}
    {registry after later : Registry} {step other : QueryStep} {options : CompileOptions}
    {kernel : Kernel}
    (legible : step.IsLegible) (otherLegible : other.IsLegible)
    (same : step.cacheDescription = other.cacheDescription)
    (built : build settings registry step options = (.ok kernel, after))
    (repeats : after.Repeats later) : build settings later other options = (.ok kernel, later) := by
  have outlines :=
    Plan.outline_of_cacheDescription legible.isQuoteFree otherLegible.isQuoteFree same
  have allocator : step.outline.bumpAllocator = other.outline.bumpAllocator := by rw [outlines]
  exact build_again (alike_of_cacheDescription legible otherLegible same)
    (cacheKey_of_cacheDescription same) allocator built repeats

end Executor

/-! ### Observations -/

/-- What is observed of an entry: a string with the bytes behind its address, which itself is not
observed. -/
inductive Observed where
  | values (values : List RuntimeValue)
  | text (start : Int64) (length : Int64) (bytes : Except Error (List UInt8))

namespace Kernel

/-- An entry as it is observed on the device of an image. -/
def observeEntry (kernel : Kernel) (image : Array UInt8) : List RuntimeValue → Observed
  | [.int 64 start, .pointer address, .int 32 length] =>
      .text start length (kernel.code.readBytes image address length.toInt.toNat)
  | values => .values values

/-- The run on a device as it is observed. -/
def observe (kernel : Kernel) (device : Nat) : Except Error (List Observed) := do
  let image ← kernel.image device
  let entries ← kernel.run device
  return entries.map (kernel.observeEntry image)

/-- Kernels that no run on any device tells apart. -/
def Agrees (left right : Kernel) : Prop :=
  left.devices = right.devices ∧ ∀ device, left.observe device = right.observe device

theorem Agrees.refl (kernel : Kernel) : kernel.Agrees kernel := ⟨rfl, fun _ => rfl⟩

end Kernel

/-! ### Reuse -/

namespace Executor

section Digest

variable [Hash.Digest]

/-- A compilation succeeds if and only if it succeeds without the cache, and then its kernel has
one output for each constant and agrees with the kernel of a new compilation. -/
structure Faithful (executor : Executor) (step : QueryStep) (requested : CompileOptions) :
    Prop where
  succeeds : (∃ issued, (executor.compile step requested).1 = .ok issued) ↔
    ∃ fresh, (executor.clearCache.compile step requested).1 = .ok fresh
  agrees : ∀ issued fresh, (executor.compile step requested).1 = .ok issued →
    (executor.clearCache.compile step requested).1 = .ok fresh →
    issued.kernel.outputs.length = step.constants.length ∧ issued.kernel.Agrees fresh.kernel

/-- The cache holds the kernel that the step would be built to now. -/
def Holds (executor : Executor) (step : QueryStep) (options : CompileOptions) : Prop :=
  ∃ issued cache, executor.cache.get (cacheKey step options) = some (issued, cache) ∧
    build executor.settings executor.registry step options = (.ok issued.kernel, executor.registry)

/-- The kernel of one step may be handed out for another. -/
def StandsIn (executor : Executor) (other step : QueryStep) (options : CompileOptions) : Prop :=
  ∀ kernel,
    build executor.settings executor.registry other options = (.ok kernel, executor.registry) →
    ∃ fresh, (build executor.settings executor.registry step options).1 = .ok fresh ∧
      kernel.outputs.length = step.constants.length ∧ kernel.Agrees fresh

/-- The other step is a past one with the options and the description of the step. -/
def Shares (past : List (QueryStep × CompileOptions)) (options : CompileOptions)
    (step other : QueryStep) : Prop :=
  (other, options) ∈ past ∧ other.cacheDescription = step.cacheDescription

theorem build_outputs_length {settings : Settings} {registry after : Registry} {step : QueryStep}
    {options : CompileOptions} {kernel : Kernel}
    (built : build settings registry step options = (.ok kernel, after)) :
    kernel.outputs.length = step.constants.length := by
  obtain ⟨_, _, _, _, _, _, generated, _, _, _, rfl⟩ := build_eq_ok built
  exact generateAll_length generated

/-- Without an entry the step is built. -/
theorem compile_result_of_miss {executor : Executor} {step : QueryStep} {requested : CompileOptions}
    (missed : executor.cache.get (cacheKey step (executor.effectiveOptions step requested)) =
      none) :
    (executor.compile step requested).1 =
      (build executor.settings executor.registry step
        (executor.effectiveOptions step requested)).1.map (Issued.mk executor.compiled) := by
  rw [compile_of_miss missed]
  split
  · rename_i failure registry built
    rw [built]
    rfl
  · rename_i kernel registry built
    rw [built]
    rfl

/-- What was built without an entry leaves the dictionaries as the build did. -/
theorem compile_registry_of_miss {executor : Executor} {step : QueryStep}
    {requested : CompileOptions}
    (missed : executor.cache.get (cacheKey step (executor.effectiveOptions step requested)) =
      none) :
    (executor.compile step requested).2.registry =
      (build executor.settings executor.registry step
        (executor.effectiveOptions step requested)).2 := by
  rw [compile_of_miss missed]
  split
  · rename_i failure registry built
    rw [built]
  · rename_i kernel registry built
    rw [built]

theorem compile_result_of_clear (executor : Executor) (step : QueryStep)
    (requested : CompileOptions) :
    (executor.clearCache.compile step requested).1 =
      (build executor.settings executor.registry step
        (executor.effectiveOptions step requested)).1.map (Issued.mk executor.compiled) :=
  compile_result_of_miss (get_of_empty rfl _)

omit [Hash.Digest] in
theorem map_eq_ok {α β : Type} {result : Except Error α} {wrap : α → β} {value : β} :
    result.map wrap = .ok value ↔ ∃ inner, result = .ok inner ∧ wrap inner = value := by
  cases result with
  | error failure => simp [Except.map]
  | ok inner => simp [Except.map]

/-- Where nothing is cached, a step compiles if it can be built. -/
theorem exists_compiled_of_build {executor : Executor} (empty : executor.cache.entries = [])
    {step : QueryStep} {requested : CompileOptions}
    (builds : (build executor.settings executor.registry step
      (executor.effectiveOptions step requested)).1.toBool = true) :
    ∃ kernel, (executor.compile step requested).1 = .ok ⟨executor.compiled, kernel⟩ := by
  rcases exists_of_toBool builds with ⟨kernel, built⟩
  refine ⟨kernel, ?_⟩
  rw [compile_result_of_miss (get_of_empty empty _), built]
  rfl

/-- A kernel that is built for the only request so far is found by the next one. -/
theorem get_of_built {executor : Executor} (empty : executor.cache.entries = [])
    {step : QueryStep} {requested : CompileOptions} {kernel : Kernel}
    (built : (build executor.settings executor.registry step
      (executor.effectiveOptions step requested)).1 = .ok kernel) :
    ∃ later, (executor.serve [.compile step requested]).cache.get
      (cacheKey step (executor.effectiveOptions step requested)) =
        some (⟨executor.compiled, kernel⟩, later) := by
  apply get_of_compile
  rw [compile_result_of_miss (get_of_empty empty _), built]
  rfl

section Reuse

variable {executor : Executor} {step : QueryStep} {requested : CompileOptions}

/-- What is built is faithful. -/
theorem faithful_of_miss
    (missed : executor.cache.get (cacheKey step (executor.effectiveOptions step requested)) =
      none) : executor.Faithful step requested := by
  have result := compile_result_of_miss missed
  have fresh := compile_result_of_clear executor step requested
  constructor
  · rw [result, fresh]
  · intro issued other success otherSuccess
    rw [result] at success
    rw [fresh] at otherSuccess
    rcases map_eq_ok.mp success with ⟨kernel, built, rfl⟩
    rcases map_eq_ok.mp otherSuccess with ⟨otherKernel, otherBuilt, rfl⟩
    have same := Except.ok.inj (built.symm.trans otherBuilt)
    subst same
    exact ⟨build_outputs_length (Prod.ext built rfl), .refl _⟩

/-- What is found is faithful if and only if it agrees with what is built. -/
theorem faithful_of_hit_iff {hit : Issued} {cache : CodeCache}
    (found : executor.cache.get (cacheKey step (executor.effectiveOptions step requested)) =
      some (hit, cache)) :
    executor.Faithful step requested ↔
      ∃ fresh, (build executor.settings executor.registry step
          (executor.effectiveOptions step requested)).1 = .ok fresh ∧
        hit.kernel.outputs.length = step.constants.length ∧ hit.kernel.Agrees fresh := by
  have result : (executor.compile step requested).1 = .ok hit := by
    rw [compile_of_hit found]
  have cleared := compile_result_of_clear executor step requested
  constructor
  · intro faithful
    rcases faithful.succeeds.mp ⟨hit, result⟩ with ⟨fresh, success⟩
    have agrees := faithful.agrees hit fresh result success
    rw [cleared] at success
    rcases map_eq_ok.mp success with ⟨kernel, built, rfl⟩
    exact ⟨kernel, built, agrees⟩
  · rintro ⟨kernel, built, agrees⟩
    have success : (executor.clearCache.compile step requested).1 =
        .ok ⟨executor.compiled, kernel⟩ := by
      rw [cleared, built]
      rfl
    constructor
    · exact ⟨fun _ => ⟨_, success⟩, fun _ => ⟨_, result⟩⟩
    · intro issued fresh issuedSuccess freshSuccess
      cases result.symm.trans issuedSuccess
      cases success.symm.trans freshSuccess
      exact agrees

variable {settings : Settings} {past : List (QueryStep × CompileOptions)}
  (sound : executor.Sound settings past)
  (distinct : ∀ other options, (other, options) ∈ past →
    cacheKey other options = cacheKey step (executor.effectiveOptions step requested) →
    keyDescription other options =
      keyDescription step (executor.effectiveOptions step requested))

include sound distinct

/-- What is found was built for a past step of the same description. -/
theorem source_of_hit {hit : Issued} {cache : CodeCache}
    (found : executor.cache.get (cacheKey step (executor.effectiveOptions step requested)) =
      some (hit, cache)) :
    ∃ other, Shares past (executor.effectiveOptions step requested) step other ∧
      build executor.settings executor.registry other
        (executor.effectiveOptions step requested) = (.ok hit.kernel, executor.registry) := by
  rcases sound.cached _ _ (CodeCache.mem_of_get found) with
    ⟨other, otherOptions, asked, keyed, built⟩
  rcases keyDescription_injective (distinct other otherOptions asked keyed) with
    ⟨description, rfl⟩
  exact ⟨other, ⟨asked, description⟩, built⟩

/-- A compilation is faithful if and only if the step that it was built for can stand in. -/
theorem faithful_iff_standsIn :
    executor.Faithful step requested ↔
      ∀ other, Shares past (executor.effectiveOptions step requested) step other →
        executor.Holds other (executor.effectiveOptions step requested) →
        executor.StandsIn other step (executor.effectiveOptions step requested) := by
  constructor
  · rintro faithful other ⟨-, description⟩ ⟨issued, cache, found, built⟩ kernel otherBuilt
    rw [cacheKey_of_cacheDescription description] at found
    rw [← Except.ok.inj (Prod.mk.inj (built.symm.trans otherBuilt)).1]
    exact (faithful_of_hit_iff found).mp faithful
  · intro standsIn
    cases looked : executor.cache.get
        (cacheKey step (executor.effectiveOptions step requested)) with
    | none => exact faithful_of_miss looked
    | some hit =>
        rcases hit with ⟨issued, cache⟩
        rcases source_of_hit sound distinct looked with ⟨other, shares, built⟩
        have holds : executor.Holds other (executor.effectiveOptions step requested) := by
          refine ⟨issued, cache, ?_, built⟩
          rw [cacheKey_of_cacheDescription shares.2]
          exact looked
        exact (faithful_of_hit_iff looked).mpr (standsIn other shares holds issued.kernel built)

end Reuse

/-- A legible step stands in for any other of its description. -/
theorem standsIn_of_legible {executor : Executor} {step other : QueryStep}
    {options : CompileOptions} (legible : step.IsLegible) (otherLegible : other.IsLegible)
    (same : other.cacheDescription = step.cacheDescription) :
    executor.StandsIn other step options := by
  intro kernel built
  have again :=
    build_of_cacheDescription otherLegible legible same built (Registry.Grows.refl _).repeats
  exact ⟨kernel, by rw [again], build_outputs_length again, .refl kernel⟩

/-- After any requests, unless keys of different descriptions collide: a kernel that is found is
what a past step of the same description and options would be built to now. It is handed out
faithfully if and only if that step can stand in, and so it is if no constant of the steps could
be mistaken in a description. -/
theorem reuse_is_faithful_iff {executor : Executor} (empty : executor.cache.entries = [])
    (requests : List Request) (step : QueryStep) (requested : CompileOptions)
    (distinct : ∀ other options, (other, options) ∈ executor.compilations requests →
      cacheKey other options = cacheKey step (executor.effectiveOptions step requested) →
      keyDescription other options =
        keyDescription step (executor.effectiveOptions step requested)) :
    let now := executor.serve requests
    let options := executor.effectiveOptions step requested
    let past := executor.compilations requests
    (∀ issued cache, now.cache.get (cacheKey step options) = some (issued, cache) →
      ∃ other, Shares past options step other ∧
        build now.settings now.registry other options = (.ok issued.kernel, now.registry)) ∧
    (now.Faithful step requested ↔
      ∀ other, Shares past options step other → now.Holds other options →
        now.StandsIn other step options) ∧
    (step.IsLegible → (∀ other, Shares past options step other → other.IsLegible) →
      now.Faithful step requested) := by
  intro now options past
  have sound : now.Sound executor.settings past := (Sound.empty empty).serve requests
  have sameOptions : options = now.effectiveOptions step requested := by
    rw [effectiveOptions, sound.settings]
    rfl
  have distinctNow : ∀ other others, (other, others) ∈ past →
      cacheKey other others = cacheKey step (now.effectiveOptions step requested) →
      keyDescription other others =
        keyDescription step (now.effectiveOptions step requested) := by
    rw [← sameOptions]
    exact distinct
  rw [sameOptions]
  have reused := faithful_iff_standsIn sound distinctNow
  refine ⟨fun issued cache found => source_of_hit sound distinctNow found, reused, ?_⟩
  intro legible othersLegible
  apply reused.mpr
  intro other shares _
  exact standsIn_of_legible legible (othersLegible other shares) shares.2

end Digest

theorem reuse_is_faithful_iff_hinted :
    let executor : Executor := { settings := {}, registry := {}, cache := { capacity := 2 } }
    let plain : QueryStep := { targets := [.constant (.smallInt 7)] }
    let hinted : QueryStep := { plain with hints := { columnarOutput := true } }
    let now := executor.serve [.compile hinted {}]
    (∃ hit, now.cache.get (cacheKey plain {}) = some hit) ∧ now.Faithful plain {} := by
  intro executor plain hinted now
  have description : hinted.cacheDescription = plain.cacheDescription := rfl
  have key : cacheKey hinted {} = cacheKey plain {} := cacheKey_of_cacheDescription description
  have asked : executor.compilations [.compile hinted {}] = [(hinted, {})] := rfl
  have distinct : ∀ other options, (other, options) ∈ executor.compilations [.compile hinted {}] →
      cacheKey other options = cacheKey plain {} →
      keyDescription other options = keyDescription plain {} := by
    intro other options member _
    rw [asked] at member
    rcases Prod.mk.inj (List.mem_singleton.mp member) with ⟨rfl, rfl⟩
    rw [keyDescription, keyDescription, description]
  have legible : ∀ constant ∈ plain.constants, constant.isLegible = true := by decide
  constructor
  · obtain ⟨kernel, built⟩ : ∃ kernel,
        (build executor.settings executor.registry hinted {}).1 = .ok kernel :=
      exists_of_toBool (by decide +kernel)
    rcases @get_of_built _ executor rfl hinted {} kernel built with ⟨later, found⟩
    exact ⟨_, key ▸ found⟩
  · apply (reuse_is_faithful_iff rfl [.compile hinted {}] plain {} distinct).2.2 legible
    rintro other ⟨member, -⟩
    rw [asked] at member
    rcases Prod.mk.inj (List.mem_singleton.mp member) with ⟨rfl, -⟩
    exact legible

/-- The description of one string can be the description of two others, so that a step gets the
kernel of another. -/
theorem reuse_is_not_always_faithful :
    ∃ (executor : Executor) (requests : List Request) (step : QueryStep)
      (requested : CompileOptions), executor.cache.entries = [] ∧
      (∀ other options, (other, options) ∈ executor.compilations requests →
        keyDescription other options =
          keyDescription step (executor.effectiveOptions step requested)) ∧
      ¬ (executor.serve requests).Faithful step requested := by
  let executor : Executor := { settings := {}, registry := {}, cache := { capacity := 2 } }
  let one : QueryStep := { targets := [.constant (.ofString "a' TEXT), (Const 'b")] }
  let two : QueryStep := { targets := [.constant (.ofString "a"), .constant (.ofString "b")] }
  have description : one.cacheDescription = two.cacheDescription :=
    Plan.cacheDescription_congr_targets {} (by decide +kernel)
  have key : cacheKey one {} = cacheKey two {} := cacheKey_of_cacheDescription description
  refine ⟨executor, [.compile one {}], two, {}, rfl, ?_, ?_⟩
  · intro other options member
    rcases Prod.mk.inj (List.mem_singleton.mp member) with ⟨rfl, rfl⟩
    rw [keyDescription, keyDescription, description]
    rfl
  · intro faithful
    obtain ⟨kernel, built⟩ : ∃ kernel,
        (build executor.settings executor.registry one {}).1 = .ok kernel :=
      exists_of_toBool (by decide +kernel)
    have counted : kernel.outputs.length = one.constants.length := by
      have whole : build executor.settings executor.registry one {} =
          (.ok kernel, (build executor.settings executor.registry one {}).2) := Prod.ext built rfl
      exact build_outputs_length whole
    rcases @get_of_built _ executor rfl one {} kernel built with ⟨later, found⟩
    have sound := (@Sound.empty _ executor rfl).serve [.compile one {}]
    generalize executor.serve [.compile one {}] = now at faithful found sound
    have options : now.effectiveOptions two {} = {} := by
      rw [effectiveOptions, sound.settings]
      rfl
    have foundForTwo : now.cache.get (cacheKey two (now.effectiveOptions two {})) =
        some (⟨0, kernel⟩, later) := by
      rw [options, ← key]
      exact found
    rcases (faithful_of_hit_iff foundForTwo).mp faithful with ⟨fresh, -, handedOut, -⟩
    exact absurd (counted.symm.trans handedOut) (by decide)

end Executor

end QueryKernel
