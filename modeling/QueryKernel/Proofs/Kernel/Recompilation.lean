import QueryKernel.Proofs.Kernel.Origin

/-!
Contract: when an evicted kernel comes back as it was.

A kernel that is no longer cached is built anew, out of the dictionaries of that moment. These have
grown since the kernel was handed out, and other ids may have been bound.

Owns:
- steps that are built to a kernel without an insertion, and that this lasts;
- kernels that every later compilation without an entry gives again;
- the main statement: a kernel that was handed out is given again if and only if it is built again
  from the dictionaries that its compilation left, and it is if that compilation built it;
- a kernel that is not given again, since it was built for another step of the description.

Does not own: which entries are evicted.
-/

namespace QueryKernel.Executor

open QueryKernel.Plan (QueryStep)
open QueryKernel.Dictionary (Registry)

section Digest

variable [Hash.Digest]

/-- The step is built to the kernel, with strings that the dictionaries know. -/
def Rebuilds (executor : Executor) (step : QueryStep) (options : CompileOptions)
    (kernel : Kernel) : Prop :=
  build executor.settings executor.registry step options = (.ok kernel, executor.registry)

/-- Whatever happens while ids stay bound to their dictionaries: the step is compiled to an equal
kernel where it has no entry, and this inserts no string. -/
def Reproduces (executor : Executor) (step : QueryStep) (requested : CompileOptions)
    (kernel : Kernel) : Prop :=
  ∀ later : List Event, executor.registry.Keeps (executor.after later).registry →
    (executor.after later).cache.get (cacheKey step (executor.effectiveOptions step requested)) =
      none →
    ∃ issued, ((executor.after later).compile step requested).1 = .ok issued ∧
      issued.kernel = kernel ∧
      ((executor.after later).compile step requested).2.registry = (executor.after later).registry

section Rebuilds

variable {executor : Executor} {step : QueryStep} {kernel : Kernel}

/-- What is built from known strings is built from them later on. -/
theorem Rebuilds.after {options : CompileOptions} (rebuilds : executor.Rebuilds step options kernel)
    (valid : executor.registry.Valid) {later : List Event}
    (keeps : executor.registry.Keeps (executor.after later).registry) :
    (executor.after later).Rebuilds step options kernel := by
  have repeats := valid.repeats (after_evolves later) keeps
  rw [Rebuilds, after_settings]
  exact build_stable rebuilds repeats

/-- Without an entry, a step that is built from known strings is compiled to the kernel. -/
theorem Rebuilds.compile {requested : CompileOptions}
    (rebuilds : executor.Rebuilds step (executor.effectiveOptions step requested) kernel)
    (missed : executor.cache.get (cacheKey step (executor.effectiveOptions step requested)) =
      none) :
    (executor.compile step requested).1 = .ok ⟨executor.compiled, kernel⟩ ∧
      (executor.compile step requested).2.registry = executor.registry := by
  rw [compile_result_of_miss missed, compile_registry_of_miss missed, rebuilds]
  exact ⟨rfl, rfl⟩

theorem Rebuilds.reproduces {requested : CompileOptions}
    (rebuilds : executor.Rebuilds step (executor.effectiveOptions step requested) kernel)
    (valid : executor.registry.Valid) : executor.Reproduces step requested kernel := by
  intro later keeps missed
  have again := rebuilds.after valid keeps
  rw [← effectiveOptions_after later] at again missed
  rcases again.compile missed with ⟨result, registry⟩
  exact ⟨_, result, rfl, registry⟩

/-- The cache can be cleared at once, so that the kernel has to be built from what is known now. -/
theorem Reproduces.rebuilds {requested : CompileOptions}
    (reproduces : executor.Reproduces step requested kernel) :
    executor.Rebuilds step (executor.effectiveOptions step requested) kernel := by
  have missed : (executor.after [.request .clear]).cache.get
      (cacheKey step (executor.effectiveOptions step requested)) = none := get_of_empty rfl _
  rcases reproduces [.request .clear] (.refl _) missed with ⟨issued, result, rfl, registry⟩
  rw [← effectiveOptions_after [.request .clear]] at missed
  rw [compile_result_of_miss missed] at result
  rw [compile_registry_of_miss missed] at registry
  rcases map_eq_ok.mp result with ⟨fresh, built, rfl⟩
  exact Prod.ext built registry

/-- A kernel that is built here is built again from the dictionaries that are left. -/
theorem rebuilds_of_miss {requested : CompileOptions} {issued : Issued}
    (missed : executor.cache.get (cacheKey step (executor.effectiveOptions step requested)) = none)
    (success : (executor.compile step requested).1 = .ok issued) :
    (executor.compile step requested).2.Rebuilds step (executor.effectiveOptions step requested)
      issued.kernel := by
  have registry := compile_registry_of_miss missed
  rw [compile_result_of_miss missed] at success
  rcases map_eq_ok.mp success with ⟨kernel, built, rfl⟩
  rw [Rebuilds, compile_settings]
  exact build_stable (Prod.ext built registry.symm) (Registry.Grows.refl _).repeats

end Rebuilds

/-- At the end of a history a step is built to the kernel of an origin that has its description, if
both are legible or the same, and if ids are still bound to the dictionaries of the origin. -/
theorem Origin.Of.rebuilds {origin : Origin} {executor : Executor} {history : List Event}
    {kernel : Kernel} (stems : origin.Of executor history kernel)
    (valid : executor.registry.Valid) {step : QueryStep}
    (same : origin.step.cacheDescription = step.cacheDescription)
    (readable : origin.step = step ∨ step.IsLegible ∧ origin.step.IsLegible)
    (keeps : (executor.after origin.past).registry.Keeps (executor.after history).registry) :
    (executor.after history).Rebuilds step (origin.options executor) kernel := by
  have repeats := (after_valid valid origin.past).repeats stems.evolves keeps
  rw [Rebuilds, after_settings]
  rcases readable with rfl | ⟨legible, originLegible⟩
  · exact build_stable stems.built repeats
  · exact build_of_cacheDescription originLegible legible same stems.built repeats

/-- After any events, whatever happens to a kernel that was handed out: once it is evicted, its
step is compiled to an equal kernel if and only if the step is built to it from the dictionaries
that were left. That is so if the kernel was built for the step then. Unless keys of different
descriptions collide, it was built for a request of the description and the options at any rate,
and it is compiled again if the two steps are legible and no dictionary was replaced since. -/
theorem recompilation_reproduces_iff {executor : Executor} (empty : executor.cache.entries = [])
    (valid : executor.registry.Valid) (events : List Event) {step : QueryStep}
    {requested : CompileOptions} {issued : Issued}
    (success : ((executor.after events).compile step requested).1 = .ok issued) :
    let now := ((executor.after events).compile step requested).2
    let options := executor.effectiveOptions step requested
    (now.Reproduces step requested issued.kernel ↔ now.Rebuilds step options issued.kernel) ∧
    ((executor.after events).cache.get (cacheKey step options) = none →
      now.Reproduces step requested issued.kernel) ∧
    (executor.Uncollided events step requested →
      ∃ origin : Origin,
        origin.Of executor (events ++ [.compile step requested]) issued.kernel ∧
        origin.step.cacheDescription = step.cacheDescription ∧
        origin.options executor = options ∧
        (origin.step = step ∨ step.IsLegible ∧ origin.step.IsLegible →
          (executor.after origin.past).registry.Keeps now.registry →
          now.Reproduces step requested issued.kernel)) := by
  intro now options
  have state : now = executor.after (events ++ [.compile step requested]) :=
    (executor.after_compile events step requested).symm
  have validNow : now.registry.Valid := by
    rw [state]
    exact after_valid valid _
  have sameOptions : now.effectiveOptions step requested = options := by
    rw [state]
    exact effectiveOptions_after _ step requested
  have reproduced : now.Reproduces step requested issued.kernel ↔
      now.Rebuilds step options issued.kernel := by
    rw [← sameOptions]
    exact ⟨Reproduces.rebuilds, fun rebuilds => rebuilds.reproduces validNow⟩
  refine ⟨reproduced, ?_, ?_⟩
  · intro missed
    have rebuilt := @rebuilds_of_miss _ (executor.after events) step requested issued
    rw [effectiveOptions_after] at rebuilt
    exact reproduced.mpr (rebuilt missed success)
  · intro distinct
    rcases exists_origin_of_success empty distinct success with
      ⟨origin, stems, description, originOptions⟩
    refine ⟨origin, stems, description, originOptions, ?_⟩
    intro readable keeps
    have rebuilds := stems.rebuilds valid description readable
    rw [← state, originOptions] at rebuilds
    exact reproduced.mpr (rebuilds keeps)

end Digest

theorem recompilation_reproduces_iff_interleaved :
    let executor : Executor := { settings := {}, registry := {}, cache := { capacity := 2 } }
    let events : List Event := [.register 1 ["a"]]
    let step : QueryStep := { targets := [.constant (.encodedText "b" 1)] }
    let later : List Event :=
      [.compile { targets := [.constant (.encodedText "c" 1)] } {}, .create 2,
        .request (.insert 0 "z"), .request .clear]
    let now := ((executor.after events).compile step {}).2
    ∃ first again, ((executor.after events).compile step {}).1 = .ok first ∧
      ((now.after later).compile step {}).1 = .ok again ∧ again.kernel = first.kernel := by
  intro executor events step later now
  have missed : (executor.after events).cache.get
      (cacheKey step ((executor.after events).effectiveOptions step {})) = none :=
    get_of_empty rfl _
  obtain ⟨kernel, success⟩ : ∃ kernel,
      ((executor.after events).compile step {}).1 = .ok ⟨0, kernel⟩ :=
    exists_compiled_of_build rfl (by decide +kernel)
  have lasting : now.Lasting later := ⟨id, id, id, id, trivial⟩
  rcases (recompilation_reproduces_iff rfl Registry.Valid.empty events success).2.1 missed later
    (after_keeps lasting) (get_of_empty rfl _) with ⟨again, result, same, -⟩
  exact ⟨_, again, success, result, same⟩

/-- The description of one string can be the description of two others. A step can then get the
kernel of another, and once that is evicted it gets one of its own. -/
theorem recompilation_does_not_always_reproduce :
    ∃ (executor : Executor) (events : List Event) (step : QueryStep) (first again : Issued),
      let now := ((executor.after events).compile step {}).2
      executor.cache.entries = [] ∧ executor.registry.Valid ∧ executor.Lasting events ∧
      (∀ other wanted, .compile other wanted ∈ events →
        keyDescription other (executor.effectiveOptions other wanted) =
          keyDescription step (executor.effectiveOptions step {})) ∧
      ((executor.after events).compile step {}).1 = .ok first ∧
      (now.clearCache.compile step {}).1 = .ok again ∧
      again.kernel.outputs.length ≠ first.kernel.outputs.length := by
  let executor : Executor := { settings := {}, registry := {}, cache := { capacity := 2 } }
  let one : QueryStep := { targets := [.constant (.ofString "a' TEXT), (Const 'b")] }
  let two : QueryStep := { targets := [.constant (.ofString "a"), .constant (.ofString "b")] }
  have description : one.cacheDescription = two.cacheDescription :=
    Plan.cacheDescription_congr_targets {} (by decide +kernel)
  obtain ⟨kernel, oneBuilt⟩ : ∃ kernel,
      (build executor.settings executor.registry one {}).1 = .ok kernel :=
    exists_of_toBool (by decide +kernel)
  obtain ⟨fresh, twoBuilt⟩ : ∃ fresh, (build executor.settings
      (build executor.settings executor.registry one {}).2 two {}).1 = .ok fresh :=
    exists_of_toBool (by decide +kernel)
  have whole : build executor.settings executor.registry one {} =
      (.ok kernel, (build executor.settings executor.registry one {}).2) := Prod.ext oneBuilt rfl
  rcases @compile_of_built _ executor rfl one two {} description rfl kernel _ whole with
    ⟨first, registry⟩
  have twoWhole : build executor.settings
      (build executor.settings executor.registry one {}).2 two {} = (.ok fresh, _) :=
    Prod.ext twoBuilt rfl
  have settings := compile_settings (executor.after [.compile one {}]) two {}
  rw [after_settings] at settings
  obtain ⟨again, result, rebuilt⟩ : ∃ again,
      (((executor.after [.compile one {}]).compile two {}).2.clearCache.compile two {}).1 =
        .ok again ∧ again.kernel = fresh := by
    rw [compile_result_of_clear, effectiveOptions, settings, registry]
    exact ⟨_, map_eq_ok.mpr ⟨fresh, twoBuilt, rfl⟩, rfl⟩
  refine ⟨executor, [.compile one {}], two, ⟨0, kernel⟩, again, rfl, Registry.Valid.empty,
    ⟨id, trivial⟩, keyDescription_of_mem_singleton description rfl, first, result, ?_⟩
  rw [rebuilt, build_outputs_length whole, build_outputs_length twoWhole]
  decide

end QueryKernel.Executor
