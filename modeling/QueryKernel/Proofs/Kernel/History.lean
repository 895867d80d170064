import QueryKernel.Proofs.Kernel.Compilation
import QueryKernel.Proofs.Kernel.Recency

/-!
Contract: what the code cache holds after any requests to one executor.

Owns:
- requests, and the state after a number of them;
- the invariant of the cache: every kernel in it is what some earlier step would be built to now;
- its preservation by every request.

Does not own: whether two steps share an entry of the cache.
-/

namespace QueryKernel

open QueryKernel.Plan (QueryStep)
open QueryKernel.Sql (Constant)
open QueryKernel.Dictionary (Registry)

namespace Executor

/-! ### Requests -/

/-- A request to an executor, or an insertion into its dictionaries by someone else. -/
inductive Request where
  | compile (step : QueryStep) (requested : CompileOptions)
  | clear
  | insert (handle : Nat) (value : String)

variable [Hash.Digest]

def respond (executor : Executor) : Request → Executor
  | .compile step requested => (executor.compile step requested).2
  | .clear => executor.clearCache
  | .insert handle value =>
      { executor with registry := (executor.registry.idOf handle value).2 }

def serve (executor : Executor) (requests : List Request) : Executor :=
  requests.foldl respond executor

/-- The step that a request compiles, with the options that it is really compiled with. -/
def compilation? (executor : Executor) : Request → Option (QueryStep × CompileOptions)
  | .compile step requested => some (step, executor.effectiveOptions step requested)
  | _ => none

def compilations (executor : Executor) (requests : List Request) :
    List (QueryStep × CompileOptions) :=
  requests.filterMap executor.compilation?

/-! ### The invariant -/

/-- Every cached kernel is what one of the steps would be built to now. -/
structure Sound (executor : Executor) (settings : Settings)
    (past : List (QueryStep × CompileOptions)) : Prop where
  settings : executor.settings = settings
  cached : ∀ key issued, (key, issued) ∈ executor.cache.entries →
    ∃ step options, (step, options) ∈ past ∧ cacheKey step options = key ∧
      build executor.settings executor.registry step options =
        (.ok issued.kernel, executor.registry)

theorem Sound.empty {executor : Executor} (empty : executor.cache.entries = []) :
    executor.Sound executor.settings [] where
  settings := rfl
  cached := by
    intro key issued member
    rw [empty] at member
    contradiction

/-- A step that was built is built to the same kernel wherever the dictionaries repeat their
answers. -/
theorem build_stable {settings : Settings} {registry after later : Registry} {step : QueryStep}
    {options : CompileOptions} {kernel : Kernel}
    (built : build settings registry step options = (.ok kernel, after))
    (repeats : after.Repeats later) : build settings later step options = (.ok kernel, later) :=
  build_again (List.forall₂_same.mpr fun constant _ => .refl constant) rfl rfl built repeats

/-- The invariant survives growth of the dictionaries and entries that come from new steps. -/
theorem Sound.step {executor next : Executor} {settings : Settings}
    {past added : List (QueryStep × CompileOptions)} (sound : executor.Sound settings past)
    (sameSettings : next.settings = executor.settings)
    (grows : executor.registry.Grows next.registry)
    (entries : ∀ key issued, (key, issued) ∈ next.cache.entries →
      (key, issued) ∈ executor.cache.entries ∨
      ∃ step options, (step, options) ∈ added ∧ cacheKey step options = key ∧
        build next.settings next.registry step options = (.ok issued.kernel, next.registry)) :
    next.Sound settings (past ++ added) where
  settings := sameSettings.trans sound.settings
  cached := by
    intro key issued member
    rcases entries key issued member with old | ⟨step, options, asked, keyed, built⟩
    · rcases sound.cached key issued old with ⟨step, options, asked, keyed, built⟩
      rw [sameSettings]
      exact ⟨step, options, List.mem_append_left _ asked, keyed, build_stable built grows.repeats⟩
    · exact ⟨step, options, List.mem_append_right _ asked, keyed, built⟩

/-- A step whose key is in the cache gets the kernel that is there. -/
theorem compile_of_hit {executor : Executor} {step : QueryStep} {requested : CompileOptions}
    {issued : Issued} {cache : CodeCache}
    (found : executor.cache.get (cacheKey step (executor.effectiveOptions step requested)) =
      some (issued, cache)) :
    executor.compile step requested = (.ok issued, { executor with cache }) := by
  unfold compile
  unfold effectiveOptions at found
  simp only [found]

/-- What was handed out is found by the next request for it. -/
theorem get_of_compile {executor : Executor} {step : QueryStep} {requested : CompileOptions}
    {issued : Issued} (success : (executor.compile step requested).1 = .ok issued) :
    ∃ later, (executor.compile step requested).2.cache.get
      (cacheKey step (executor.effectiveOptions step requested)) = some (issued, later) := by
  cases looked : executor.cache.get (cacheKey step (executor.effectiveOptions step requested)) with
  | some hit =>
      rcases hit with ⟨found, cache⟩
      rw [compile_of_hit looked] at success ⊢
      cases success
      exact CodeCache.get_again looked
  | none =>
      rw [compile_of_miss looked] at success ⊢
      split at success
      · contradiction
      · rename_i kernel registry built
        cases success
        rw [← build_key built] at looked ⊢
        exact CodeCache.get_of_insert looked

/-! ### What a compilation changes -/

section Compilation

variable (executor : Executor) (step : QueryStep) (requested : CompileOptions)

theorem compile_settings : (executor.compile step requested).2.settings = executor.settings := by
  cases looked : executor.cache.get (cacheKey step (executor.effectiveOptions step requested)) with
  | some hit =>
      rcases hit with ⟨issued, cache⟩
      rw [compile_of_hit looked]
  | none =>
      rw [compile_of_miss looked]
      split <;> rfl

theorem compile_grows : executor.registry.Grows (executor.compile step requested).2.registry := by
  have grows := build_grows executor.settings executor.registry step
    (executor.effectiveOptions step requested)
  cases looked : executor.cache.get (cacheKey step (executor.effectiveOptions step requested)) with
  | some hit =>
      rcases hit with ⟨issued, cache⟩
      rw [compile_of_hit looked]
      exact .refl _
  | none =>
      rw [compile_of_miss looked]
      split
      · rename_i failure registry built
        rw [built] at grows
        exact grows
      · rename_i kernel registry built
        rw [built] at grows
        exact grows

variable {executor step requested}

/-- A kernel is in the cache because it was there before, or because it was built. -/
theorem compile_entries {key : UInt64} {issued : Issued}
    (member : (key, issued) ∈ (executor.compile step requested).2.cache.entries) :
    (key, issued) ∈ executor.cache.entries ∨
      key = issued.kernel.key ∧
        build executor.settings executor.registry step
          (executor.effectiveOptions step requested) =
            (.ok issued.kernel, (executor.compile step requested).2.registry) := by
  cases looked : executor.cache.get (cacheKey step (executor.effectiveOptions step requested)) with
  | some hit =>
      rcases hit with ⟨found, cache⟩
      rw [compile_of_hit looked] at member
      exact .inl (CodeCache.get_entries looked ▸ member)
  | none =>
      rw [compile_of_miss looked] at member ⊢
      split at member
      · exact .inl member
      · rename_i kernel registry built
        rcases CodeCache.mem_insert member with old | new
        · exact .inl old
        · cases new
          rw [built]
          exact .inr ⟨rfl, rfl⟩

end Compilation

/-! ### Requests keep the invariant -/

theorem Sound.compile {executor : Executor} {settings : Settings}
    {past : List (QueryStep × CompileOptions)} (sound : executor.Sound settings past)
    (step : QueryStep) (requested : CompileOptions) :
    (executor.compile step requested).2.Sound settings
      (past ++ [(step, executor.effectiveOptions step requested)]) := by
  have sameSettings := compile_settings executor step requested
  apply sound.step sameSettings (compile_grows executor step requested)
  intro key issued member
  rcases compile_entries member with old | ⟨rfl, built⟩
  · exact .inl old
  · refine .inr ⟨step, _, List.mem_singleton.mpr rfl, (build_key built).symm, ?_⟩
    rw [sameSettings]
    exact build_stable built (Registry.Grows.refl _).repeats

theorem Sound.respond {executor : Executor} {settings : Settings}
    {past : List (QueryStep × CompileOptions)} (sound : executor.Sound settings past)
    (request : Request) :
    (executor.respond request).Sound settings
      (past ++ (executor.compilation? request).toList) := by
  cases request with
  | compile step requested => exact sound.compile step requested
  | clear =>
      refine sound.step rfl (.refl _) ?_
      intro key issued member
      contradiction
  | insert handle value =>
      refine sound.step rfl (Registry.idOf_grows executor.registry handle value) ?_
      intro key issued member
      exact .inl member

omit [Hash.Digest] in
theorem compilation?_of_settings {executor other : Executor}
    (settings : other.settings = executor.settings) (request : Request) :
    other.compilation? request = executor.compilation? request := by
  cases request with
  | compile step requested =>
      rw [compilation?, compilation?, effectiveOptions, effectiveOptions, settings]
  | clear => rfl
  | insert handle value => rfl

/-- Every cached kernel is what one of the requested steps would be built to now. -/
theorem Sound.serve {executor : Executor} {settings : Settings}
    {past : List (QueryStep × CompileOptions)} (sound : executor.Sound settings past)
    (requests : List Request) :
    (executor.serve requests).Sound settings (past ++ executor.compilations requests) := by
  induction requests generalizing executor past with
  | nil =>
      rw [compilations, List.filterMap_nil, List.append_nil]
      exact sound
  | cons request rest inductionHypothesis =>
      have next := sound.respond request
      have same : (executor.respond request).compilation? = executor.compilation? := by
        funext other
        exact compilation?_of_settings (next.settings.trans sound.settings.symm) other
      have behind := inductionHypothesis next
      rw [compilations, same, List.append_assoc] at behind
      rw [compilations, List.filterMap_cons]
      cases asked : executor.compilation? request with
      | none =>
          rw [asked] at behind
          exact behind
      | some compilation =>
          rw [asked] at behind
          exact behind

end Executor

end QueryKernel
