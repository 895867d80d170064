import QueryKernel.Proofs.Kernel.History

/-!
Contract: which kernels an executor still has when a step comes back.

Owns:
- what a request does to the code cache, as operations on it;
- the keys that requests use: those of the compilations that succeed;
- the main statement: the code cache is an exact cache of the kernels used last, so a step gets the
  very same kernel again until as many other keys were used as the cache has room for.

Does not own: whether a kernel is the right one for a step.
-/

namespace QueryKernel

open QueryKernel.Plan (QueryStep)
open QueryKernel.Dictionary (Registry)
open QueryKernel.CodeCache (Operation)

namespace Executor

/-! ### Requests as operations on the cache -/

section Digest

variable [Hash.Digest]

/-- The operations on the code cache by which an executor answers a request. -/
def operations (executor : Executor) : Request → List Operation
  | .compile step requested =>
      let options := executor.effectiveOptions step requested
      let lookup := Operation.get (cacheKey step options)
      match executor.cache.get (cacheKey step options) with
      | some _ => [lookup]
      | none =>
          match (build executor.settings executor.registry step options).1 with
          | .error _ => [lookup]
          | .ok kernel => [lookup, .insert ⟨executor.compiled, kernel⟩]
  | .clear => [.clear]
  | .insert _ _ => []

/-- The key that a request uses: that of a compilation, if it succeeds. -/
def usedKey? (executor : Executor) : Request → Option UInt64
  | .compile step requested =>
      (executor.compile step requested).1.toOption.map fun _ =>
        cacheKey step (executor.effectiveOptions step requested)
  | _ => none

/-- The keys that requests use, in order. -/
def usedKeys (executor : Executor) : List Request → List UInt64
  | [] => []
  | request :: rest =>
      (executor.usedKey? request).toList ++ (executor.respond request).usedKeys rest

section Requests

variable {executor : Executor}

theorem respond_settings (executor : Executor) (request : Request) :
    (executor.respond request).settings = executor.settings := by
  cases request with
  | clear => rfl
  | insert handle value => rfl
  | compile step requested => exact compile_settings executor step requested

theorem serve_settings (executor : Executor) (requests : List Request) :
    (executor.serve requests).settings = executor.settings := by
  induction requests generalizing executor with
  | nil => rfl
  | cons request rest inductionHypothesis =>
      exact (inductionHypothesis (executor.respond request)).trans
        (respond_settings executor request)

/-- The cache behind a request is the one behind its operations. -/
theorem respond_cache (executor : Executor) (request : Request) :
    (executor.respond request).cache = executor.cache.serve (executor.operations request) := by
  cases request with
  | clear => rfl
  | insert handle value => rfl
  | compile step requested =>
      cases looked : executor.cache.get
          (cacheKey step (executor.effectiveOptions step requested)) with
      | some hit =>
          rcases hit with ⟨issued, cache⟩
          simp only [respond, compile_of_hit looked, operations, looked, CodeCache.serve,
            List.foldl_cons, List.foldl_nil, CodeCache.respond]
      | none =>
          simp only [respond, compile_of_miss looked, operations, looked]
          cases built : build executor.settings executor.registry step
              (executor.effectiveOptions step requested) with
          | mk outcome registry =>
              cases outcome with
              | error failure =>
                  simp only [CodeCache.serve, List.foldl_cons, List.foldl_nil, CodeCache.respond,
                    looked]
              | ok kernel =>
                  simp only [CodeCache.serve, List.foldl_cons, List.foldl_nil, CodeCache.respond,
                    looked]

theorem usedKey?_of_ok {step : QueryStep} {requested : CompileOptions} {issued : Issued}
    (success : (executor.compile step requested).1 = .ok issued) :
    executor.usedKey? (.compile step requested) =
      some (cacheKey step (executor.effectiveOptions step requested)) := by
  rw [usedKey?, success]
  rfl

/-- A compilation that fails leaves the cache alone, its queue included. -/
theorem cache_of_error {step : QueryStep} {requested : CompileOptions} {failure : Error}
    (failed : (executor.compile step requested).1 = .error failure) :
    (executor.compile step requested).2.cache = executor.cache := by
  cases looked : executor.cache.get
      (cacheKey step (executor.effectiveOptions step requested)) with
  | some hit =>
      rw [compile_of_hit looked] at failed
      contradiction
  | none =>
      rw [compile_of_miss looked] at failed ⊢
      split at failed
      · rfl
      · contradiction

/-- A compilation that succeeds either finds its kernel or inserts it. -/
theorem compile_cases {step : QueryStep} {requested : CompileOptions} {issued : Issued}
    (success : (executor.compile step requested).1 = .ok issued) :
    let key := cacheKey step (executor.effectiveOptions step requested)
    executor.cache.get key = some (issued, (executor.compile step requested).2.cache) ∨
      issued.kernel.key = key ∧ executor.cache.get key = none ∧
        (executor.compile step requested).2.cache = (executor.cache.insert issued).2 := by
  intro key
  cases looked : executor.cache.get key with
  | some hit =>
      left
      rw [compile_of_hit looked] at success ⊢
      cases success
      rfl
  | none =>
      right
      rw [compile_of_miss looked] at success ⊢
      split at success
      · contradiction
      · rename_i kernel registry built
        cases success
        exact ⟨build_key built, rfl, rfl⟩

end Requests

/-! ### What requests keep -/

section Keeping

variable {executor : Executor} {ledger : Ledger} {key : UInt64} {issued : Issued}
  {others : Finset UInt64}

/-- A request keeps the cache behind some ledger. -/
theorem respond_mirrors (mirrors : executor.cache.Mirrors ledger)
    (positive : 0 < executor.cache.capacity) (request : Request) :
    (executor.respond request).cache.capacity = executor.cache.capacity ∧
      ∃ next : Ledger, (executor.respond request).cache.Mirrors next := by
  rw [respond_cache]
  rcases mirrors.serve positive (executor.operations request) with ⟨capacity, next⟩
  exact ⟨capacity, _, next⟩

/-- The cache of an executor follows some ledger, whatever was asked of it. -/
theorem serve_mirrors (mirrors : executor.cache.Mirrors ledger)
    (positive : 0 < executor.cache.capacity) (requests : List Request) :
    (executor.serve requests).cache.capacity = executor.cache.capacity ∧
      ∃ next : Ledger, (executor.serve requests).cache.Mirrors next := by
  induction requests generalizing executor ledger with
  | nil => exact ⟨rfl, ledger, mirrors⟩
  | cons request rest inductionHypothesis =>
      rcases respond_mirrors mirrors positive request with ⟨capacity, next, mirrorsNext⟩
      rcases inductionHypothesis mirrorsNext (capacity ▸ positive) with ⟨same, last⟩
      exact ⟨same.trans capacity, last⟩

/-- A kernel that was handed out is kept. -/
theorem compile_keeps (mirrors : executor.cache.Mirrors ledger)
    (positive : 0 < executor.cache.capacity) {step : QueryStep} {requested : CompileOptions}
    (success : (executor.compile step requested).1 = .ok issued) (others : Finset UInt64) :
    ∃ next : Ledger, (executor.compile step requested).2.cache.Mirrors next ∧
      next.Keeps (cacheKey step (executor.effectiveOptions step requested)) issued others := by
  rcases compile_cases success with found | ⟨keyed, absent, inserted⟩
  · have looked := (CodeCache.get_eq_some_iff.mp found).1
    have held := (mirrors.kernels _).symm.trans looked
    rw [(CodeCache.get_eq_some_iff.mp found).2]
    exact ⟨_, mirrors.touch (mirrors.mem_recency looked), ledger.brought_of_kernel? held,
      ledger.used, [], rfl, List.not_mem_nil, by simp⟩
  · rw [inserted, ← keyed]
    rw [← keyed] at absent
    exact ⟨_, mirrors.bring positive absent, List.lookup_cons_self,
      ledger.used, [], rfl, List.not_mem_nil, by simp⟩

/-- A request that uses no key but the kept one and fewer others than there is room for keeps
it. -/
theorem respond_keeps (mirrors : executor.cache.Mirrors ledger)
    (keeps : ledger.Keeps key issued others) (few : others.card < executor.cache.capacity)
    {request : Request} (uncleared : request ≠ .clear)
    (among : ∀ used ∈ executor.usedKey? request, used = key ∨ used ∈ others) :
    ∃ next : Ledger, (executor.respond request).cache.Mirrors next ∧
      next.Keeps key issued others := by
  have positive : 0 < executor.cache.capacity := Nat.lt_of_le_of_lt (Nat.zero_le _) few
  cases request with
  | clear => exact absurd rfl uncleared
  | insert handle value => exact ⟨ledger, mirrors, keeps⟩
  | compile step requested =>
      change ∃ next : Ledger, (executor.compile step requested).2.cache.Mirrors next ∧ _
      cases outcome : (executor.compile step requested).1 with
      | error failure =>
          rw [cache_of_error outcome]
          exact ⟨ledger, mirrors, keeps⟩
      | ok handedOut =>
          have used := among _ (usedKey?_of_ok outcome)
          rcases compile_cases outcome with found | ⟨keyed, absent, inserted⟩
          · have looked := (CodeCache.get_eq_some_iff.mp found).1
            rw [(CodeCache.get_eq_some_iff.mp found).2]
            exact ⟨_, mirrors.touch (mirrors.mem_recency looked), keeps.use used⟩
          · rw [inserted]
            rw [← keyed] at absent used
            have different : handedOut.kernel.key ≠ key := by
              intro same
              have held := (mirrors.kernels key).trans (keeps.kernel? few)
              rw [same, CodeCache.get_eq_none_iff, held] at absent
              contradiction
            exact ⟨_, mirrors.bring positive absent,
              keeps.bring different (used.resolve_left different)⟩

/-- Requests keep a kernel as long as they use fewer other keys than there is room for. -/
theorem serve_keeps (mirrors : executor.cache.Mirrors ledger)
    (keeps : ledger.Keeps key issued others) (few : others.card < executor.cache.capacity)
    {requests : List Request} (uncleared : Request.clear ∉ requests)
    (among : ∀ used ∈ executor.usedKeys requests, used = key ∨ used ∈ others) :
    ∃ later, (executor.serve requests).cache.get key = some (issued, later) := by
  induction requests generalizing executor ledger with
  | nil =>
      refine ⟨_, CodeCache.get_eq_some_iff.mpr ⟨?_, rfl⟩⟩
      exact (mirrors.kernels key).trans (keeps.kernel? few)
  | cons request rest inductionHypothesis =>
      rcases not_or.mp (mt List.mem_cons.mpr uncleared) with ⟨here, behind⟩
      rw [usedKeys] at among
      have positive : 0 < executor.cache.capacity := Nat.lt_of_le_of_lt (Nat.zero_le _) few
      rcases respond_keeps mirrors keeps few (Ne.symm here) (fun used asked =>
        among used (List.mem_append_left _ (Option.mem_toList.mpr asked))) with
        ⟨next, mirrorsNext, keepsNext⟩
      rw [← (respond_mirrors mirrors positive request).1] at few
      exact inductionHypothesis mirrorsNext keepsNext few behind
        fun used asked => among used (List.mem_append_right _ asked)

/-- A step that was compiled gets the same kernel again. -/
theorem compile_again (mirrors : executor.cache.Mirrors ledger)
    (positive : 0 < executor.cache.capacity) {step : QueryStep} {requested : CompileOptions}
    (success : (executor.compile step requested).1 = .ok issued) {later : List Request}
    (uncleared : Request.clear ∉ later)
    (few : ((((executor.compile step requested).2.usedKeys later).toFinset.erase
      (cacheKey step (executor.effectiveOptions step requested))).card <
        executor.cache.capacity)) :
    (((executor.compile step requested).2.serve later).compile step requested).1 = .ok issued := by
  rcases compile_keeps mirrors positive success _ with ⟨next, mirrorsNext, keeps⟩
  have capacity := (respond_mirrors mirrors positive (.compile step requested)).1
  have settings := respond_settings executor (.compile step requested)
  change (executor.compile step requested).2.settings = _ at settings
  change (executor.compile step requested).2.cache.capacity = _ at capacity
  rw [← capacity] at few
  rcases serve_keeps mirrorsNext keeps few uncleared (fun used asked => by
    by_cases same : used = cacheKey step (executor.effectiveOptions step requested)
    · exact .inl same
    · exact .inr (Finset.mem_erase.mpr ⟨same, List.mem_toFinset.mpr asked⟩)) with
    ⟨cache, found⟩
  have options : ((executor.compile step requested).2.serve later).effectiveOptions step requested =
      executor.effectiveOptions step requested := by
    rw [effectiveOptions, effectiveOptions, serve_settings, settings]
  rw [← options] at found
  rw [compile_of_hit found]

end Keeping

/-! ### The main statement -/

omit [Hash.Digest] in
theorem start_eq_ok {settings : Settings} {registry : Registry} {executor : Executor}
    (started : start settings registry = .ok executor) :
    0 < settings.cacheSize ∧
      executor = { settings, registry, cache := { capacity := settings.cacheSize } } := by
  unfold start Settings.validate at started
  split at started
  · contradiction
  · rename_i roomy
    split at started
    · contradiction
    · cases started
      exact ⟨Nat.pos_of_ne_zero roomy, rfl⟩

/-- The code cache is an exact cache of the kernels used last. For its executor this means: a
compilation that fails leaves the cached kernels and their order alone, and a compilation that
succeeds gets the very same kernel again, unless the cache was cleared or the compilations between
used as many other keys as there is room for. -/
theorem code_cache_keeps_the_last_used :
    (∀ capacity, 0 < capacity → ∀ operations : List Operation,
      CodeCache.Exact capacity (CodeCache.serve { capacity } operations)
        (Ledger.serve capacity {} operations)) ∧
    ∀ settings registry executor, start settings registry = .ok executor →
      ∀ (requests : List Request) (step : QueryStep) (requested : CompileOptions),
        let now := executor.serve requests
        let key := cacheKey step (now.effectiveOptions step requested)
        let next := (now.compile step requested).2
        (∀ failure, (now.compile step requested).1 = .error failure → next.cache = now.cache) ∧
        ∀ issued, (now.compile step requested).1 = .ok issued →
          ∀ later, Request.clear ∉ later →
            ((next.usedKeys later).toFinset.erase key).card ≤ settings.cacheSize - 1 →
            ((next.serve later).compile step requested).1 = .ok issued := by
  refine ⟨fun capacity positive operations => CodeCache.exact_serve positive operations, ?_⟩
  intro settings registry executor started requests step requested now key next
  rcases start_eq_ok started with ⟨positive, initial⟩
  have empty : executor.cache = { capacity := settings.cacheSize } := by rw [initial]
  have sized : executor.cache.capacity = settings.cacheSize := by rw [empty]
  have mirrorsEmpty : executor.cache.Mirrors {} := by
    rw [empty]
    exact .empty settings.cacheSize
  rcases serve_mirrors mirrorsEmpty (sized ▸ positive) requests with ⟨same, ledger, mirrors⟩
  have capacity : now.cache.capacity = settings.cacheSize := same.trans sized
  refine ⟨fun failure failed => cache_of_error failed, ?_⟩
  intro issued success later uncleared few
  have room : (((next.usedKeys later).toFinset.erase key)).card < now.cache.capacity := by
    rw [capacity]
    omega
  exact compile_again mirrors (capacity ▸ positive) success uncleared room

end Digest

/-- A second step takes one of two places. -/
theorem code_cache_keeps_the_last_used_between :
    let settings : Settings := { cacheSize := 2 }
    let one : QueryStep := { targets := [.constant (.smallInt 7)] }
    let two : QueryStep := { targets := [.constant (.smallInt 8)] }
    ∃ executor issued, start settings {} = .ok executor ∧
      ((executor.serve []).compile one {}).1 = .ok issued ∧
      ((((executor.serve []).compile one {}).2.serve [.compile two {}]).compile one {}).1 =
        .ok issued := by
  intro settings one two
  let executor : Executor := { settings, registry := {}, cache := { capacity := 2 } }
  have started : start settings {} = .ok executor := rfl
  obtain ⟨issued, success⟩ : ∃ issued, ((executor.serve []).compile one {}).1 = .ok issued :=
    exists_of_toBool (by decide +kernel)
  refine ⟨executor, issued, started, success, ?_⟩
  apply (code_cache_keeps_the_last_used.2 settings {} executor started [] one {}).2 issued success
  · exact List.not_mem_cons_of_ne_of_not_mem (by simp) List.not_mem_nil
  · refine Nat.le_trans Finset.card_erase_le (Nat.le_trans (List.toFinset_card_le _) ?_)
    rw [usedKeys, usedKeys, List.append_nil]
    exact Option.length_toList_le

end Executor

end QueryKernel
