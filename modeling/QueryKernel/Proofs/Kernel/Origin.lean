import Mathlib.Data.List.Induction
import QueryKernel.Proofs.Dictionary.Binding
import QueryKernel.Proofs.Kernel.Reuse

/-!
Contract: every kernel that is handed out was built for a request of the history.

Here a history may also create dictionaries, register them and bind ids to them anew, so that the
dictionaries of today need not be those that a cached kernel was built with.

Owns:
- events, and the state after them;
- what events keep: the settings, valid dictionaries, whatever a dictionary holds, and bindings
  where no dictionary is replaced;
- the origin of a kernel in a history, and that every cached kernel has one;
- the origin of the kernel that a step gets, if keys of different descriptions do not collide.

Does not own: whether a kernel still fits the dictionaries.
-/

namespace QueryKernel.Executor

open QueryKernel.Plan (QueryStep)
open QueryKernel.Dictionary (Registry)

/-! ### Events -/

/-- What happens to an executor and its dictionaries. Besides the requests, an id is bound to an
empty dictionary if it was free, to a new dictionary of some strings, or to a dictionary that is
held already. -/
inductive Event where
  | request (request : Request)
  | create (id : Int32)
  | register (id : Int32) (values : List String)
  | share (id : Int32) (handle : Nat)

abbrev Event.compile (step : QueryStep) (requested : CompileOptions) : Event :=
  .request (.compile step requested)

theorem compile_mem_singleton {step other : QueryStep} {requested wanted : CompileOptions} :
    Event.compile other wanted ∈ [Event.compile step requested] ↔
      other = step ∧ wanted = requested := by
  rw [List.mem_singleton, Event.request.injEq, Request.compile.injEq]

variable [Hash.Digest]

def undergo (executor : Executor) : Event → Executor
  | .request request => executor.respond request
  | .create id => { executor with registry := (executor.registry.findOrCreate id).2 }
  | .register id values =>
      { executor with registry := executor.registry.register id (.ofList values) }
  | .share id handle => { executor with registry := executor.registry.share id handle }

def after (executor : Executor) (events : List Event) : Executor := events.foldl undergo executor

theorem after_append (executor : Executor) (front back : List Event) :
    executor.after (front ++ back) = (executor.after front).after back := List.foldl_append

theorem after_concat (executor : Executor) (events : List Event) (event : Event) :
    executor.after (events ++ [event]) = (executor.after events).undergo event :=
  executor.after_append events [event]

theorem after_compile (executor : Executor) (events : List Event) (step : QueryStep)
    (requested : CompileOptions) :
    executor.after (events ++ [.compile step requested]) =
      ((executor.after events).compile step requested).2 :=
  executor.after_concat events (.compile step requested)

omit [Hash.Digest] in
/-- A free id is created by registering an empty dictionary. -/
theorem findOrCreate_cases (registry : Registry) (id : Int32) :
    (registry.findOrCreate id).2 = registry ∨
      registry.handle? id = none ∧
        (registry.findOrCreate id).2 = registry.register id (.ofList []) := by
  unfold Registry.findOrCreate
  cases registry.handle? id with
  | some handle => exact .inl rfl
  | none => exact .inr ⟨rfl, rfl⟩

section Events

variable (executor : Executor)

theorem respond_grows (request : Request) :
    executor.registry.Grows (executor.respond request).registry := by
  cases request with
  | compile step requested => exact compile_grows executor step requested
  | clear => exact .refl _
  | insert handle value => exact Registry.idOf_grows executor.registry handle value

theorem undergo_settings (event : Event) :
    (executor.undergo event).settings = executor.settings := by
  cases event with
  | request request =>
      cases request with
      | compile step requested => exact compile_settings executor step requested
      | clear => rfl
      | insert handle value => rfl
  | create id => rfl
  | register id values => rfl
  | share id handle => rfl

theorem undergo_evolves (event : Event) :
    executor.registry.Evolves (executor.undergo event).registry := by
  cases event with
  | request request => exact (respond_grows executor request).evolves
  | create id =>
      show executor.registry.Evolves (executor.registry.findOrCreate id).2
      rcases findOrCreate_cases executor.registry id with same | ⟨-, new⟩
      · rw [same]
        exact .refl _
      · rw [new]
        exact Registry.register_evolves executor.registry id []
  | register id values => exact Registry.register_evolves executor.registry id values
  | share id handle => exact Registry.share_evolves executor.registry id handle

variable {executor}

theorem undergo_valid (valid : executor.registry.Valid) (event : Event) :
    (executor.undergo event).registry.Valid := by
  cases event with
  | request request => exact (respond_grows executor request).valid valid
  | create id =>
      show (executor.registry.findOrCreate id).2.Valid
      rcases findOrCreate_cases executor.registry id with same | ⟨-, new⟩
      · rw [same]
        exact valid
      · rw [new]
        exact valid.register id (Dictionary.ofList_distinct [])
  | register id values => exact valid.register id (Dictionary.ofList_distinct values)
  | share id handle => exact valid.share id handle

theorem after_settings (events : List Event) :
    (executor.after events).settings = executor.settings := by
  induction events generalizing executor with
  | nil => rfl
  | cons event rest inductionHypothesis =>
      exact inductionHypothesis.trans (undergo_settings executor event)

theorem after_evolves (events : List Event) :
    executor.registry.Evolves (executor.after events).registry := by
  induction events generalizing executor with
  | nil => exact .refl _
  | cons event rest inductionHypothesis =>
      exact (undergo_evolves executor event).trans inductionHypothesis

theorem after_valid (valid : executor.registry.Valid) (events : List Event) :
    (executor.after events).registry.Valid := by
  induction events generalizing executor with
  | nil => exact valid
  | cons event rest inductionHypothesis =>
      exact inductionHypothesis (undergo_valid valid event)

/-- The settings decide on the options, so these do not change. -/
theorem effectiveOptions_after (events : List Event) (step : QueryStep)
    (requested : CompileOptions) :
    (executor.after events).effectiveOptions step requested =
      executor.effectiveOptions step requested := by
  rw [effectiveOptions, effectiveOptions, after_settings]

end Events

/-! ### Replaced dictionaries -/

/-- The event binds an id that is bound already, and to another dictionary. -/
def Event.Replaces (registry : Registry) : Event → Prop
  | .register id _ => (registry.handle? id).isSome = true
  | .share id handle => ∃ bound, registry.handle? id = some bound ∧ bound ≠ handle
  | _ => False

/-- No event replaces a dictionary. -/
def Lasting (executor : Executor) : List Event → Prop
  | [] => True
  | event :: rest => ¬ event.Replaces executor.registry ∧ (executor.undergo event).Lasting rest

theorem undergo_keeps {executor : Executor} {event : Event}
    (lasting : ¬ event.Replaces executor.registry) :
    executor.registry.Keeps (executor.undergo event).registry := by
  cases event with
  | request request => exact (respond_grows executor request).keeps
  | create id =>
      show executor.registry.Keeps (executor.registry.findOrCreate id).2
      rcases findOrCreate_cases executor.registry id with same | ⟨free, new⟩
      · rw [same]
        exact .refl _
      · rw [new]
        exact Registry.register_keeps free _
  | register id values =>
      apply Registry.register_keeps
      rw [← Option.not_isSome_iff_eq_none]
      exact lasting
  | share id shared =>
      intro other handle found
      show (executor.registry.share id shared).handle? other = some handle
      by_cases held : shared < executor.registry.dictionaries.size
      · rw [Registry.handle?_share _ _ held]
        by_cases same : other = id
        · subst same
          rw [if_pos rfl]
          apply congrArg some
          exact Eq.symm (Decidable.not_not.mp fun different => lasting ⟨handle, found, different⟩)
        · rw [if_neg same]
          exact found
      · rw [Registry.share, if_neg held]
        exact found

/-- Where no dictionary is replaced, ids stay bound to their dictionaries. -/
theorem after_keeps {executor : Executor} {events : List Event}
    (lasting : executor.Lasting events) :
    executor.registry.Keeps (executor.after events).registry := by
  induction events generalizing executor with
  | nil => exact .refl _
  | cons event rest inductionHypothesis =>
      intro id handle found
      exact inductionHypothesis lasting.2 id handle (undergo_keeps lasting.1 id handle found)

/-! ### Origins -/

/-- A request to compile a step, with the events before and after it. -/
structure Origin where
  front : List Event
  step : QueryStep
  requested : CompileOptions
  back : List Event

namespace Origin

/-- The events up to the request, the request included. -/
def past (origin : Origin) : List Event :=
  origin.front ++ [.compile origin.step origin.requested]

def options (origin : Origin) (executor : Executor) : CompileOptions :=
  executor.effectiveOptions origin.step origin.requested

/-- The history goes through the request, for which the kernel was built. -/
structure Of (origin : Origin) (executor : Executor) (history : List Event) (kernel : Kernel) :
    Prop where
  split : history = origin.past ++ origin.back
  built : build executor.settings (executor.after origin.front).registry origin.step
    (origin.options executor) = (.ok kernel, (executor.after origin.past).registry)

/-- The state at the end of the history comes from the one in which the kernel was built. -/
theorem Of.after_eq {origin : Origin} {executor : Executor} {history : List Event} {kernel : Kernel}
    (stems : origin.Of executor history kernel) :
    executor.after history = (executor.after origin.past).after origin.back := by
  rw [stems.split, after_append]

/-- The dictionaries of the origin are still there. -/
theorem Of.evolves {origin : Origin} {executor : Executor} {history : List Event} {kernel : Kernel}
    (stems : origin.Of executor history kernel) :
    (executor.after origin.past).registry.Evolves (executor.after history).registry := by
  rw [stems.after_eq]
  exact after_evolves origin.back

theorem Of.extend {origin : Origin} {executor : Executor} {history : List Event} {kernel : Kernel}
    (stems : origin.Of executor history kernel) (more : List Event) :
    Of { origin with back := origin.back ++ more } executor (history ++ more) kernel where
  split := by
    rw [stems.split, List.append_assoc]
    rfl
  built := stems.built

theorem Of.asked {origin : Origin} {executor : Executor} {history : List Event} {kernel : Kernel}
    (stems : origin.Of executor history kernel) :
    .compile origin.step origin.requested ∈ history := by
  rw [stems.split, past, List.append_assoc]
  exact List.mem_append_right _ List.mem_cons_self

theorem Of.key {origin : Origin} {executor : Executor} {history : List Event} {kernel : Kernel}
    (stems : origin.Of executor history kernel) :
    kernel.key = cacheKey origin.step (origin.options executor) :=
  build_key stems.built

end Origin

/-- Different compilations among the events and this one, that have one key, have one
description. -/
def Uncollided (executor : Executor) (events : List Event) (step : QueryStep)
    (requested : CompileOptions) : Prop :=
  ∀ other wanted, .compile other wanted ∈ events →
    cacheKey other (executor.effectiveOptions other wanted) =
      cacheKey step (executor.effectiveOptions step requested) →
    keyDescription other (executor.effectiveOptions other wanted) =
      keyDescription step (executor.effectiveOptions step requested)

omit [Hash.Digest] in
/-- A step has the key of the only other one before it, if it has its description and options. -/
theorem keyDescription_of_mem_singleton {executor : Executor} {first step : QueryStep}
    {requested : CompileOptions} (description : first.cacheDescription = step.cacheDescription)
    (options : executor.effectiveOptions first requested =
      executor.effectiveOptions step requested) (other : QueryStep) (wanted : CompileOptions)
    (asked : Event.compile other wanted ∈ [Event.compile first requested]) :
    keyDescription other (executor.effectiveOptions other wanted) =
      keyDescription step (executor.effectiveOptions step requested) := by
  rcases compile_mem_singleton.mp asked with ⟨rfl, rfl⟩
  rw [keyDescription, keyDescription, description, options]

section Origins

variable {executor : Executor} (empty : executor.cache.entries = [])

include empty

/-- Every cached kernel has an origin in the history, and stands under its own key. -/
theorem exists_origin (history : List Event) {key : UInt64} {issued : Issued}
    (member : (key, issued) ∈ (executor.after history).cache.entries) :
    key = issued.kernel.key ∧ ∃ origin : Origin, origin.Of executor history issued.kernel := by
  induction history using List.reverseRecOn with
  | nil =>
      rw [after, List.foldl_nil, empty] at member
      contradiction
  | append_singleton history event inductionHypothesis =>
      have old : (key, issued) ∈ (executor.after history).cache.entries →
          key = issued.kernel.key ∧
            ∃ origin : Origin, origin.Of executor (history ++ [event]) issued.kernel := by
        intro before
        rcases inductionHypothesis before with ⟨keyed, origin, stems⟩
        exact ⟨keyed, _, stems.extend [event]⟩
      rw [after_concat] at member
      cases event with
      | create id => exact old member
      | register id values => exact old member
      | share id handle => exact old member
      | request request =>
          cases request with
          | clear => contradiction
          | insert handle value => exact old member
          | compile step requested =>
              rcases compile_entries member with before | ⟨keyed, built⟩
              · exact old before
              · refine ⟨keyed, ⟨history, step, requested, []⟩, ⟨(List.append_nil _).symm, ?_⟩⟩
                rw [after_settings, effectiveOptions_after] at built
                rw [Origin.past, after_concat]
                exact built

/-- A step gets a kernel that was built for a request of its own description and options. -/
theorem exists_origin_of_success {events : List Event} {step : QueryStep}
    {requested : CompileOptions} (distinct : executor.Uncollided events step requested)
    {issued : Issued} (success : ((executor.after events).compile step requested).1 = .ok issued) :
    ∃ origin : Origin,
      origin.Of executor (events ++ [.compile step requested]) issued.kernel ∧
      origin.step.cacheDescription = step.cacheDescription ∧
      origin.options executor = executor.effectiveOptions step requested := by
  rcases get_of_compile success with ⟨later, found⟩
  rw [effectiveOptions_after] at found
  have cached := CodeCache.mem_of_get found
  rw [← after_compile] at cached
  rcases exists_origin empty _ cached with ⟨keyed, origin, stems⟩
  refine ⟨origin, stems, ?_⟩
  rcases List.mem_append.mp stems.asked with earlier | now
  · exact keyDescription_injective (distinct _ _ earlier (stems.key.symm.trans keyed.symm))
  · rcases compile_mem_singleton.mp now with ⟨sameStep, sameOptions⟩
    rw [Origin.options, sameStep, sameOptions]
    exact ⟨rfl, rfl⟩

/-- Behind a step that was built, another step of its description gets the kernel, and the
dictionaries are left as they are. -/
theorem compile_of_built {step other : QueryStep} {requested : CompileOptions}
    (description : step.cacheDescription = other.cacheDescription)
    (options : executor.effectiveOptions step requested =
      executor.effectiveOptions other requested) {kernel : Kernel} {registry : Registry}
    (built : build executor.settings executor.registry step
      (executor.effectiveOptions step requested) = (.ok kernel, registry)) :
    ((executor.after [.compile step requested]).compile other requested).1 =
        .ok ⟨executor.compiled, kernel⟩ ∧
      ((executor.after [.compile step requested]).compile other requested).2.registry =
        registry := by
  have missed : executor.cache.get (cacheKey step (executor.effectiveOptions step requested)) =
      none := get_of_empty empty _
  have left : (executor.after [.compile step requested]).registry = registry := by
    show (executor.compile step requested).2.registry = registry
    rw [compile_registry_of_miss missed, built]
  rcases get_of_built empty (congrArg Prod.fst built) with ⟨later, found⟩
  rw [options, cacheKey_of_cacheDescription description] at found
  have hit : (executor.after [.compile step requested]).compile other requested =
      (.ok ⟨executor.compiled, kernel⟩,
        { executor.after [.compile step requested] with cache := later }) := by
    apply compile_of_hit
    rw [effectiveOptions_after]
    exact found
  rw [hit]
  exact ⟨rfl, left⟩

end Origins

end QueryKernel.Executor
