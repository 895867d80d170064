import Mathlib.Data.List.Perm.Basic
import QueryKernel.Task.Group

/-!
Contract: what joining a group of tasks comes to.

A group settles on all values in spawn order, or on the first message that was raised in some
order of its tasks. Joining in spawn order settles in spawn order; joining on a shared arena
settles in the order of completion.

Owns:
- what a group settles on, given an order of its tasks;
- the slots of a shared arena after any completions;
- that every backend joins to what its group settles on.

Does not own: how completions come about.
-/

namespace QueryKernel.Task.Group

variable {α : Type} {group : Group α}

/-! ### Tasks by place -/

def valueAt? (group : Group α) (place : Nat) : Option α :=
  group.tasks[place]?.bind Outcome.value?

def raisedAt? (group : Group α) (place : Nat) : Option String :=
  group.tasks[place]?.bind Outcome.raised?

theorem valueAt?_eq {place : Nat} {outcome : Outcome α}
    (task : group.tasks[place]? = some outcome) : group.valueAt? place = outcome.value? := by
  rw [valueAt?, task, Option.bind_some]

theorem raisedAt?_eq {place : Nat} {outcome : Outcome α}
    (task : group.tasks[place]? = some outcome) : group.raisedAt? place = outcome.raised? := by
  rw [raisedAt?, task, Option.bind_some]

theorem task_at {place : Nat} (inside : place < group.size) :
    ∃ outcome, group.tasks[place]? = some outcome :=
  ⟨_, List.getElem?_eq_getElem inside⟩

private theorem map_places (tasks : List (Outcome α)) :
    (List.range tasks.length).map (fun place => tasks[place]?) = tasks.map some := by
  refine List.ext_getElem? fun place => ?_
  by_cases inside : place < tasks.length
  · simp [inside]
  · simp [Nat.le_of_not_lt inside]

theorem findSome?_spawnOrder (group : Group α) :
    (List.range group.size).findSome? group.raisedAt? = group.tasks.findSome? Outcome.raised? := by
  have byPlace := congrArg (List.findSome? (·.bind Outcome.raised?)) (map_places group.tasks)
  rw [List.findSome?_map, List.findSome?_map] at byPlace
  exact byPlace

theorem filterMap_spawnOrder (group : Group α) :
    (List.range group.size).filterMap group.valueAt? = group.tasks.filterMap Outcome.value? := by
  have byPlace := congrArg (List.filterMap (·.bind Outcome.value?)) (map_places group.tasks)
  rw [List.filterMap_map, List.filterMap_map] at byPlace
  exact byPlace

/-! ### Settling -/

/-- All values in spawn order, or the message of the first task in an order that raised one. -/
def settled (group : Group α) (order : List Nat) : Joined α :=
  match order.findSome? group.raisedAt? with
  | some message => .raised message
  | none => .values (group.tasks.filterMap Outcome.value?)

theorem settled_of_raised {order : List Nat} {message : String}
    (first : order.findSome? group.raisedAt? = some message) :
    group.settled order = .raised message := by
  rw [settled, first]

theorem settled_of_calm {order : List Nat} (calm : order.findSome? group.raisedAt? = none) :
    group.settled order = .values (group.tasks.filterMap Outcome.value?) := by
  rw [settled, calm]

theorem settled_ne_failed (group : Group α) (order : List Nat) (failure : Error) :
    group.settled order ≠ .failed failure := by
  intro failed
  cases first : order.findSome? group.raisedAt? with
  | some message =>
      rw [settled_of_raised first] at failed
      cases failed
  | none =>
      rw [settled_of_calm first] at failed
      cases failed

/-- A task raised a message only if one is found, in every order of all tasks. -/
theorem findSome?_eq_none_iff {order : List Nat} (all : order.Perm (List.range group.size)) :
    order.findSome? group.raisedAt? = none ↔ ∀ task ∈ group.tasks, task.raised? = none := by
  have spawned := findSome?_spawnOrder group
  calc order.findSome? group.raisedAt? = none
      ↔ (List.range group.size).findSome? group.raisedAt? = none := by
        simp only [List.findSome?_eq_none_iff, all.mem_iff]
    _ ↔ ∀ task ∈ group.tasks, task.raised? = none := by
        rw [spawned, List.findSome?_eq_none_iff]

theorem settled_values {values : List α} (tasks : group.tasks = values.map Outcome.value)
    {order : List Nat} (all : order.Perm (List.range group.size)) :
    group.settled order = .values values := by
  have calm : order.findSome? group.raisedAt? = none := by
    rw [findSome?_eq_none_iff all, tasks]
    simp [Outcome.raised?]
  have results : (values.map Outcome.value).filterMap Outcome.value? = values := by
    rw [List.filterMap_map]
    exact List.filterMap_some
  rw [settled_of_calm calm, tasks, results]

/-! ### Joining in spawn order -/

theorem joinInOrder_eq_settled (group : Group α) :
    group.joinInOrder = group.settled (List.range group.size) := by
  rw [joinInOrder, settled, findSome?_spawnOrder, ← List.head?_filterMap]
  cases group.tasks.filterMap Outcome.raised? with
  | nil => rfl
  | cons message rest => rfl

/-! ### Joining on a shared arena -/

/-- The slots of a shared arena once it has finished some tasks. -/
def gathered (group : Group α) (done : List Nat) : Slots α where
  results := group.tasks.mapIdx fun place task => if place ∈ done then task.value? else none
  firstRaised := done.findSome? group.raisedAt?

theorem gathered_nil (group : Group α) :
    group.gathered [] = ⟨List.replicate group.size none, none⟩ := by
  have empty : (group.gathered []).results = List.replicate group.size none :=
    List.ext_getElem (by simp [gathered, size]) fun place _ _ => by simp [gathered]
  rw [← empty]
  rfl

theorem report_gathered {done : List Nat} {place : Nat} {outcome : Outcome α}
    (task : group.tasks[place]? = some outcome) :
    (group.gathered done).report place outcome = group.gathered (done ++ [place]) := by
  have raised : (done ++ [place]).findSome? group.raisedAt? =
      (done.findSome? group.raisedAt?).or outcome.raised? := by
    rw [List.findSome?_append, List.findSome?_singleton, raisedAt?_eq task]
  obtain ⟨inside, here⟩ := List.getElem?_eq_some_iff.mp task
  -- A value fills the slot of its task. A message leaves the slots alone, and the slot of its
  -- task is an empty one.
  cases outcome with
  | value result =>
      simp only [Slots.report, gathered, raised, Outcome.raised?, Option.or_none, Slots.mk.injEq,
        and_true]
      refine List.ext_getElem (by simp) fun other _ _ => ?_
      by_cases same : place = other
      · subst same
        simp [here, Outcome.value?]
      · simp [same, Ne.symm same]
  | raised message =>
      simp only [Slots.report, gathered, raised, Outcome.raised?, Slots.mk.injEq, and_true]
      refine List.ext_getElem (by simp) fun other _ _ => ?_
      by_cases same : place = other
      · subst same
        simp [here, Outcome.value?]
      · simp [Ne.symm same]

theorem receive_gathered {done rest : List Nat} (inside : ∀ place ∈ rest, place < group.size) :
    receive group.tasks rest.length rest (group.gathered done) =
      .ok (group.gathered (done ++ rest)) := by
  induction rest generalizing done with
  | nil => simp [receive]
  | cons place rest inductionHypothesis =>
      obtain ⟨outcome, task⟩ := task_at (inside place List.mem_cons_self)
      have behind := @inductionHypothesis (done ++ [place]) fun other member =>
        inside other (List.mem_cons_of_mem _ member)
      rw [List.append_assoc, List.singleton_append] at behind
      rw [List.length_cons, receive, task]
      simp only [report_gathered task]
      exact behind

theorem gathered_all {order : List Nat} (all : order.Perm (List.range group.size)) :
    (group.gathered order).results = group.tasks.map Outcome.value? := by
  refine List.ext_getElem (by simp [gathered]) fun place inside _ => ?_
  have present : place ∈ order :=
    all.mem_iff.mpr (List.mem_range.mpr (by simpa [gathered, size] using inside))
  simp [gathered, present]

theorem collect_values (values : List α) (place : Nat) :
    collect place (values.map some) = .ok values := by
  induction values generalizing place with
  | nil => rfl
  | cons first rest inductionHypothesis =>
      simp only [List.map_cons, collect, inductionHypothesis]
      rfl

/-- Where no task raised a message, every slot is filled. -/
theorem slots_filled {tasks : List (Outcome α)} (calm : ∀ task ∈ tasks, task.raised? = none) :
    tasks.map Outcome.value? = (tasks.filterMap Outcome.value?).map some := by
  induction tasks with
  | nil => rfl
  | cons task rest inductionHypothesis =>
      have behind := inductionHypothesis fun other member =>
        calm other (List.mem_cons_of_mem _ member)
      have first := calm task List.mem_cons_self
      cases task with
      | value result => simp [Outcome.value?, behind]
      | raised message => cases first

theorem joinArena_eq_settled {completions : List Nat}
    (all : completions.Perm (List.range group.size)) :
    group.joinArena completions = group.settled completions := by
  have awaited : group.size = completions.length := by rw [all.length_eq, List.length_range]
  have received := @receive_gathered α group [] completions fun place member =>
    List.mem_range.mp (all.mem_iff.mp member)
  rw [gathered_nil, ← awaited, List.nil_append] at received
  have first : (group.gathered completions).firstRaised = completions.findSome? group.raisedAt? :=
    rfl
  rw [joinArena, received]
  cases raised : completions.findSome? group.raisedAt? with
  | some message =>
      rw [raised] at first
      rw [settled_of_raised raised]
      simp only [first]
  | none =>
      have results := gathered_all all
      rw [raised] at first
      rw [slots_filled ((findSome?_eq_none_iff all).mp raised)] at results
      rw [settled_of_calm raised]
      simp only [first, results, collect_values]

/-! ### All backends -/

/-- The order of its tasks that decides which message a group raises, given the order of
completion. -/
def decisive (group : Group α) (completions : List Nat) : List Nat :=
  match group.backend with
  | .futures | .inline => List.range group.size
  | .workStealing => completions

theorem decisive_shared (shared : group.backend = .workStealing) (completions : List Nat) :
    group.decisive completions = completions := by
  rw [decisive, shared]

theorem decisive_apart (apart : group.backend ≠ .workStealing) (completions : List Nat) :
    group.decisive completions = List.range group.size := by
  unfold decisive
  cases backend : group.backend with
  | futures => rfl
  | inline => rfl
  | workStealing => exact absurd backend apart

/-- Every backend joins to what the group settles on, whatever the order of completion. Without
an arena that order does not even have to be one of all tasks. -/
theorem join_eq_settled {completions : List Nat}
    (all : group.backend = .workStealing → completions.Perm (List.range group.size)) :
    group.join completions = group.settled (group.decisive completions) := by
  by_cases shared : group.backend = .workStealing
  · rw [decisive_shared shared, ← joinArena_eq_settled (all shared), join, shared]
  · rw [decisive_apart shared, ← joinInOrder_eq_settled, join]
    cases backend : group.backend with
    | futures => rfl
    | inline => rfl
    | workStealing => exact absurd backend shared

theorem decisive_perm {completions : List Nat}
    (all : group.backend = .workStealing → completions.Perm (List.range group.size)) :
    (group.decisive completions).Perm (List.range group.size) := by
  by_cases shared : group.backend = .workStealing
  · rw [decisive_shared shared]
    exact all shared
  · rw [decisive_apart shared]

/-- Joining tasks that all return gives their values in spawn order, on every backend and for
every order of completion. -/
theorem join_values {values : List α} (tasks : group.tasks = values.map Outcome.value)
    {completions : List Nat} (order : completions.Perm (List.range group.size)) :
    group.join completions = .values values := by
  rw [join_eq_settled fun _ => order, settled_values tasks (decisive_perm fun _ => order)]

end QueryKernel.Task.Group
