import Mathlib.Data.List.Induction
import Mathlib.Data.List.Nodup
import Mathlib.Data.List.Perm.Subperm
import QueryKernel.Proofs.Task.Joining

/-!
Contract: the steps by which a group is spawned, runs and is joined, in every interleaving.

On a shared arena, results and completions travel apart. A task leaves its value in a slot that
was reserved when it was spawned, and then reports through a channel that all tasks share, with
the message it raised if it raised one. The joining thread counts reports, and looks at the slots
when it has received as many as there are tasks. Without an arena it awaits one task after the
other.

Owns:
- the steps of a group, and what a join has come to after some of them;
- the invariants of all runs, and their length;
- that no run gets stuck while its join waits, and what the join comes to.

Does not own: fairness. A run ends only if threads and arena take steps as long as they can.
-/

namespace QueryKernel.Task.Group

variable {α : Type} {group : Group α}

/-! ### Steps -/

/-- How far a group has come. A spawned task has a slot. `finished` and `reported` list places in
the order in which their tasks got there. -/
structure Progress (α : Type) where
  slots : List (Option α) := []
  finished : List Nat := []
  reported : List Nat := []
  channel : List (Option String) := []
  received : Nat := 0
  results : List α := []
  firstRaised : Option String := none
deriving Repr

/-- One step of a thread. Inline tasks run only while the joining thread awaits them. -/
inductive Step (group : Group α) : Progress α → Progress α → Prop where
  | spawn {progress : Progress α} (more : progress.slots.length < group.size) :
      Step group progress { progress with slots := progress.slots ++ [none] }
  | finish {progress : Progress α} {place : Nat} {outcome : Outcome α}
      (spawned : place < progress.slots.length) (waiting : place ∉ progress.finished)
      (task : group.tasks[place]? = some outcome)
      (turn : group.backend = .inline →
        progress.slots.length = group.size ∧ place = progress.received) :
      Step group progress { progress with
        slots := progress.slots.set place outcome.value?
        finished := progress.finished ++ [place] }
  | report {progress : Progress α} {place : Nat} {outcome : Outcome α}
      (shared : group.backend = .workStealing) (ran : place ∈ progress.finished)
      (silent : place ∉ progress.reported) (task : group.tasks[place]? = some outcome) :
      Step group progress { progress with
        reported := progress.reported ++ [place]
        channel := progress.channel ++ [outcome.raised?] }
  | receive {progress : Progress α} {message : Option String} {rest : List (Option String)}
      (shared : group.backend = .workStealing) (joining : progress.slots.length = group.size)
      (awaited : progress.received < group.size) (sent : progress.channel = message :: rest) :
      Step group progress { progress with
        channel := rest
        received := progress.received + 1
        firstRaised := progress.firstRaised.or message }
  | await {progress : Progress α} {outcome : Outcome α}
      (apart : group.backend ≠ .workStealing) (joining : progress.slots.length = group.size)
      (ran : progress.received ∈ progress.finished)
      (task : group.tasks[progress.received]? = some outcome) :
      Step group progress { progress with
        received := progress.received + 1
        results := progress.results ++ outcome.value?.toList
        firstRaised := progress.firstRaised.or outcome.raised? }

/-- What a group can come to in a number of steps. -/
inductive Reached (group : Group α) : Nat → Progress α → Prop where
  | start : Reached group 0 {}
  | step {steps : Nat} {progress next : Progress α} (before : Reached group steps progress)
      (taken : Step group progress next) : Reached group (steps + 1) next

namespace Progress

/-- Nothing is in the channel, and no task is left that could send. The sender that the group
itself holds is not counted. -/
def Disconnected (progress : Progress α) (group : Group α) : Prop :=
  group.backend = .workStealing ∧ progress.channel = [] ∧
    ∀ place < group.size, place ∈ progress.reported

instance (progress : Progress α) (group : Group α) : Decidable (progress.Disconnected group) := by
  unfold Disconnected
  infer_instance

/-- What the joining thread returns or raises when it has awaited every task. -/
def outcome (progress : Progress α) (group : Group α) : Joined α :=
  match progress.firstRaised with
  | some message => .raised message
  | none =>
      match group.backend with
      | .futures | .inline => .values progress.results
      | .workStealing =>
          match collect 0 progress.slots with
          | .ok results => .values results
          | .error failure => .failed failure

/-- What the join has returned or raised, unless it still waits. -/
def joined (progress : Progress α) (group : Group α) : Option (Joined α) :=
  if progress.slots.length < group.size then none
  else if progress.received < group.size then
    if progress.Disconnected group then some (.failed (.dispatch .droppedTask)) else none
  else some (progress.outcome group)

/-! ### The length of a run -/

/-- Number of steps that led to a state. -/
def work (progress : Progress α) : Nat :=
  progress.slots.length + progress.finished.length + progress.reported.length + progress.received

end Progress

theorem Step.work {progress next : Progress α} (taken : Step group progress next) :
    next.work = progress.work + 1 := by
  cases taken with
  | spawn => simp [Progress.work]; omega
  | finish => simp [Progress.work]; omega
  | report => simp [Progress.work]; omega
  | receive => simp [Progress.work]; omega
  | await => simp [Progress.work]; omega

theorem Reached.work {steps : Nat} {progress : Progress α}
    (reached : Reached group steps progress) : progress.work = steps := by
  induction reached with
  | start => rfl
  | step _ taken inductionHypothesis => rw [taken.work, inductionHypothesis]

/-! ### Tasks -/

/-- A property of the empty state that every step keeps holds in every state. -/
theorem Reached.invariant {property : Progress α → Prop} (initial : property {})
    (kept : ∀ {progress next}, Step group progress next → property progress → property next)
    {steps : Nat} {progress : Progress α} (reached : Reached group steps progress) :
    property progress := by
  induction reached with
  | start => exact initial
  | step _ taken inductionHypothesis => exact kept taken inductionHypothesis

/-- Every spawned task runs at most once, fills its own slot, and reports at most once. -/
structure Progress.Sound (progress : Progress α) (group : Group α) : Prop where
  bounded : progress.slots.length ≤ group.size
  spawned : ∀ place ∈ progress.finished, place < progress.slots.length
  finishedOnce : progress.finished.Nodup
  filled : ∀ place ∈ progress.finished, progress.slots[place]? = some (group.valueAt? place)
  ran : ∀ place ∈ progress.reported, place ∈ progress.finished
  reportedOnce : progress.reported.Nodup

private theorem nodup_append_singleton {places : List Nat} {place : Nat} (once : places.Nodup)
    (fresh : place ∉ places) : (places ++ [place]).Nodup := by
  rw [← List.concat_eq_append]
  exact once.concat fresh

theorem Step.sound {progress next : Progress α} (taken : Step group progress next)
    (sound : progress.Sound group) : next.Sound group := by
  obtain ⟨bounded, spawned, finishedOnce, filled, ran, reportedOnce⟩ := sound
  cases taken with
  | spawn more =>
      refine ⟨?_, fun place member => ?_, finishedOnce, fun place member => ?_, ran,
        reportedOnce⟩
      · rw [List.length_append]
        exact more
      · rw [List.length_append]
        exact Nat.lt_add_right _ (spawned place member)
      · rw [List.getElem?_append_left (spawned place member), filled place member]
  | @finish place outcome inside waiting task turn =>
      -- The slot that is written is none of those that are filled already.
      refine ⟨?_, fun other member => ?_, nodup_append_singleton finishedOnce waiting,
        fun other member => ?_, fun other member => ?_, reportedOnce⟩
      · rw [List.length_set]
        exact bounded
      · rw [List.length_set]
        rcases List.mem_append.mp member with earlier | last
        · exact spawned other earlier
        · exact List.mem_singleton.mp last ▸ inside
      · rcases List.mem_append.mp member with earlier | last
        · have different : place ≠ other := fun same => waiting (same ▸ earlier)
          rw [List.getElem?_set_ne different, filled other earlier]
        · obtain rfl := List.mem_singleton.mp last
          rw [List.getElem?_set_self inside, valueAt?_eq task]
      · apply List.mem_append_left
        exact ran other member
  | report shared finished silent task =>
      refine ⟨bounded, spawned, finishedOnce, filled, fun other member => ?_,
        nodup_append_singleton reportedOnce silent⟩
      rcases List.mem_append.mp member with earlier | last
      · exact ran other earlier
      · exact List.mem_singleton.mp last ▸ finished
  | receive => exact ⟨bounded, spawned, finishedOnce, filled, ran, reportedOnce⟩
  | await => exact ⟨bounded, spawned, finishedOnce, filled, ran, reportedOnce⟩

theorem Reached.sound {steps : Nat} {progress : Progress α}
    (reached : Reached group steps progress) : progress.Sound group :=
  reached.invariant ⟨by simp, by simp, .nil, by simp, by simp, .nil⟩ Step.sound

private theorem below_subset {places : List Nat} {bound : Nat}
    (inside : ∀ place ∈ places, place < bound) : places ⊆ List.range bound := by
  intro place member
  exact List.mem_range.mpr (inside place member)

/-- Places below a bound without repetition are no more than the bound, and all of them if they
are as many. -/
private theorem places_le {places : List Nat} {bound : Nat} (once : places.Nodup)
    (inside : ∀ place ∈ places, place < bound) : places.length ≤ bound := by
  have shorter := (once.subperm (below_subset inside)).length_le
  rwa [List.length_range] at shorter

private theorem places_perm {places : List Nat} {bound : Nat} (once : places.Nodup)
    (inside : ∀ place ∈ places, place < bound) (many : bound ≤ places.length) :
    places.Perm (List.range bound) := by
  apply (once.subperm (below_subset inside)).perm_of_length_le
  rwa [List.length_range]

namespace Progress.Sound

variable {progress : Progress α}

theorem finished_lt (sound : progress.Sound group) :
    ∀ place ∈ progress.finished, place < group.size :=
  fun place member => Nat.lt_of_lt_of_le (sound.spawned place member) sound.bounded

theorem reported_lt (sound : progress.Sound group) :
    ∀ place ∈ progress.reported, place < group.size :=
  fun place member => sound.finished_lt place (sound.ran place member)

theorem finished_le (sound : progress.Sound group) : progress.finished.length ≤ group.size :=
  places_le sound.finishedOnce sound.finished_lt

theorem reported_le (sound : progress.Sound group) : progress.reported.length ≤ group.size :=
  places_le sound.reportedOnce sound.reported_lt

/-- Once every task has run, the slots hold all values. -/
theorem slots_eq (sound : progress.Sound group)
    (all : progress.finished.Perm (List.range group.size))
    (joining : progress.slots.length = group.size) :
    progress.slots = group.tasks.map Outcome.value? := by
  refine List.ext_getElem? fun place => ?_
  by_cases inside : place < group.size
  · obtain ⟨outcome, task⟩ := task_at inside
    have finished : place ∈ progress.finished := all.mem_iff.mpr (List.mem_range.mpr inside)
    rw [sound.filled place finished, valueAt?_eq task, List.getElem?_map, task, Option.map_some]
  · have beyond : group.tasks.length ≤ place := Nat.le_of_not_lt inside
    rw [List.getElem?_eq_none (joining ▸ Nat.le_of_not_lt inside),
      List.getElem?_eq_none (by rwa [List.length_map])]

end Progress.Sound

/-! ### The joining thread -/

/-- On an arena the channel holds what was reported and not received, in order. -/
structure Progress.Delivers (progress : Progress α) (group : Group α) : Prop where
  behind : progress.received ≤ progress.reported.length
  pending : progress.channel = (progress.reported.drop progress.received).map group.raisedAt?
  first : progress.firstRaised =
    (progress.reported.take progress.received).findSome? group.raisedAt?

theorem Step.delivers {progress next : Progress α} (shared : group.backend = .workStealing)
    (taken : Step group progress next) (delivers : progress.Delivers group) :
    next.Delivers group := by
  obtain ⟨behind, pending, first⟩ := delivers
  cases taken with
  | spawn => exact ⟨behind, pending, first⟩
  | finish => exact ⟨behind, pending, first⟩
  | report _ _ _ task =>
      -- A report joins the end of the channel, behind all that is pending.
      refine ⟨?_, ?_, ?_⟩
      · show progress.received ≤ (progress.reported ++ [_]).length
        rw [List.length_append]
        omega
      · rw [List.drop_append_of_le_length behind, List.map_append, ← pending]
        simp only [List.map_cons, List.map_nil, raisedAt?_eq task]
      · rw [List.take_append_of_le_length behind]
        exact first
  | @receive message rest _ _ _ sent =>
      rw [sent] at pending
      have waiting : progress.received < progress.reported.length := by
        by_contra none
        rw [List.drop_eq_nil_of_le (Nat.le_of_not_lt none)] at pending
        cases pending
      rw [List.drop_eq_getElem_cons waiting, List.map_cons, List.cons.injEq] at pending
      obtain ⟨head, rest⟩ := pending
      refine ⟨waiting, rest, ?_⟩
      rw [List.take_add_one, List.findSome?_append, ← first, List.getElem?_eq_getElem waiting,
        Option.toList_some, List.findSome?_singleton, ← head]
  | await apart => exact absurd shared apart

theorem Reached.delivers {steps : Nat} {progress : Progress α}
    (shared : group.backend = .workStealing) (reached : Reached group steps progress) :
    progress.Delivers group :=
  reached.invariant ⟨Nat.le_refl _, rfl, rfl⟩ (Step.delivers shared)

/-- Without an arena the first tasks have run and were awaited, in spawn order. -/
structure Progress.Awaits (progress : Progress α) (group : Group α) : Prop where
  bounded : progress.received ≤ group.size
  ran : ∀ place < progress.received, place ∈ progress.finished
  silent : progress.reported = []
  values : progress.results = (List.range progress.received).filterMap group.valueAt?
  first : progress.firstRaised = (List.range progress.received).findSome? group.raisedAt?

theorem Step.awaits {progress next : Progress α} (apart : group.backend ≠ .workStealing)
    (taken : Step group progress next) (awaits : progress.Awaits group) : next.Awaits group := by
  obtain ⟨bounded, ran, silent, values, first⟩ := awaits
  cases taken with
  | spawn => exact ⟨bounded, ran, silent, values, first⟩
  | finish =>
      exact ⟨bounded, fun place earlier => List.mem_append_left _ (ran place earlier), silent,
        values, first⟩
  | report shared => exact absurd shared apart
  | receive shared => exact absurd shared apart
  | await _ _ finished task =>
      have inside : progress.received < group.size := (List.getElem?_eq_some_iff.mp task).1
      refine ⟨inside, fun place earlier => ?_, silent, ?_, ?_⟩
      · rcases Nat.lt_succ_iff_lt_or_eq.mp earlier with before | last
        · exact ran place before
        · exact last ▸ finished
      · rw [List.range_succ, List.filterMap_append, ← values]
        simp only [List.filterMap_cons, List.filterMap_nil, valueAt?_eq task]
        cases outcome? : Outcome.value? _ <;> rfl
      · rw [List.range_succ, List.findSome?_append, ← first, List.findSome?_singleton,
          raisedAt?_eq task]

theorem Reached.awaits {steps : Nat} {progress : Progress α}
    (apart : group.backend ≠ .workStealing) (reached : Reached group steps progress) :
    progress.Awaits group :=
  reached.invariant ⟨Nat.zero_le _, by simp, rfl, rfl, rfl⟩ (Step.awaits apart)

theorem Reached.received_le {steps : Nat} {progress : Progress α}
    (reached : Reached group steps progress) : progress.received ≤ group.size := by
  by_cases shared : group.backend = .workStealing
  · exact Nat.le_trans (reached.delivers shared).behind reached.sound.reported_le
  · exact (reached.awaits shared).bounded

/-- A task is spawned, finishes, reports and is received at most once each. -/
theorem Reached.steps_le {steps : Nat} {progress : Progress α}
    (reached : Reached group steps progress) : steps ≤ 4 * group.size := by
  have spawned := reached.sound.bounded
  have finished := reached.sound.finished_le
  have reported := reached.sound.reported_le
  have received := reached.received_le
  have counted := reached.work
  unfold Progress.work at counted
  omega

/-! ### The end of a join -/

section Joins

variable {steps : Nat} {progress : Progress α}

/-- As long as a message is awaited, some task has not sent one. -/
theorem Reached.connected (reached : Reached group steps progress)
    (awaited : progress.received < group.size) : ¬ progress.Disconnected group := by
  rintro ⟨shared, empty, all⟩
  have pending := (reached.delivers shared).pending
  rw [empty] at pending
  have received : progress.reported.length ≤ progress.received :=
    List.drop_eq_nil_iff.mp (List.map_eq_nil_iff.mp pending.symm)
  have subset : List.range group.size ⊆ progress.reported := fun place member =>
    all place (List.mem_range.mp member)
  have many := (List.nodup_range.subperm subset).length_le
  rw [List.length_range] at many
  omega

theorem Reached.reported_perm (reached : Reached group steps progress)
    (shared : group.backend = .workStealing) (all : progress.received = group.size) :
    progress.reported.Perm (List.range group.size) :=
  places_perm reached.sound.reportedOnce reached.sound.reported_lt
    (all ▸ (reached.delivers shared).behind)

/-- The join returns or raises only after every task has run. -/
theorem Reached.finished_perm (reached : Reached group steps progress)
    (all : progress.received = group.size) :
    progress.finished.Perm (List.range group.size) := by
  have everyTask : ∀ place < group.size, place ∈ progress.finished := by
    intro place inside
    by_cases shared : group.backend = .workStealing
    · exact reached.sound.ran place
        ((reached.reported_perm shared all).mem_iff.mpr (List.mem_range.mpr inside))
    · exact (reached.awaits shared).ran place (all ▸ inside)
  apply (List.perm_ext_iff_of_nodup reached.sound.finishedOnce List.nodup_range).mpr
  intro place
  rw [List.mem_range]
  exact ⟨reached.sound.finished_lt place, everyTask place⟩

/-- Of all messages, the joining thread keeps the first one in the decisive order. -/
theorem Reached.firstRaised_eq (reached : Reached group steps progress)
    (all : progress.received = group.size) :
    progress.firstRaised = (group.decisive progress.reported).findSome? group.raisedAt? := by
  by_cases shared : group.backend = .workStealing
  · have received : progress.reported.length ≤ progress.received :=
      all ▸ reached.sound.reported_le
    rw [decisive_shared shared, (reached.delivers shared).first,
      List.take_of_length_le received]
  · rw [decisive_apart shared, (reached.awaits shared).first, all]

/-- What the messages and the slots come to is what the group settles on. -/
theorem Reached.outcome_eq (reached : Reached group steps progress)
    (joining : progress.slots.length = group.size) (all : progress.received = group.size) :
    progress.outcome group = group.settled (group.decisive progress.reported) := by
  have first := reached.firstRaised_eq all
  have decisive := decisive_perm fun shared => reached.reported_perm shared all
  cases raised : (group.decisive progress.reported).findSome? group.raisedAt? with
  | some message =>
      rw [raised] at first
      rw [settled_of_raised raised, Progress.outcome, first]
  | none =>
      rw [raised] at first
      rw [settled_of_calm raised]
      cases backend : group.backend with
      | workStealing =>
          have slots := reached.sound.slots_eq (reached.finished_perm all) joining
          rw [slots_filled ((findSome?_eq_none_iff decisive).mp raised)] at slots
          simp only [Progress.outcome, first, backend, slots, collect_values]
      | futures | inline =>
          have values := (reached.awaits (by simp [backend])).values
          rw [all, filterMap_spawnOrder] at values
          simp only [Progress.outcome, first, backend, values]

/-- A join that has returned or raised has awaited every task, and came to what the group settles
on. -/
theorem Reached.joined_eq (reached : Reached group steps progress) {result : Joined α}
    (joined : progress.joined group = some result) :
    progress.received = group.size ∧
      result = group.settled (group.decisive progress.reported) := by
  unfold Progress.joined at joined
  by_cases more : progress.slots.length < group.size
  · rw [if_pos more] at joined
    cases joined
  rw [if_neg more] at joined
  by_cases awaited : progress.received < group.size
  · -- Either the join still waits, or its channel is disconnected, which it never is.
    rw [if_pos awaited, if_neg (reached.connected awaited)] at joined
    cases joined
  rw [if_neg awaited] at joined
  have joining := Nat.le_antisymm reached.sound.bounded (Nat.le_of_not_lt more)
  have all := Nat.le_antisymm reached.received_le (Nat.le_of_not_lt awaited)
  exact ⟨all, (Option.some.inj joined).symm.trans (reached.outcome_eq joining all)⟩

/-- While the join waits, some thread can take a step. -/
theorem Reached.enabled (reached : Reached group steps progress)
    (waiting : progress.joined group = none) : ∃ next, Step group progress next := by
  by_cases more : progress.slots.length < group.size
  · exact ⟨_, .spawn more⟩
  have joining := Nat.le_antisymm reached.sound.bounded (Nat.le_of_not_lt more)
  rw [Progress.joined, if_neg more] at waiting
  by_cases awaited : progress.received < group.size
  · by_cases shared : group.backend = .workStealing
    · cases sent : progress.channel with
      | cons message rest => exact ⟨_, .receive shared joining awaited sent⟩
      | nil =>
          -- Some task has not reported, and it can finish or report.
          obtain ⟨place, inside, silent⟩ : ∃ place < group.size, place ∉ progress.reported := by
            by_contra none
            exact reached.connected awaited ⟨shared, sent, by simpa using none⟩
          obtain ⟨outcome, task⟩ := task_at inside
          by_cases ran : place ∈ progress.finished
          · exact ⟨_, .report shared ran silent task⟩
          · exact ⟨_, .finish (joining ▸ inside) ran task fun inline => nomatch shared ▸ inline⟩
    · -- Without an arena the awaited task itself can finish, or be awaited.
      obtain ⟨outcome, task⟩ := task_at awaited
      by_cases ran : progress.received ∈ progress.finished
      · exact ⟨_, .await shared joining ran task⟩
      · exact ⟨_, .finish (joining ▸ awaited) ran task fun _ => ⟨joining, rfl⟩⟩
  · rw [if_neg awaited] at waiting
    cases waiting

end Joins

/-! ### Every order of completion occurs -/

section Orders

theorem reached_spawned {count : Nat} (within : count ≤ group.size) :
    Reached group count { slots := List.replicate count none } := by
  induction count with
  | zero => exact .start
  | succ count inductionHypothesis =>
      have before := inductionHypothesis (Nat.le_of_succ_le within)
      have taken := @Step.spawn α group { slots := List.replicate count none }
        (by rw [List.length_replicate]; exact within)
      rw [List.replicate_succ']
      exact .step before taken

/-- Tasks can finish and report one after the other in any order, while the joining thread
waits. -/
theorem exists_reported (shared : group.backend = .workStealing) {order : List Nat}
    (once : order.Nodup) (inside : ∀ place ∈ order, place < group.size) :
    ∃ steps progress, Reached group steps progress ∧ progress.slots.length = group.size ∧
      progress.finished = order ∧ progress.reported = order ∧ progress.received = 0 := by
  induction order using List.reverseRecOn with
  | nil =>
      exact ⟨_, _, reached_spawned (Nat.le_refl _), List.length_replicate, rfl, rfl, rfl⟩
  | append_singleton places place inductionHypothesis =>
      obtain ⟨oncePlaces, -, fresh⟩ := List.nodup_append.mp once
      have waiting : place ∉ places := fun member =>
        fresh place member place (List.mem_singleton_self place) rfl
      obtain ⟨steps, progress, reached, joining, finished, reported, received⟩ :=
        inductionHypothesis oncePlaces fun other member =>
          inside other (List.mem_append_left _ member)
      have below : place < group.size := inside place (List.mem_append_right _ (by simp))
      obtain ⟨outcome, task⟩ := task_at below
      have finish := @Step.finish α group progress place outcome (joining ▸ below)
        (finished ▸ waiting) task fun inline => nomatch shared ▸ inline
      refine ⟨_, _, (reached.step finish).step (.report shared ?_ ?_ task), ?_, ?_, ?_, received⟩
      · exact List.mem_append_right _ (List.mem_singleton_self place)
      · exact reported ▸ waiting
      · rw [List.length_set, joining]
      · rw [finished]
      · rw [reported]

/-- On an arena every order of completion occurs, and the join comes to what the group settles on
in that order. -/
theorem exists_joined (shared : group.backend = .workStealing) {order : List Nat}
    (all : order.Perm (List.range group.size)) :
    ∃ steps progress, Reached group steps progress ∧ progress.reported = order ∧
      progress.joined group = some (group.settled order) := by
  have received : ∀ count ≤ group.size, ∃ steps progress, Reached group steps progress ∧
      progress.slots.length = group.size ∧ progress.reported = order ∧
      progress.received = count := by
    intro count within
    induction count with
    | zero =>
        obtain ⟨steps, progress, reached, joining, -, reported, received⟩ :=
          exists_reported shared (all.nodup_iff.mpr List.nodup_range) fun place member =>
            List.mem_range.mp (all.mem_iff.mp member)
        exact ⟨steps, progress, reached, joining, reported, received⟩
    | succ count inductionHypothesis =>
        obtain ⟨steps, progress, reached, joining, reported, received⟩ :=
          inductionHypothesis (Nat.le_of_succ_le within)
        have pending := (reached.delivers shared).pending
        have more : progress.received < progress.reported.length := by
          rw [reported, all.length_eq, List.length_range, received]
          exact within
        rw [List.drop_eq_getElem_cons more, List.map_cons] at pending
        have receive := Step.receive shared joining (received ▸ within) pending
        exact ⟨_, _, reached.step receive, joining, reported, congrArg (· + 1) received⟩
  obtain ⟨steps, progress, reached, joining, reported, received⟩ :=
    received group.size (Nat.le_refl _)
  have joined : progress.joined group = some (progress.outcome group) := by
    rw [Progress.joined, if_neg (by omega), if_neg (by omega)]
  refine ⟨steps, progress, reached, reported, ?_⟩
  rw [joined, reached.outcome_eq joining received, decisive_shared shared, reported]

end Orders

/-! ### The contract -/

/-- What every backend promises about a join that has returned or raised. -/
structure Settles (group : Group α) (progress : Progress α) (result : Joined α) : Prop where
  /-- Every task has run, and has run once. -/
  ran : progress.finished.Perm (List.range group.size)
  /-- On an arena every task has reported, and has reported once. -/
  reported : group.backend = .workStealing → progress.reported.Perm (List.range group.size)
  /-- All values, in spawn order. -/
  values : ∀ values, group.tasks = values.map Outcome.value → result = .values values
  /-- If tasks raised messages, the first of them in the decisive order. -/
  raises : ∀ message, Outcome.raised message ∈ group.tasks →
    ∃ first, result = .raised first ∧
      (group.decisive progress.reported).findSome? group.raisedAt? = some first
  /-- No message is missing, and no slot is empty. -/
  unfailed : ∀ failure, result ≠ .failed failure
  /-- The executable join, on the order of completion, comes to the same. -/
  joins : result = group.join progress.reported

theorem Reached.settles {steps : Nat} {progress : Progress α} {result : Joined α}
    (reached : Reached group steps progress) (joined : progress.joined group = some result) :
    group.Settles progress result := by
  obtain ⟨all, result_eq⟩ := reached.joined_eq joined
  have reported := fun shared => reached.reported_perm shared all
  have decisive := decisive_perm reported
  refine ⟨reached.finished_perm all, reported,
    fun values tasks => ?_, fun message member => ?_, fun failure => ?_, ?_⟩
  · rw [result_eq, settled_values tasks decisive]
  · cases first : (group.decisive progress.reported).findSome? group.raisedAt? with
    | some message => exact ⟨message, result_eq.trans (settled_of_raised first), rfl⟩
    | none =>
        have silent := (findSome?_eq_none_iff decisive).mp first _ member
        cases silent
  · rw [result_eq]
    exact settled_ne_failed group _ failure
  · rw [result_eq, join_eq_settled reported]

end QueryKernel.Task.Group
