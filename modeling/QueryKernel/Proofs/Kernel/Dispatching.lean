import QueryKernel.Proofs.Kernel.Hoisting
import QueryKernel.Proofs.Task.Scheduling

/-!
Contract: every backend keeps one contract, whatever the order in which its tasks finish.

Owns: the main statement about groups of tasks and the dispatch of kernels, with a run in which
the last of three tasks reports first.
-/

namespace QueryKernel

open QueryKernel.Executor (runs)

/-- In every interleaving of a group's steps, on every backend:
- no run is longer than four steps a task, and none gets stuck before its join has returned or
  raised;
- a join that has returned or raised did so after every task had run once, with all values in
  spawn order, or with the message that was raised first: in spawn order, or on an arena in the
  order of the reports.

On an arena every order of the reports occurs. A dispatch is a group of runs on all devices, so
it returns what they return, in device order. -/
theorem backends_keep_one_contract :
    (∀ {α : Type} (group : Task.Group α) {steps : Nat} {progress : Task.Group.Progress α},
      group.Reached steps progress →
        steps ≤ 4 * group.size ∧
        (progress.joined group = none → ∃ next, group.Step progress next) ∧
        ∀ result, progress.joined group = some result → group.Settles progress result) ∧
    (∀ {α : Type} (group : Task.Group α), group.backend = .workStealing →
      ∀ order : List Nat, order.Perm (List.range group.size) →
        ∃ steps progress, group.Reached steps progress ∧ progress.reported = order ∧
          progress.joined group = some (group.join order)) ∧
    ∀ (executor : Executor) (kernel : Kernel),
      executor.dispatch kernel = (List.range kernel.devices).mapM kernel.run ∧
      ∀ {steps : Nat} {progress result},
        (runs executor.dispatcher kernel).Reached steps progress →
          progress.joined (runs executor.dispatcher kernel) = some result →
            result = .values ((List.range kernel.devices).map kernel.run) := by
  refine ⟨fun group _ _ reached => ⟨reached.steps_le, reached.enabled, fun _ => reached.settles⟩,
    fun group shared order all => ?_, fun executor kernel => ⟨executor.dispatch_eq kernel, ?_⟩⟩
  · obtain ⟨steps, progress, reached, reported, joined⟩ := Task.Group.exists_joined shared all
    refine ⟨steps, progress, reached, reported, ?_⟩
    rw [joined, Task.Group.join_eq_settled fun _ => all, Task.Group.decisive_shared shared]
  · intro steps progress result reached joined
    exact (reached.settles joined).values _ (Executor.runs_tasks executor.dispatcher kernel)

/-- The last of three tasks reports first, and its message is raised. Two devices report in
reverse, and their results are in order. -/
theorem backends_keep_one_contract_last_first :
    let group : Task.Group Nat :=
      ⟨.workStealing, [.value 7, .raised "first", .raised "second"]⟩
    let settings : Settings := { dispatch := { modernPool := true } }
    let executor : Executor := { settings, registry := {}, cache := { capacity := 1 } }
    let kernel : Kernel := ⟨0, {}, false, { name := "kernel" }, [[.int 32 7]], [#[], #[]], [0, 1]⟩
    (∃ steps progress, group.Reached steps progress ∧ progress.reported = [2, 0, 1] ∧
      progress.joined group = some (.raised "second") ∧ steps ≤ 12 ∧
      group.Settles progress (.raised "second")) ∧
    (∃ steps progress, (runs executor.dispatcher kernel).Reached steps progress ∧
      progress.reported = [1, 0] ∧
      progress.joined (runs executor.dispatcher kernel) =
        some (.values [kernel.run 0, kernel.run 1])) ∧
    executor.dispatch kernel = .ok [[[.int 32 7]], [[.int 32 7]]] := by
  intro group settings executor kernel
  obtain ⟨contract, occurs, dispatched⟩ := backends_keep_one_contract
  refine ⟨?_, ?_, ?_⟩
  · obtain ⟨steps, progress, reached, reported, joined⟩ := occurs group rfl [2, 0, 1] (by decide)
    obtain ⟨short, -, settles⟩ := contract group reached
    exact ⟨steps, progress, reached, reported, joined, short, settles _ joined⟩
  · obtain ⟨steps, progress, reached, reported, joined⟩ :=
      occurs (runs executor.dispatcher kernel) rfl [1, 0] (by decide)
    have same := (dispatched executor kernel).2 reached joined
    rw [same] at joined
    exact ⟨steps, progress, reached, reported, joined⟩
  · rw [(dispatched executor kernel).1]
    rfl

end QueryKernel
