import MercuryX.Foundation.Digraph

/-!
# Tasks with prerequisites

Tasks are done one after another, each at most once and only after its prerequisites. Some tasks
may be impossible. However the tasks are scheduled, a next one can be done until all are,
exactly when no task is impossible and the prerequisites close no cycle.
-/

namespace Foundation

/-- Tasks, what each of them waits for, and which of them can be done at all. -/
structure Tasks (α : Type*) where
  /-- The tasks. -/
  tasks : List α
  /-- The arrows from prerequisites to the tasks that wait for them. -/
  arrows : List (α × α)
  /-- The task can be done at some time. -/
  Possible : α → Prop
  /-- Prerequisites are tasks. -/
  inside : ∀ source target, Linked arrows source target → source ∈ tasks ∧ target ∈ tasks

namespace Tasks

variable {α : Type*} (problem : Tasks α)

/-- The task is still to be done and all its prerequisites are done. -/
structure Enabled (done : List α) (task : α) : Prop where
  /-- The task is one of the tasks. -/
  member : task ∈ problem.tasks
  /-- The task is not done yet. -/
  fresh : task ∉ done
  /-- The task can be done. -/
  possible : problem.Possible task
  /-- The prerequisites are done. -/
  prerequisites : ∀ source, Linked problem.arrows source task → source ∈ done

/-- Tasks that were done one after another, the last first, each when it was enabled. -/
inductive Scheduled : List α → Prop where
  /-- Nothing is done. -/
  | nil : Scheduled []
  /-- One more task is done. -/
  | cons {done : List α} {task : α} (before : Scheduled done)
      (enabled : problem.Enabled done task) : Scheduled (task :: done)

/-- Until all tasks are done, some task is enabled. -/
def NeverStuck : Prop :=
  ∀ done, problem.Scheduled done →
    (∀ task ∈ problem.tasks, task ∈ done) ∨ ∃ task, problem.Enabled done task

variable {problem} {done : List α}

theorem Scheduled.nodup (scheduled : problem.Scheduled done) : done.Nodup := by
  induction scheduled with
  | nil => exact List.nodup_nil
  | cons _ enabled induction => exact List.nodup_cons.mpr ⟨enabled.fresh, induction⟩

theorem Scheduled.subset (scheduled : problem.Scheduled done) : done ⊆ problem.tasks := by
  induction scheduled with
  | nil => exact List.nil_subset _
  | cons _ enabled induction => exact List.cons_subset.mpr ⟨enabled.member, induction⟩

theorem Scheduled.accessible (scheduled : problem.Scheduled done) :
    ∀ task ∈ done, problem.Possible task ∧ Acc (Linked problem.arrows) task := by
  induction scheduled with
  | nil => exact fun task none => absurd none List.not_mem_nil
  | cons _ enabled induction =>
      rw [List.forall_mem_cons]
      refine ⟨⟨enabled.possible, .intro _ fun source linked => ?_⟩, induction⟩
      exact (induction source (enabled.prerequisites source linked)).2

/-- Where no schedule is ever stuck, some schedule does all tasks. -/
theorem NeverStuck.exists_complete [DecidableEq α] (free : problem.NeverStuck) :
    ∃ done, problem.Scheduled done ∧ ∀ task ∈ problem.tasks, task ∈ done := by
  have extend (rest : Nat) (done : List α) (scheduled : problem.Scheduled done)
      (enough : problem.tasks.length ≤ done.length + rest) :
      ∃ final, problem.Scheduled final ∧ ∀ task ∈ problem.tasks, task ∈ final := by
    induction rest generalizing done with
    | zero =>
        have full := (List.subperm_of_subset scheduled.nodup scheduled.subset).perm_of_length_le
          enough
        exact ⟨done, scheduled, fun task member => full.mem_iff.mpr member⟩
    | succ rest induction =>
        rcases free done scheduled with all | ⟨task, enabled⟩
        · exact ⟨done, scheduled, all⟩
        · refine induction (task :: done) (scheduled.cons enabled) ?_
          rw [List.length_cons]
          omega
  exact extend problem.tasks.length [] .nil (Nat.le_add_left _ _)

/-- Schedules are never stuck exactly when every task is possible and the prerequisites close no
cycle. -/
theorem neverStuck_iff [DecidableEq α] : problem.NeverStuck ↔
    (∀ task ∈ problem.tasks, problem.Possible task) ∧ Acyclic problem.arrows := by
  constructor
  · intro free
    obtain ⟨done, scheduled, all⟩ := free.exists_complete
    have accessible := fun task member => scheduled.accessible task (all task member)
    refine ⟨fun task member => (accessible task member).1, acyclic_of_acc ?_⟩
    exact fun source target linked => (accessible target (problem.inside source target linked).2).2
  · rintro ⟨possible, acyclic⟩ done scheduled
    by_cases all : ∀ task ∈ problem.tasks, task ∈ done
    · exact .inl all
    · push Not at all
      obtain ⟨task, member, waiting⟩ := all
      have nonempty : (problem.tasks.toFinset \ done.toFinset).Nonempty :=
        ⟨task, by simp [member, waiting]⟩
      obtain ⟨first, inside, least⟩ := acyclic.exists_source nonempty
      rw [Finset.mem_sdiff, List.mem_toFinset, List.mem_toFinset] at inside
      refine .inr ⟨first, inside.1, inside.2, possible first inside.1, fun source linked => ?_⟩
      by_contra undone
      refine least source ?_ linked
      simp [(problem.inside source first linked).1, undone]

end Tasks
end Foundation
