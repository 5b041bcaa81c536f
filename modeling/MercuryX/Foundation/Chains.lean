import MercuryX.Foundation.Fallible

/-!
# States along a run

The states that a run passes, in order. Consecutive states are related exactly when every
successful step relates the state it finds to the state it leaves, and a transitive relation then
holds between any two of them.
-/

namespace Foundation
namespace Machine

variable {State Op Answer Fault : Type} (machine : Machine State Op Answer Fault)

/-- The states that a run passes, from the one that it starts in. -/
def visited (state : State) : List Op → List State
  | [] => [state]
  | op :: ops =>
      match machine.step state op with
      | (.ok _, next) => state :: visited next ops
      | (.error _, next) => visited next ops

variable {machine}

theorem visited_ok {state next : State} {op : Op} {answer : Answer}
    (step : machine.step state op = (.ok answer, next)) (ops : List Op) :
    machine.visited state (op :: ops) = state :: machine.visited next ops := by
  simp [visited, step]

theorem visited_error {state next : State} {op : Op} {raised : Fault}
    (step : machine.step state op = (.error raised, next)) (ops : List Op) :
    machine.visited state (op :: ops) = machine.visited state ops := by
  obtain rfl := machine.atomic state op raised next step
  simp [visited, step]

/-- A run starts with the state that it is given. -/
theorem exists_visited_eq_cons (state : State) (ops : List Op) :
    ∃ later, machine.visited state ops = state :: later := by
  induction ops with
  | nil => exact ⟨[], rfl⟩
  | cons op ops induction =>
      match outcome : machine.step state op with
      | (.ok answer, next) => exact ⟨_, visited_ok outcome ops⟩
      | (.error raised, next) => rwa [visited_error outcome]

/-- Consecutive states are related exactly when every successful step relates them. -/
theorem isChain_visited_iff {relation : State → State → Prop} {state : State} {ops : List Op} :
    (machine.visited state ops).IsChain relation ↔
      machine.AllSteps (fun old op => ∀ answer next, machine.step old op = (.ok answer, next) →
        relation old next) state ops := by
  induction ops generalizing state with
  | nil => simp [visited, AllSteps]
  | cons op ops induction =>
      rw [AllSteps]
      rcases outcome : machine.step state op with ⟨raised | answer, next⟩
      · rw [visited_error outcome, after_error outcome, ← induction]
        refine (and_iff_right fun _ _ same => ?_).symm
        exact absurd (Prod.mk.inj same).1 (by simp)
      · obtain ⟨later, passed⟩ : ∃ later, machine.visited next ops = next :: later :=
          exists_visited_eq_cons next ops
        rw [visited_ok outcome, after_ok outcome, ← induction, passed, List.isChain_cons_cons]
        refine and_congr_left fun _ => ⟨fun related other reached same => ?_, fun related => ?_⟩
        · obtain ⟨_, rfl⟩ := Prod.mk.inj same
          exact related
        · exact related answer next rfl

/-- A transitive relation holds between any two states of a run exactly when every successful step
relates the state it finds to the state it leaves. -/
theorem pairwise_visited_iff {relation : State → State → Prop} [IsTrans State relation]
    {state : State} {ops : List Op} :
    (machine.visited state ops).Pairwise relation ↔
      machine.AllSteps (fun old op => ∀ answer next, machine.step old op = (.ok answer, next) →
        relation old next) state ops :=
  List.isChain_iff_pairwise.symm.trans isChain_visited_iff

end Machine
end Foundation
