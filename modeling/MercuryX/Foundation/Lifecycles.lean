import MercuryX.Foundation.Fallible

/-!
# Lifecycles

A table says which states may follow a state, and a request to move is refused where the table
does not list its target. Whatever is requested, the targets that are accepted form a route along
the table, and every route is accepted as it is. Where the table climbs a rank no state is met
twice, and the routes from a state can be listed: a fact about every run then holds as soon as it
holds of the listed routes.
-/

namespace Foundation

/-- The states that may follow a state, and what a move that is not listed raises. -/
structure Lifecycle (State Fault : Type) where
  allowed : State → List State
  illegal : State → State → Fault

namespace Lifecycle

variable {State Fault : Type} (lifecycle : Lifecycle State Fault)

/-- States that follow one another along the table, from a state on. -/
def Route (start : State) (route : List State) : Prop :=
  (start :: route).IsChain fun old next => next ∈ lifecycle.allowed old

/-- The state that a route leads to. -/
def arrival (start : State) (route : List State) : State := route.getLastD start

/-- No state may follow. -/
def Ended (state : State) : Prop := lifecycle.allowed state = []

/-- The table leads to states of higher rank only. -/
def Climbs (rank : State → Nat) : Prop :=
  ∀ old, ∀ next ∈ lifecycle.allowed old, rank old < rank next

/-- The routes of at most so many moves. -/
def routes : Nat → State → List (List State)
  | 0, _ => [[]]
  | fuel + 1, start =>
      [] :: (lifecycle.allowed start).flatMap fun next =>
        (routes fuel next).map fun route => next :: route

instance [DecidableEq State] (state : State) : Decidable (lifecycle.Ended state) :=
  inferInstanceAs (Decidable (_ = _))

variable {lifecycle}

theorem route_nil (start : State) : lifecycle.Route start [] := List.isChain_singleton start

@[simp] theorem route_cons {start next : State} {route : List State} :
    lifecycle.Route start (next :: route) ↔
      next ∈ lifecycle.allowed start ∧ lifecycle.Route next route :=
  List.isChain_cons_cons

@[simp] theorem arrival_nil (start : State) : arrival start [] = start := rfl

@[simp] theorem arrival_cons (start next : State) (route : List State) :
    arrival start (next :: route) = arrival next route :=
  List.getLastD_cons ..

/-- The listed routes are those of at most so many moves. -/
theorem mem_routes_iff {fuel : Nat} {start : State} {route : List State} :
    route ∈ lifecycle.routes fuel start ↔ lifecycle.Route start route ∧ route.length ≤ fuel := by
  induction fuel generalizing start route with
  | zero =>
      rw [routes, List.mem_singleton, Nat.le_zero, List.length_eq_zero_iff]
      constructor
      · rintro rfl
        exact ⟨route_nil start, rfl⟩
      · exact And.right
  | succ fuel induction =>
      cases route with
      | nil => simp [routes, route_nil]
      | cons next route => simp [routes, induction, and_assoc]

section Climbing

variable {rank : State → Nat}

/-- A route goes up by at least one rank a move. -/
theorem Climbs.length_le (climbs : lifecycle.Climbs rank) {start : State} {route : List State}
    (along : lifecycle.Route start route) :
    rank start + route.length ≤ rank (arrival start route) := by
  induction route generalizing start with
  | nil => simp
  | cons next route induction =>
      obtain ⟨follows, rest⟩ := route_cons.mp along
      have risen : rank start < rank next := climbs start next follows
      have further : rank next + route.length ≤ rank (arrival next route) := induction rest
      rw [arrival_cons, List.length_cons]
      omega

/-- What a route meets later ranks above where it starts. -/
theorem Climbs.lt_of_mem (climbs : lifecycle.Climbs rank) {start : State} {route : List State}
    (along : lifecycle.Route start route) : ∀ state ∈ route, rank start < rank state := by
  induction route generalizing start with
  | nil => simp
  | cons next route induction =>
      obtain ⟨follows, rest⟩ := route_cons.mp along
      have risen : rank start < rank next := climbs start next follows
      intro state met
      rcases List.mem_cons.mp met with rfl | later
      · exact risen
      · exact risen.trans (induction rest state later)

/-- No state is met twice. -/
theorem Climbs.nodup (climbs : lifecycle.Climbs rank) {start : State} {route : List State}
    (along : lifecycle.Route start route) : (start :: route).Nodup := by
  induction route generalizing start with
  | nil => simp
  | cons next route induction =>
      have later := climbs.lt_of_mem along
      refine List.nodup_cons.mpr ⟨fun again => ?_, induction (route_cons.mp along).2⟩
      exact (later start again).false

theorem Climbs.mem_routes (climbs : lifecycle.Climbs rank) {top : Nat}
    (bounded : ∀ state, rank state ≤ top) {start : State} {route : List State}
    (along : lifecycle.Route start route) : route ∈ lifecycle.routes top start := by
  have climbed : rank start + route.length ≤ rank (arrival start route) := climbs.length_le along
  have short : route.length ≤ top := (Nat.le_add_left ..).trans (climbed.trans (bounded _))
  exact mem_routes_iff.mpr ⟨along, short⟩

end Climbing

/-! ## Requests -/

section Requests

variable [DecidableEq State]

/-- Move to a target that may follow. -/
def transition (lifecycle : Lifecycle State Fault) (current target : State) :
    Except Fault State := do
  require (target ∈ lifecycle.allowed current) (lifecycle.illegal current target)
  return target

/-- Requests to move, one after another. -/
def moves (lifecycle : Lifecycle State Fault) : Machine State State Unit Fault :=
  .ofFunction lifecycle.transition

theorem transition_eq_ok_iff {current target next : State} :
    lifecycle.transition current target = .ok next ↔
      target ∈ lifecycle.allowed current ∧ target = next := by
  simp [transition]

theorem transition_of_mem {current target : State} (listed : target ∈ lifecycle.allowed current) :
    lifecycle.moves.step current target = (.ok (), target) :=
  Machine.ofFunction_step_ok.mpr (transition_eq_ok_iff.mpr ⟨listed, rfl⟩)

theorem transition_of_not_mem {current target : State}
    (unlisted : target ∉ lifecycle.allowed current) :
    lifecycle.moves.step current target =
      (.error (lifecycle.illegal current target), current) := by
  simp [moves, Machine.ofFunction, transition, require, unlisted]

/-- The targets that a run accepts form a route, which leads to the state that the run leaves. -/
theorem route_run (start : State) (targets : List State) :
    lifecycle.Route start (lifecycle.moves.succeeded start targets) ∧
      arrival start (lifecycle.moves.succeeded start targets) =
        lifecycle.moves.run start targets := by
  induction targets generalizing start with
  | nil => exact ⟨route_nil start, rfl⟩
  | cons target targets induction =>
      by_cases listed : target ∈ lifecycle.allowed start
      · have moved := transition_of_mem listed
        obtain ⟨along, arrived⟩ := induction target
        rw [Machine.succeeded_ok moved, Machine.run_cons, Machine.after_ok moved, arrival_cons]
        exact ⟨route_cons.mpr ⟨listed, along⟩, arrived⟩
      · have stayed := transition_of_not_mem listed
        rw [Machine.succeeded_error stayed, Machine.run_cons, Machine.after_error stayed]
        exact induction start

/-- A route that is requested as it is is accepted as it is. -/
theorem succeeded_of_route {start : State} {route : List State}
    (along : lifecycle.Route start route) : lifecycle.moves.succeeded start route = route := by
  induction route generalizing start with
  | nil => rfl
  | cons next route induction =>
      obtain ⟨listed, rest⟩ := route_cons.mp along
      rw [Machine.succeeded_ok (transition_of_mem listed), induction rest]

/-- A state that none may follow is left by no run. -/
theorem Ended.run_eq {state : State} (ended : lifecycle.Ended state) (targets : List State) :
    lifecycle.moves.run state targets = state := by
  induction targets with
  | nil => rfl
  | cons target targets induction =>
      have unlisted : target ∉ lifecycle.allowed state := by
        rw [show lifecycle.allowed state = [] from ended]
        exact List.not_mem_nil
      rw [Machine.run_cons, Machine.after_error (transition_of_not_mem unlisted), induction]

theorem Ended.run_append {start : State} {targets : List State}
    (ended : lifecycle.Ended (lifecycle.moves.run start targets)) (later : List State) :
    lifecycle.moves.run start (targets ++ later) = lifecycle.moves.run start targets := by
  rw [Machine.run_append, ended.run_eq]

/-- What holds of the listed routes holds of every run. -/
theorem Climbs.run_induction {rank : State → Nat} (climbs : lifecycle.Climbs rank) {top : Nat}
    (bounded : ∀ state, rank state ≤ top) {motive : List State → State → Prop} {start : State}
    (every : ∀ route ∈ lifecycle.routes top start, motive route (arrival start route))
    (targets : List State) :
    motive (lifecycle.moves.succeeded start targets) (lifecycle.moves.run start targets) := by
  have along : lifecycle.Route start (lifecycle.moves.succeeded start targets) :=
    (route_run start targets).1
  have arrived : arrival start (lifecycle.moves.succeeded start targets) =
      lifecycle.moves.run start targets := (route_run start targets).2
  exact arrived ▸ every _ (climbs.mem_routes bounded along)

end Requests

end Lifecycle
end Foundation
