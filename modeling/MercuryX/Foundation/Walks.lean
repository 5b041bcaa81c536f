import MercuryX.Foundation.Digraph
import MercuryX.Foundation.Fallible

/-!
# Walks that remember their path

A walk enters a vertex, which may fail, and goes on to each vertex that it leads to. It remembers
the path that it came by, and fails when it comes back to it. The walks from all vertices succeed
exactly when every vertex can be entered, leads to vertices only, and the graph has no cycle.
-/

namespace Foundation

section Walks

variable {α Fault : Type} [DecidableEq α]

/-- Walk on from a vertex, after a path. A path never outgrows the vertices, so that more fuel than
vertices is never used up. -/
def walk (circular : Fault) (enter : α → Except Fault (List α)) :
    Nat → List α → α → Except Fault Unit
  | 0, _, _ => .error circular
  | fuel + 1, path, vertex => do
      require (vertex ∉ path) circular
      let targets ← enter vertex
      forEach (walk circular enter fuel (vertex :: path)) targets

variable {circular : Fault} {enter : α → Except Fault (List α)} {fuel : Nat} {path : List α}
  {vertex : α}

theorem walk_succ_eq_ok_iff {done : Unit} :
    walk circular enter (fuel + 1) path vertex = .ok done ↔
      vertex ∉ path ∧ ∃ targets, enter vertex = .ok targets ∧
        ∀ target ∈ targets, walk circular enter fuel (vertex :: path) target = .ok () := by
  simp [walk]

variable {arrows : List (α × α)}
  (linked : ∀ source targets, enter source = .ok targets →
    ∀ target, target ∈ targets ↔ Linked arrows source target)

include linked

/-- A vertex that a walk succeeds from is accessible. -/
theorem acc_of_walk (walked : walk circular enter fuel path vertex = .ok ()) :
    Acc (fun target source => Linked arrows source target) vertex := by
  induction fuel generalizing path vertex with
  | zero => nomatch walked
  | succ fuel induction =>
      obtain ⟨_, targets, entered, onward⟩ := walk_succ_eq_ok_iff.mp walked
      exact .intro _ fun target link =>
        induction (onward target ((linked vertex targets entered target).mpr link))

/-- Where every vertex can be entered and there is no cycle, walks succeed. -/
theorem walk_of_acyclic {vertices : List α} (acyclic : Acyclic arrows)
    (entered : ∀ vertex ∈ vertices, ∃ targets, enter vertex = .ok targets ∧ targets ⊆ vertices)
    (isVertex : vertex ∈ vertices) (nodup : path.Nodup) (inside : path ⊆ vertices)
    (behind : ∀ earlier ∈ path, Leads arrows earlier vertex)
    (enough : vertices.length < fuel + path.length) :
    walk circular enter fuel path vertex = .ok () := by
  induction fuel generalizing path vertex with
  | zero =>
      have few := (List.subperm_of_subset nodup inside).length_le
      omega
  | succ fuel induction =>
      have fresh : vertex ∉ path := fun member => acyclic vertex (behind vertex member)
      obtain ⟨targets, answered, targetsInside⟩ := entered vertex isVertex
      refine walk_succ_eq_ok_iff.mpr ⟨fresh, targets, answered, fun target member => ?_⟩
      have link := (linked vertex targets answered target).mp member
      refine induction (targetsInside member) (List.nodup_cons.mpr ⟨fresh, nodup⟩)
        (List.cons_subset.mpr ⟨isVertex, inside⟩) ?_ ?_
      · rw [List.forall_mem_cons]
        exact ⟨.single link, fun earlier onPath => (behind earlier onPath).tail link⟩
      · rw [List.length_cons]
        omega

omit linked in
theorem enter_of_walk (walked : walk circular enter fuel path vertex = .ok ()) :
    ∃ targets, enter vertex = .ok targets := by
  cases fuel with
  | zero => nomatch walked
  | succ fuel =>
      obtain ⟨_, targets, answered, _⟩ := walk_succ_eq_ok_iff.mp walked
      exact ⟨targets, answered⟩

/-- The walks from all vertices succeed exactly when every vertex can be entered, leads to vertices
only, and there is no cycle. -/
theorem forall_walk_iff {vertices : List α}
    (sources : ∀ source target, Linked arrows source target → source ∈ vertices)
    (enterable : ∀ vertex targets, enter vertex = .ok targets → vertex ∈ vertices)
    (enough : vertices.length < fuel) :
    (∀ vertex ∈ vertices, walk circular enter fuel [] vertex = .ok ()) ↔
      (∀ vertex ∈ vertices, ∃ targets, enter vertex = .ok targets ∧ targets ⊆ vertices) ∧
        Acyclic arrows := by
  constructor
  · intro walked
    constructor
    · intro vertex member
      obtain ⟨below, rfl⟩ := Nat.exists_eq_add_of_lt enough
      obtain ⟨_, targets, answered, onward⟩ := walk_succ_eq_ok_iff.mp (walked vertex member)
      refine ⟨targets, answered, fun target isTarget => ?_⟩
      obtain ⟨further, alsoAnswered⟩ := enter_of_walk (onward target isTarget)
      exact enterable target further alsoAnswered
    · intro vertex cycle
      obtain ⟨target, link, _⟩ := Relation.TransGen.head'_iff.mp cycle
      have accessible := acc_of_walk linked (walked vertex (sources vertex target link))
      exact not_self_of_acc accessible.transGen (Relation.transGen_swap.mpr cycle)
  · rintro ⟨entered, acyclic⟩ vertex member
    exact walk_of_acyclic linked acyclic entered member List.nodup_nil (List.nil_subset _)
      (fun earlier none => absurd none List.not_mem_nil) (by simpa using enough)

end Walks

/-! ## Runs without fuel -/

section Runs

variable {α Fault : Type}

/-- The walk from a vertex after a path comes to an outcome. The walks to its targets are made in
order, up to the first that fails; nothing bounds their depth. -/
inductive WalksTo (circular : Fault) (enter : α → Except Fault (List α)) :
    List α → α → Except Fault Unit → Prop where
  /-- The walk is back on its path. -/
  | closed {path : List α} {vertex : α} (again : vertex ∈ path) :
      WalksTo circular enter path vertex (.error circular)
  /-- The vertex cannot be entered. -/
  | refused {path : List α} {vertex : α} {raised : Fault} (fresh : vertex ∉ path)
      (failed : enter vertex = .error raised) : WalksTo circular enter path vertex (.error raised)
  /-- The walk goes on to the targets. -/
  | onward {path : List α} {vertex : α} {targets : List α} {answer : α → Except Fault Unit}
      (fresh : vertex ∉ path) (entered : enter vertex = .ok targets)
      (each : ∀ front target back, targets = front ++ target :: back →
        forEach answer front = .ok () →
          WalksTo circular enter (vertex :: path) target (answer target)) :
      WalksTo circular enter path vertex (forEach answer targets)

theorem forEach_congr {check other : α → Except Fault Unit} {items : List α}
    (agree : ∀ front item back, items = front ++ item :: back → forEach check front = .ok () →
      forEach other front = .ok () → check item = other item) :
    forEach check items = forEach other items := by
  induction items with
  | nil => rfl
  | cons item items induction =>
      have first : check item = other item := agree [] item items rfl rfl rfl
      rw [forEach, forEach, first]
      cases outcome : other item with
      | error raised => rfl
      | ok done =>
          refine induction fun front next back split passed passedOther => ?_
          refine agree (item :: front) next back (by rw [split, List.cons_append]) ?_ ?_
          · rw [forEach, first, outcome]
            exact passed
          · rw [forEach, outcome]
            exact passedOther

variable {circular : Fault} {enter : α → Except Fault (List α)} {path : List α} {vertex : α}

/-- A walk comes to one outcome. -/
theorem WalksTo.unique {outcome other : Except Fault Unit}
    (walked : WalksTo circular enter path vertex outcome)
    (again : WalksTo circular enter path vertex other) : outcome = other := by
  induction walked generalizing other with
  | closed onPath =>
      cases again with
      | closed _ => rfl
      | refused fresh _ => exact absurd onPath fresh
      | onward fresh _ _ => exact absurd onPath fresh
  | refused fresh failed =>
      cases again with
      | closed onPath => exact absurd onPath fresh
      | refused _ alsoFailed => rw [← Except.error.inj (failed.symm.trans alsoFailed)]
      | onward _ entered _ => exact absurd (failed.symm.trans entered) nofun
  | onward fresh entered _ induction =>
      cases again with
      | closed onPath => exact absurd onPath fresh
      | refused _ failed => exact absurd (failed.symm.trans entered) nofun
      | onward _ alsoEntered each =>
          obtain rfl := Except.ok.inj (entered.symm.trans alsoEntered)
          refine forEach_congr fun front target back split passed passedOther => ?_
          exact induction front target back split passed (each front target back split passedOther)

/-- Every walk comes to an outcome, which is the one found with more fuel than vertices that can be
entered: a path holds each of them at most once. -/
theorem walksTo_walk [DecidableEq α] {vertices : List α}
    (enterable : ∀ vertex targets, enter vertex = .ok targets → vertex ∈ vertices) {fuel : Nat}
    (nodup : path.Nodup) (inside : path ⊆ vertices)
    (enough : vertices.length < fuel + path.length) :
    WalksTo circular enter path vertex (walk circular enter fuel path vertex) := by
  induction fuel generalizing path vertex with
  | zero =>
      have few := (List.subperm_of_subset nodup inside).length_le
      omega
  | succ fuel induction =>
      by_cases again : vertex ∈ path
      · have stopped : walk circular enter (fuel + 1) path vertex = .error circular := by
          simp [walk, require, again]
        rw [stopped]
        exact .closed again
      · cases entered : enter vertex with
        | error raised =>
            have stopped : walk circular enter (fuel + 1) path vertex = .error raised := by
              simp [walk, require, again, entered]
            rw [stopped]
            exact .refused again entered
        | ok targets =>
            have went : walk circular enter (fuel + 1) path vertex =
                forEach (walk circular enter fuel (vertex :: path)) targets := by
              simp [walk, require, again, entered]
            rw [went]
            refine .onward again entered fun _ target _ _ _ => ?_
            refine induction (List.nodup_cons.mpr ⟨again, nodup⟩)
              (List.cons_subset.mpr ⟨enterable vertex targets entered, inside⟩) ?_
            rw [List.length_cons]
            omega

end Runs

end Foundation
