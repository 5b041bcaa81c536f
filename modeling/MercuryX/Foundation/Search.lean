import MercuryX.Foundation.Digraph

/-!
# Breadth-first search

A queue holds the vertices that were seen and not yet expanded. Expanding the head of the queue
sees its neighbours and queues those not seen before. With fuel for every vertex, the search sees
exactly the vertices that some start reaches.
-/

namespace Foundation
namespace Search

variable {α : Type*} [DecidableEq α]

/-- The vertices seen so far, with those that wait to be expanded. -/
structure Frontier (α : Type*) where
  /-- The vertices seen so far, oldest first. -/
  seen : List α
  /-- The vertices that wait to be expanded. -/
  ready : List α

/-- See a neighbour, and queue it if it was not seen before. -/
def discover (frontier : Frontier α) (neighbor : α) : Frontier α :=
  if neighbor ∈ frontier.seen then frontier
  else ⟨frontier.seen ++ [neighbor], frontier.ready ++ [neighbor]⟩

/-- Expand waiting vertices, at most as many as the fuel; the vertices seen in the end. -/
def explore (neighbors : α → List α) : Nat → Frontier α → List α
  | 0, frontier => frontier.seen
  | fuel + 1, frontier =>
      match frontier.ready with
      | [] => frontier.seen
      | current :: waiting =>
          explore neighbors fuel ((neighbors current).foldl discover ⟨frontier.seen, waiting⟩)

/-- See several neighbours. -/
def discoverAll (frontier : Frontier α) (found : List α) : Frontier α :=
  found.foldl discover frontier

/-- Seeing neighbours appends the same new vertices to those seen and to the queue. -/
theorem exists_discovered (found : List α) (frontier : Frontier α) (unique : frontier.seen.Nodup) :
    ∃ fresh, (discoverAll frontier found).seen = frontier.seen ++ fresh ∧
      (discoverAll frontier found).ready = frontier.ready ++ fresh ∧
      (frontier.seen ++ fresh).Nodup ∧ (∀ vertex ∈ fresh, vertex ∈ found) ∧
      ∀ vertex ∈ found, vertex ∈ frontier.seen ++ fresh := by
  induction found generalizing frontier with
  | nil => exact ⟨[], by simp [discoverAll, unique]⟩
  | cons neighbor found induction =>
      by_cases old : neighbor ∈ frontier.seen
      · obtain ⟨fresh, seen, ready, nodup, fromFound, covers⟩ := induction frontier unique
        have same : discoverAll frontier (neighbor :: found) = discoverAll frontier found := by
          simp [discoverAll, discover, old]
        refine ⟨fresh, same ▸ seen, same ▸ ready, nodup,
          fun vertex member => List.mem_cons_of_mem _ (fromFound vertex member), ?_⟩
        intro vertex member
        rcases List.mem_cons.mp member with rfl | later
        · exact List.mem_append_left _ old
        · exact covers vertex later
      · have extended : (frontier.seen ++ [neighbor]).Nodup := by
          rw [List.nodup_append]
          refine ⟨unique, List.nodup_singleton _, ?_⟩
          intro vertex member other isNeighbor same
          rw [List.mem_singleton] at isNeighbor
          exact old (isNeighbor ▸ same ▸ member)
        obtain ⟨fresh, seen, ready, nodup, fromFound, covers⟩ :=
          induction ⟨frontier.seen ++ [neighbor], frontier.ready ++ [neighbor]⟩ extended
        have same : discoverAll frontier (neighbor :: found) =
            discoverAll ⟨frontier.seen ++ [neighbor], frontier.ready ++ [neighbor]⟩ found := by
          simp [discoverAll, discover, old]
        simp only [List.append_assoc, List.singleton_append] at seen ready nodup covers
        refine ⟨neighbor :: fresh, same ▸ seen, same ▸ ready, nodup, ?_, ?_⟩
        · intro vertex member
          rcases List.mem_cons.mp member with rfl | later
          · exact List.mem_cons_self
          · exact List.mem_cons_of_mem _ (fromFound vertex later)
        · intro vertex member
          rcases List.mem_cons.mp member with rfl | later
          · simp
          · exact covers vertex later

/-- What the queue and the vertices seen say about the vertices expanded so far. -/
structure Invariant (neighbors : α → List α) (starts vertices expanded : List α)
    (frontier : Frontier α) : Prop where
  /-- The vertices seen are those expanded, followed by the queue. -/
  split : frontier.seen = expanded ++ frontier.ready
  /-- No vertex is seen twice. -/
  nodup : frontier.seen.Nodup
  /-- Only vertices are seen. -/
  subset : ∀ vertex ∈ frontier.seen, vertex ∈ vertices
  /-- The starts are seen. -/
  starts_seen : ∀ start ∈ starts, start ∈ frontier.seen
  /-- Only vertices that a start reaches are seen. -/
  sound : ∀ vertex ∈ frontier.seen, ∃ start ∈ starts,
    Relation.ReflTransGen (fun current neighbor => neighbor ∈ neighbors current) start vertex
  /-- The neighbours of every expanded vertex are seen. -/
  closed : ∀ vertex ∈ expanded, ∀ neighbor ∈ neighbors vertex, neighbor ∈ frontier.seen

variable {neighbors : α → List α} {starts vertices expanded : List α}

omit [DecidableEq α] in
/-- Nothing waits once as many vertices are expanded as there are. -/
theorem Invariant.ready_eq_nil {frontier : Frontier α}
    (invariant : Invariant neighbors starts vertices expanded frontier)
    (full : vertices.length ≤ expanded.length) : frontier.ready = [] := by
  have bound := (List.subperm_of_subset invariant.nodup invariant.subset).length_le
  rw [invariant.split, List.length_append] at bound
  exact List.eq_nil_of_length_eq_zero (by omega)

/-- Expanding the head of the queue keeps the invariant. -/
theorem Invariant.expand {seen waiting : List α} {current : α}
    (invariant : Invariant neighbors starts vertices expanded ⟨seen, current :: waiting⟩)
    (inside : ∀ vertex ∈ vertices, ∀ neighbor ∈ neighbors vertex, neighbor ∈ vertices) :
    Invariant neighbors starts vertices (expanded ++ [current])
      (discoverAll ⟨seen, waiting⟩ (neighbors current)) := by
  obtain ⟨fresh, seenAfter, readyAfter, nodup, fromNeighbors, covers⟩ :=
    exists_discovered (neighbors current) ⟨seen, waiting⟩ invariant.nodup
  have splitBefore : seen = expanded ++ current :: waiting := invariant.split
  have currentSeen : current ∈ seen := by simp [splitBefore]
  constructor
  case split =>
    rw [seenAfter, readyAfter]
    simp [splitBefore]
  case nodup => rwa [seenAfter]
  case subset =>
    intro vertex member
    rw [seenAfter, List.mem_append] at member
    rcases member with old | new
    · exact invariant.subset vertex old
    · exact inside current (invariant.subset current currentSeen) vertex (fromNeighbors vertex new)
  case starts_seen =>
    intro start member
    rw [seenAfter]
    exact List.mem_append_left _ (invariant.starts_seen start member)
  case sound =>
    intro vertex member
    rw [seenAfter, List.mem_append] at member
    rcases member with old | new
    · exact invariant.sound vertex old
    · obtain ⟨start, isStart, path⟩ := invariant.sound current currentSeen
      exact ⟨start, isStart, path.tail (fromNeighbors vertex new)⟩
  case closed =>
    intro vertex member neighbor found
    rw [seenAfter]
    rcases List.mem_append.mp member with old | new
    · exact List.mem_append_left _ (invariant.closed vertex old neighbor found)
    · rw [List.mem_singleton.mp new] at found
      exact covers neighbor found

/-- At the end of a search every vertex seen was expanded, when there was fuel for all. -/
theorem exists_explored (inside : ∀ vertex ∈ vertices, ∀ neighbor ∈ neighbors vertex,
      neighbor ∈ vertices) (fuel : Nat) {frontier : Frontier α}
    (invariant : Invariant neighbors starts vertices expanded frontier)
    (enough : vertices.length ≤ expanded.length + fuel) :
    ∃ final, Invariant neighbors starts vertices final ⟨explore neighbors fuel frontier, []⟩ := by
  induction fuel generalizing expanded frontier with
  | zero =>
      obtain ⟨seen, ready⟩ := frontier
      obtain rfl : ready = [] := invariant.ready_eq_nil (by simpa using enough)
      exact ⟨expanded, invariant⟩
  | succ fuel induction =>
      obtain ⟨seen, ready⟩ := frontier
      cases ready with
      | nil => exact ⟨expanded, invariant⟩
      | cons current waiting =>
          refine induction (invariant.expand inside) ?_
          rw [List.length_append, List.length_singleton]
          omega

omit [DecidableEq α] in
theorem invariant_initial (unique : starts.Nodup)
    (startsInside : ∀ start ∈ starts, start ∈ vertices) :
    Invariant neighbors starts vertices [] ⟨starts, starts⟩ where
  split := rfl
  nodup := unique
  subset := startsInside
  starts_seen _ member := member
  sound start member := ⟨start, member, .refl⟩
  closed := by simp

/-- The search sees exactly the vertices that some start reaches. -/
theorem mem_explore_iff (unique : starts.Nodup) (startsInside : ∀ start ∈ starts, start ∈ vertices)
    (inside : ∀ vertex ∈ vertices, ∀ neighbor ∈ neighbors vertex, neighbor ∈ vertices)
    {vertex : α} :
    vertex ∈ explore neighbors vertices.length ⟨starts, starts⟩ ↔ ∃ start ∈ starts,
      Relation.ReflTransGen (fun current neighbor => neighbor ∈ neighbors current)
        start vertex := by
  obtain ⟨final, explored⟩ := exists_explored inside vertices.length
    (invariant_initial unique startsInside) (by simp)
  refine ⟨explored.sound vertex, ?_⟩
  rintro ⟨start, isStart, path⟩
  have allExpanded : explore neighbors vertices.length ⟨starts, starts⟩ = final := by
    simpa using explored.split
  induction path with
  | refl => exact explored.starts_seen start isStart
  | tail _ found induction =>
      exact explored.closed _ (allExpanded ▸ induction) _ found

theorem explore_add (inside : ∀ vertex ∈ vertices, ∀ neighbor ∈ neighbors vertex,
      neighbor ∈ vertices) (fuel more : Nat) {frontier : Frontier α}
    (invariant : Invariant neighbors starts vertices expanded frontier)
    (enough : vertices.length ≤ expanded.length + fuel) :
    explore neighbors (fuel + more) frontier = explore neighbors fuel frontier := by
  induction fuel generalizing expanded frontier with
  | zero =>
      obtain ⟨seen, ready⟩ := frontier
      obtain rfl : ready = [] := invariant.ready_eq_nil (by simpa using enough)
      cases more <;> simp [explore]
  | succ fuel induction =>
      obtain ⟨seen, ready⟩ := frontier
      rw [Nat.add_right_comm]
      cases ready with
      | nil => simp [explore]
      | cons current waiting =>
          refine induction (invariant.expand inside) ?_
          rw [List.length_append, List.length_singleton]
          omega

end Search
end Foundation
