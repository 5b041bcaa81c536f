import Mathlib.Logic.Relation
import Mathlib.Tactic

/-!
# Routes by breadth-first search

A search that records, for every vertex it sees, the labels of the edges that lead there from the
start. It stops as soon as it sees the target. A route that it returns leads from the start to the
target, and no other is shorter; with fuel for every vertex it returns one whenever the start
reaches the target.
-/

namespace Foundation
namespace Routes

variable {α ε : Type*} (adjacent : α → List (α × ε))

/-- A list of edge labels leads from one vertex to another. -/
def Leads (start finish : α) : List ε → Prop
  | [] => start = finish
  | label :: labels => ∃ next, (next, label) ∈ adjacent start ∧ Leads next finish labels

/-- One vertex has an edge to the other. -/
def Adjacent (start finish : α) : Prop := ∃ label, (finish, label) ∈ adjacent start

variable {adjacent}

/-- A route is extended by an edge from where it ends. -/
theorem Leads.concat {start middle finish : α} {labels : List ε} {label : ε}
    (leads : Leads adjacent start middle labels) (edge : (finish, label) ∈ adjacent middle) :
    Leads adjacent start finish (labels ++ [label]) := by
  induction labels generalizing start with
  | nil =>
      obtain rfl := leads
      exact ⟨finish, edge, rfl⟩
  | cons first labels induction =>
      obtain ⟨next, step, rest⟩ := leads
      exact ⟨next, step, induction rest⟩

/-- A route that ends with an edge leads to where the edge starts. -/
theorem exists_of_leads_concat {start finish : α} {labels : List ε} {label : ε}
    (leads : Leads adjacent start finish (labels ++ [label])) :
    ∃ middle, Leads adjacent start middle labels ∧ (finish, label) ∈ adjacent middle := by
  induction labels generalizing start with
  | nil =>
      obtain ⟨next, edge, rfl⟩ := leads
      exact ⟨start, rfl, edge⟩
  | cons first labels induction =>
      obtain ⟨next, step, rest⟩ := leads
      obtain ⟨middle, front, edge⟩ := induction rest
      exact ⟨middle, ⟨next, step, front⟩, edge⟩

theorem Leads.reaches {start finish : α} {labels : List ε}
    (leads : Leads adjacent start finish labels) :
    Relation.ReflTransGen (Adjacent adjacent) start finish := by
  induction labels generalizing start with
  | nil => exact leads ▸ .refl
  | cons first labels induction =>
      obtain ⟨next, step, rest⟩ := leads
      exact .head ⟨first, step⟩ (induction rest)

/-! ## The search -/

variable [DecidableEq α]

/-- See the neighbours of a vertex that a route leads to: either the target is among the new ones,
or they are queued, each with its route. -/
def scan (target : α) (route : List ε) :
    List (α × ε) → List α → List (α × List ε) → List ε ⊕ (List α × List (α × List ε))
  | [], seen, queue => .inr (seen, queue)
  | (next, label) :: rest, seen, queue =>
      if next ∈ seen then scan target route rest seen queue
      else if next = target then .inl (route ++ [label])
      else scan target route rest (seen ++ [next]) (queue ++ [(next, route ++ [label])])

/-- Expand queued vertices, at most as many as the fuel, until the target is seen. -/
def search (adjacent : α → List (α × ε)) (target : α) :
    Nat → List α → List (α × List ε) → Option (List ε)
  | 0, _, _ => none
  | _ + 1, _, [] => none
  | fuel + 1, seen, (current, route) :: queue =>
      match scan target route (adjacent current) seen queue with
      | .inl found => some found
      | .inr (seen, queue) => search adjacent target fuel seen queue

theorem scan_eq_inl {target : α} {route found : List ε} {edges : List (α × ε)} {seen : List α}
    {queue : List (α × List ε)} (outcome : scan target route edges seen queue = .inl found) :
    ∃ label, (target, label) ∈ edges ∧ found = route ++ [label] := by
  induction edges generalizing seen queue with
  | nil => simp [scan] at outcome
  | cons edge edges induction =>
      obtain ⟨next, label⟩ := edge
      rw [scan] at outcome
      split at outcome
      · obtain ⟨other, member, same⟩ := induction outcome
        exact ⟨other, List.mem_cons_of_mem _ member, same⟩
      split at outcome
      next _ isTarget =>
        obtain rfl := isTarget
        exact ⟨label, List.mem_cons_self, (Sum.inl.inj outcome).symm⟩
      next =>
        obtain ⟨other, member, same⟩ := induction outcome
        exact ⟨other, List.mem_cons_of_mem _ member, same⟩

/-- A scan that does not see the target appends the same new vertices to those seen and, with their
routes, to the queue. -/
theorem scan_eq_inr {target : α} {route : List ε} {edges : List (α × ε)} {seen seen' : List α}
    {queue queue' : List (α × List ε)} (unique : seen.Nodup) (unseen : target ∉ seen)
    (outcome : scan target route edges seen queue = .inr (seen', queue')) :
    ∃ fresh : List (α × List ε), seen' = seen ++ fresh.map Prod.fst ∧ queue' = queue ++ fresh ∧
      seen'.Nodup ∧ target ∉ seen' ∧
      (∀ entry ∈ fresh, ∃ label, (entry.1, label) ∈ edges ∧ entry.2 = route ++ [label]) ∧
      ∀ edge ∈ edges, edge.1 ∈ seen' := by
  induction edges generalizing seen queue with
  | nil =>
      obtain ⟨rfl, rfl⟩ := Prod.mk.inj (Sum.inr.inj outcome)
      exact ⟨[], by simp [unique, unseen]⟩
  | cons edge edges induction =>
      obtain ⟨next, label⟩ := edge
      rw [scan] at outcome
      split at outcome
      next old =>
        obtain ⟨fresh, rfl, rfl, nodup, still, routes, covers⟩ := induction unique unseen outcome
        refine ⟨fresh, rfl, rfl, nodup, still, ?_, ?_⟩
        · intro entry member
          obtain ⟨other, inEdges, same⟩ := routes entry member
          exact ⟨other, List.mem_cons_of_mem _ inEdges, same⟩
        · exact List.forall_mem_cons.mpr ⟨List.mem_append_left _ old, covers⟩
      next new =>
      split at outcome
      next => nomatch outcome
      next different =>
        have extended : (seen ++ [next]).Nodup := by
          simpa [List.nodup_append, unique] using fun vertex member (same : vertex = next) =>
            new (same ▸ member)
        obtain ⟨fresh, rfl, rfl, nodup, still, routes, covers⟩ := induction extended
          (by simpa [unseen] using Ne.symm different) outcome
        refine ⟨(next, route ++ [label]) :: fresh, by simp, by simp, nodup, still, ?_, ?_⟩
        · intro entry member
          rcases List.mem_cons.mp member with rfl | later
          · exact ⟨label, List.mem_cons_self, rfl⟩
          · obtain ⟨other, inEdges, same⟩ := routes entry later
            exact ⟨other, List.mem_cons_of_mem _ inEdges, same⟩
        · exact List.forall_mem_cons.mpr ⟨by simp, covers⟩

/-- What the queue and the vertices seen say about the vertices expanded so far. -/
structure Invariant (adjacent : α → List (α × ε)) (source target : α) (vertices expanded : List α)
    (seen : List α) (queue : List (α × List ε)) : Prop where
  /-- The vertices seen are those expanded, followed by the queue. -/
  split : seen = expanded ++ queue.map Prod.fst
  /-- No vertex is seen twice. -/
  nodup : seen.Nodup
  /-- Only vertices are seen. -/
  subset : seen ⊆ vertices
  /-- The source is seen. -/
  source_seen : source ∈ seen
  /-- The target is not. -/
  target_unseen : target ∉ seen
  /-- Queued routes lead where they say. -/
  sound : ∀ entry ∈ queue, Leads adjacent source entry.1 entry.2
  /-- The neighbours of every expanded vertex are seen. -/
  closed : ∀ vertex ∈ expanded, ∀ edge ∈ adjacent vertex, edge.1 ∈ seen

variable {source target : α} {vertices expanded seen : List α} {queue : List (α × List ε)}

theorem Invariant.expand {current : α} {route : List ε} {seen' : List α}
    {queue' : List (α × List ε)}
    (invariant : Invariant adjacent source target vertices expanded seen
      ((current, route) :: queue))
    (inside : ∀ vertex ∈ vertices, ∀ edge ∈ adjacent vertex, edge.1 ∈ vertices)
    (outcome : scan target route (adjacent current) seen queue = .inr (seen', queue')) :
    Invariant adjacent source target vertices (expanded ++ [current]) seen' queue' := by
  obtain ⟨fresh, rfl, rfl, nodup, unseen, routes, covers⟩ :=
    scan_eq_inr invariant.nodup invariant.target_unseen outcome
  have currentSeen : current ∈ seen := by simp [invariant.split]
  constructor
  case split => simp [invariant.split]
  case nodup => exact nodup
  case subset =>
    intro vertex member
    rcases List.mem_append.mp member with old | new
    · exact invariant.subset old
    · obtain ⟨entry, isFresh, rfl⟩ := List.mem_map.mp new
      obtain ⟨label, edge, _⟩ := routes entry isFresh
      exact inside current (invariant.subset currentSeen) _ edge
  case source_seen => exact List.mem_append_left _ invariant.source_seen
  case target_unseen => exact unseen
  case sound =>
    intro entry member
    rcases List.mem_append.mp member with old | new
    · exact invariant.sound entry (List.mem_cons_of_mem _ old)
    · obtain ⟨label, edge, same⟩ := routes entry new
      exact same ▸ (invariant.sound _ List.mem_cons_self).concat edge
  case closed =>
    intro vertex member edge found
    rcases List.mem_append.mp member with old | new
    · exact List.mem_append_left _ (invariant.closed vertex old edge found)
    · obtain rfl := List.mem_singleton.mp new
      exact covers edge found

/-- A returned route leads from the source to the target. -/
theorem Invariant.leads_of_search (invariant :
      Invariant adjacent source target vertices expanded seen queue)
    (inside : ∀ vertex ∈ vertices, ∀ edge ∈ adjacent vertex, edge.1 ∈ vertices) {fuel : Nat}
    {found : List ε} (outcome : search adjacent target fuel seen queue = some found) :
    Leads adjacent source target found := by
  induction fuel generalizing expanded seen queue with
  | zero => nomatch outcome
  | succ fuel induction =>
      match queue with
      | [] => nomatch outcome
      | (current, route) :: queue =>
          rw [search] at outcome
          split at outcome
          next route' scanned =>
            obtain rfl := Option.some_inj.mp outcome
            obtain ⟨label, edge, rfl⟩ := scan_eq_inl scanned
            exact (invariant.sound _ List.mem_cons_self).concat edge
          next scanned => exact induction (invariant.expand inside scanned) outcome

omit [DecidableEq α] in
/-- Once nothing is queued, the source does not reach the target. -/
theorem Invariant.not_reaches
    (drained : Invariant adjacent source target vertices expanded seen []) :
    ¬ Relation.ReflTransGen (Adjacent adjacent) source target := by
  have allExpanded : seen = expanded := by simpa using drained.split
  intro path
  have seenAlong : ∀ vertex, Relation.ReflTransGen (Adjacent adjacent) source vertex →
      vertex ∈ seen := by
    intro vertex reached
    induction reached with
    | refl => exact drained.source_seen
    | tail _ edge induction =>
        obtain ⟨label, member⟩ := edge
        exact drained.closed _ (allExpanded ▸ induction) _ member
  exact drained.target_unseen (seenAlong target path)

/-- With fuel for every vertex, a search returns nothing only where the source does not reach the
target. -/
theorem Invariant.not_reaches_of_search (invariant :
      Invariant adjacent source target vertices expanded seen queue)
    (inside : ∀ vertex ∈ vertices, ∀ edge ∈ adjacent vertex, edge.1 ∈ vertices) {fuel : Nat}
    (enough : vertices.length ≤ expanded.length + fuel)
    (outcome : search adjacent target fuel seen queue = none) :
    ¬ Relation.ReflTransGen (Adjacent adjacent) source target := by
  induction fuel generalizing expanded seen queue with
  | zero =>
      have bound := (List.subperm_of_subset invariant.nodup invariant.subset).length_le
      rw [invariant.split, List.length_append, List.length_map] at bound
      obtain rfl : queue = [] := List.eq_nil_of_length_eq_zero (by omega)
      exact invariant.not_reaches
  | succ fuel induction =>
      match queue with
      | [] => exact invariant.not_reaches
      | (current, route) :: queue =>
          rw [search] at outcome
          split at outcome
          next => nomatch outcome
          next scanned =>
            refine induction (invariant.expand inside scanned) ?_ outcome
            rw [List.length_append, List.length_singleton]
            omega

omit [DecidableEq α] in
/-- The invariant at the start, when only the source is seen. -/
theorem invariant_initial (source_mem : source ∈ vertices) (apart : source ≠ target) :
    Invariant adjacent source target vertices [] [source] [(source, [])] where
  split := rfl
  nodup := List.nodup_singleton source
  subset := by simpa using source_mem
  source_seen := List.mem_singleton_self source
  target_unseen := by simpa using apart.symm
  sound := by simp [Leads]
  closed := by simp

/-! ## Shortest routes -/

/-- How far the queued routes have come. -/
structure Levels (adjacent : α → List (α × ε)) (source : α) (seen : List α)
    (queue : List (α × List ε)) : Prop where
  /-- No route to a queued vertex is shorter than the queued one. -/
  shortest : ∀ entry ∈ queue, ∀ labels, Leads adjacent source entry.1 labels →
    entry.2.length ≤ labels.length
  /-- Longer routes are queued later. -/
  sorted : queue.Pairwise fun earlier later => earlier.2.length ≤ later.2.length
  /-- No queued route is longer than the first by more than one edge. -/
  narrow : ∀ first ∈ queue.head?, ∀ entry ∈ queue, entry.2.length ≤ first.2.length + 1
  /-- Every vertex that a route no longer than the first leads to is seen. -/
  covers : ∀ first ∈ queue.head?, ∀ vertex labels, Leads adjacent source vertex labels →
    labels.length ≤ first.2.length → vertex ∈ seen

omit [DecidableEq α] in
theorem Levels.farther {current : α} {route : List ε}
    (levels : Levels adjacent source seen ((current, route) :: queue)) {vertex : α}
    (unseen : vertex ∉ seen) {labels : List ε} (leads : Leads adjacent source vertex labels) :
    route.length + 1 ≤ labels.length := by
  by_contra near
  exact unseen (levels.covers _ rfl vertex labels leads (Nat.lt_succ_iff.mp (not_le.mp near)))

/-- A scan that does not see the target keeps the levels. -/
theorem Levels.expand {current : α} {route : List ε} {seen' : List α}
    {queue' : List (α × List ε)}
    (levels : Levels adjacent source seen ((current, route) :: queue))
    (invariant : Invariant adjacent source target vertices expanded seen
      ((current, route) :: queue))
    (outcome : scan target route (adjacent current) seen queue = .inr (seen', queue')) :
    Levels adjacent source seen' queue' := by
  obtain ⟨fresh, rfl, rfl, nodup, _, routes, sees⟩ :=
    scan_eq_inr invariant.nodup invariant.target_unseen outcome
  have longer : ∀ entry ∈ fresh, entry.2.length = route.length + 1 := by
    intro entry member
    obtain ⟨label, _, same⟩ := routes entry member
    rw [same, List.length_append, List.length_singleton]
  have unseen : ∀ entry ∈ fresh, entry.1 ∉ seen := fun entry member old =>
    List.disjoint_of_nodup_append nodup old (List.mem_map_of_mem member)
  have ordered := List.pairwise_cons.mp levels.sorted
  have upper : ∀ entry ∈ queue, entry.2.length ≤ route.length + 1 := fun entry member =>
    levels.narrow _ rfl entry (List.mem_cons_of_mem _ member)
  have lower : ∀ entry ∈ queue ++ fresh, route.length ≤ entry.2.length := by
    intro entry member
    rcases List.mem_append.mp member with old | new
    · exact ordered.1 entry old
    · have length := longer entry new
      omega
  have bounded : ∀ entry ∈ queue ++ fresh, entry.2.length ≤ route.length + 1 := by
    intro entry member
    rcases List.mem_append.mp member with old | new
    · exact upper entry old
    · exact (longer entry new).le
  have sorted : (queue ++ fresh).Pairwise fun earlier later =>
      earlier.2.length ≤ later.2.length := by
    refine List.pairwise_append.mpr ⟨ordered.2, ?_, fun old oldMember new newMember => ?_⟩
    · exact List.pairwise_of_forall_mem_list fun first firstMember second secondMember =>
        ((longer first firstMember).trans (longer second secondMember).symm).le
    · exact (upper old oldMember).trans (longer new newMember).ge
  constructor
  case shortest =>
    intro entry member labels leads
    rcases List.mem_append.mp member with old | new
    · exact levels.shortest entry (List.mem_cons_of_mem _ old) labels leads
    · exact (longer entry new).trans_le (levels.farther (unseen entry new) leads)
  case sorted => exact sorted
  case narrow =>
    intro first isFirst entry member
    have least := lower first (List.mem_of_mem_head? isFirst)
    have most := bounded entry member
    omega
  case covers =>
    intro first isFirst vertex labels leads within
    have least := lower first (List.mem_of_mem_head? isFirst)
    have most := bounded first (List.mem_of_mem_head? isFirst)
    by_cases near : labels.length ≤ route.length
    · exact List.mem_append_left _ (levels.covers _ rfl vertex labels leads near)
    -- The next level has begun, so the last vertex before is expanded.
    rcases List.eq_nil_or_concat' labels with rfl | ⟨front, label, rfl⟩
    · exact absurd (Nat.zero_le _) near
    obtain ⟨middle, frontLeads, edge⟩ := exists_of_leads_concat leads
    rw [List.length_append, List.length_singleton] at near within
    have frontNear : front.length ≤ route.length := by omega
    have middleSeen : middle ∈ seen := levels.covers _ rfl middle front frontLeads frontNear
    rw [invariant.split] at middleSeen
    rcases List.mem_append.mp middleSeen with old | queued
    · exact List.mem_append_left _ (invariant.closed middle old _ edge)
    · obtain ⟨entry, member, rfl⟩ := List.mem_map.mp queued
      rcases List.mem_cons.mp member with rfl | later
      · exact sees _ edge
      · have short := levels.shortest entry member front frontLeads
        have first_le : first.2.length ≤ entry.2.length := by
          obtain ⟨rest, same⟩ := List.head?_eq_some_iff.mp isFirst
          rw [same] at sorted
          have inside : entry ∈ first :: rest := same ▸ List.mem_append_left _ later
          rcases List.mem_cons.mp inside with rfl | after
          · exact le_rfl
          · exact (List.pairwise_cons.mp sorted).1 entry after
        omega

/-- No route to the target is shorter than the returned one. -/
theorem Levels.length_le_of_search
    (levels : Levels adjacent source seen queue)
    (invariant : Invariant adjacent source target vertices expanded seen queue)
    (inside : ∀ vertex ∈ vertices, ∀ edge ∈ adjacent vertex, edge.1 ∈ vertices) {fuel : Nat}
    {found : List ε} (outcome : search adjacent target fuel seen queue = some found)
    {labels : List ε} (leads : Leads adjacent source target labels) :
    found.length ≤ labels.length := by
  induction fuel generalizing expanded seen queue with
  | zero => nomatch outcome
  | succ fuel induction =>
      match queue with
      | [] => nomatch outcome
      | (current, route) :: queue =>
          rw [search] at outcome
          split at outcome
          next route' scanned =>
            obtain rfl := Option.some_inj.mp outcome
            obtain ⟨label, _, rfl⟩ := scan_eq_inl scanned
            rw [List.length_append, List.length_singleton]
            exact levels.farther invariant.target_unseen leads
          next scanned =>
            exact induction (levels.expand invariant scanned)
              (invariant.expand inside scanned) outcome

omit [DecidableEq α] in
/-- The levels at the start, when only the source is queued. -/
theorem levels_initial : Levels adjacent source [source] [(source, [])] where
  shortest := by simp
  sorted := List.pairwise_singleton _ _
  narrow := by simp
  covers := by
    intro first isFirst vertex labels leads within
    obtain rfl := Option.some_inj.mp isFirst
    obtain rfl := List.eq_nil_of_length_eq_zero (Nat.le_zero.mp within)
    exact List.mem_singleton.mpr leads.symm

section Found

variable (source_mem : source ∈ vertices) (apart : source ≠ target)
  (inside : ∀ vertex ∈ vertices, ∀ edge ∈ adjacent vertex, edge.1 ∈ vertices)

include source_mem apart inside

theorem leads_of_search {fuel : Nat} {found : List ε}
    (outcome : search adjacent target fuel [source] [(source, [])] = some found) :
    Leads adjacent source target found :=
  (invariant_initial source_mem apart).leads_of_search inside outcome

/-- No route is shorter than the returned one. -/
theorem length_le_of_search {fuel : Nat} {found labels : List ε}
    (outcome : search adjacent target fuel [source] [(source, [])] = some found)
    (leads : Leads adjacent source target labels) : found.length ≤ labels.length :=
  levels_initial.length_le_of_search (invariant_initial source_mem apart) inside outcome leads

/-- The search returns a route exactly when the source reaches the target. -/
theorem exists_search_iff :
    (∃ found, search adjacent target vertices.length [source] [(source, [])] = some found) ↔
      Relation.ReflTransGen (Adjacent adjacent) source target := by
  constructor
  · rintro ⟨found, outcome⟩
    exact (leads_of_search source_mem apart inside outcome).reaches
  · intro reaches
    cases outcome : search adjacent target vertices.length [source] [(source, [])] with
    | some found => exact ⟨found, rfl⟩
    | none =>
        exact absurd reaches ((invariant_initial source_mem apart).not_reaches_of_search inside
          (by simp) outcome)

end Found

end Routes
end Foundation
