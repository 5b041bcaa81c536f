import MercuryX.Foundation.Digraph

/-!
# Topological order by counting open predecessors

A queue holds the vertices whose predecessors were all emitted. The head of the queue is emitted,
each of its arrows closes one predecessor of a target, and targets without open predecessors join
the queue, which may then be rearranged. The emitted vertices never precede their predecessors, and
all vertices are emitted exactly when the graph has no cycle.
-/

namespace Foundation
namespace Kahn

variable {α : Type*} [DecidableEq α]

/-- The open predecessors of every vertex, with the vertices that have none and wait. -/
structure Pending (α : Type*) where
  /-- The number of open incoming arrows of each vertex. -/
  counts : α → Int
  /-- The vertices that wait to be emitted. -/
  ready : List α

/-- Close one incoming arrow of a target. -/
def release (pending : Pending α) (target : α) : Pending α where
  counts := Function.update pending.counts target (pending.counts target - 1)
  ready := if pending.counts target - 1 = 0 then pending.ready ++ [target] else pending.ready

/-- Emit waiting vertices, at most as many as the fuel, in the order of the queue. -/
def drain (outgoing : α → List α) (arrange : List α → List α) : Nat → Pending α → List α
  | 0, _ => []
  | fuel + 1, pending =>
      match pending.ready with
      | [] => []
      | current :: waiting =>
          let released := (outgoing current).foldl release ⟨pending.counts, waiting⟩
          current :: drain outgoing arrange fuel ⟨released.counts, arrange released.ready⟩

/-- The number of arrows into a vertex. -/
def indegree (arrows : List (α × α)) (vertex : α) : Nat :=
  arrows.countP fun arrow => arrow.2 = vertex

/-- The targets of the arrows out of a vertex. -/
def successors (arrows : List (α × α)) (vertex : α) : List α :=
  (arrows.filter fun arrow => arrow.1 = vertex).map Prod.snd

/-! ## Closing the arrows of one vertex -/

/-- Close the incoming arrows of several targets. -/
def releaseAll (pending : Pending α) (targets : List α) : Pending α := targets.foldl release pending

theorem counts_releaseAll (targets : List α) (pending : Pending α) (vertex : α) :
    (releaseAll pending targets).counts vertex = pending.counts vertex - targets.count vertex := by
  induction targets generalizing pending with
  | nil => simp [releaseAll]
  | cons target targets induction =>
      rw [releaseAll, List.foldl_cons, ← releaseAll, induction]
      by_cases same : vertex = target
      · subst same
        simp only [release, Function.update_self, List.count_cons_self]
        push_cast
        ring
      · simp [release, Function.update_of_ne same, List.count_cons_of_ne (Ne.symm same)]

/-- A vertex joins the queue when its last open arrow is closed. -/
theorem mem_ready_releaseAll {targets : List α} {pending : Pending α}
    (enough : ∀ vertex, (targets.count vertex : Int) ≤ pending.counts vertex) {vertex : α} :
    vertex ∈ (releaseAll pending targets).ready ↔
      vertex ∈ pending.ready ∨
        vertex ∈ targets ∧ pending.counts vertex = targets.count vertex := by
  induction targets generalizing pending with
  | nil => simp [releaseAll]
  | cons target targets induction =>
      have enoughLeft : ∀ other,
          (targets.count other : Int) ≤ (release pending target).counts other := by
        intro other
        have before := enough other
        by_cases same : other = target
        · subst same
          simp only [List.count_cons_self] at before
          simp only [release, Function.update_self]
          push_cast at before
          linarith
        · rw [List.count_cons_of_ne (Ne.symm same)] at before
          simpa [release, Function.update_of_ne same] using before
      rw [releaseAll, List.foldl_cons, ← releaseAll, induction enoughLeft]
      by_cases same : vertex = target
      · subst same
        have before := enough vertex
        simp only [List.count_cons_self] at before
        push_cast at before
        have count_pos : vertex ∈ targets ↔ 0 < targets.count vertex := List.count_pos_iff.symm
        simp only [release, Function.update_self, List.count_cons_self, List.mem_cons, true_or,
          true_and]
        push_cast
        by_cases last : pending.counts vertex - 1 = 0
        · have none : targets.count vertex = 0 := by omega
          simp only [last, if_true, List.mem_append, List.mem_singleton, or_true, true_or, none,
            true_iff]
          exact .inr (by omega)
        · rw [if_neg last, count_pos]
          constructor
          · rintro (old | ⟨_, equal⟩)
            · exact .inl old
            · exact .inr (by omega)
          · rintro (old | equal)
            · exact .inl old
            · exact .inr ⟨by omega, by omega⟩
      · have kept : vertex ∈ (release pending target).ready ↔ vertex ∈ pending.ready := by
          simp only [release]
          split <;> simp [same]
        rw [kept]
        simp [release, same, List.count_cons_of_ne (Ne.symm same)]

theorem nodup_ready_releaseAll {targets : List α} {pending : Pending α}
    (enough : ∀ vertex, (targets.count vertex : Int) ≤ pending.counts vertex)
    (nodup : pending.ready.Nodup) (waiting : ∀ vertex ∈ pending.ready, vertex ∉ targets) :
    (releaseAll pending targets).ready.Nodup := by
  induction targets generalizing pending with
  | nil => simpa [releaseAll] using nodup
  | cons target targets induction =>
      have targetOpen := enough target
      rw [List.count_cons_self] at targetOpen
      push_cast at targetOpen
      have fresh : target ∉ pending.ready := fun member =>
        waiting target member List.mem_cons_self
      rw [releaseAll, List.foldl_cons, ← releaseAll]
      refine induction ?_ ?_ ?_
      · intro other
        have before := enough other
        by_cases same : other = target
        · subst same
          simp only [release, Function.update_self]
          linarith
        · rw [List.count_cons_of_ne (Ne.symm same)] at before
          simpa [release, Function.update_of_ne same] using before
      · simp only [release]
        split
        · exact List.nodup_append.mpr ⟨nodup, List.nodup_singleton _, by
            intro other member single isSingle same
            rw [List.mem_singleton] at isSingle
            exact fresh (isSingle ▸ same ▸ member)⟩
        · exact nodup
      · intro other member inTargets
        simp only [release] at member
        split at member
        · next last =>
            rcases List.mem_append.mp member with old | new
            · exact waiting other old (List.mem_cons_of_mem _ inTargets)
            · rw [List.mem_singleton] at new
              have positive : 0 < targets.count target :=
                List.count_pos_iff.mpr (new ▸ inTargets)
              omega
        · exact waiting other member (List.mem_cons_of_mem _ inTargets)

/-! ## The invariant of the queue -/

/-- What the queue and the counts say about the vertices emitted so far. -/
structure Invariant (arrows : List (α × α)) (vertices emitted : List α) (pending : Pending α) :
    Prop where
  /-- Counts are the numbers of arrows from vertices not yet emitted. -/
  counted : ∀ vertex, pending.counts vertex =
    arrows.countP fun arrow => arrow.2 = vertex ∧ arrow.1 ∉ emitted
  /-- The queue holds the vertices not yet emitted whose predecessors all were. -/
  ready_iff : ∀ vertex, vertex ∈ pending.ready ↔
    vertex ∈ vertices ∧ vertex ∉ emitted ∧ pending.counts vertex = 0
  /-- No vertex waits twice. -/
  ready_nodup : pending.ready.Nodup
  /-- No vertex is emitted twice. -/
  emitted_nodup : emitted.Nodup
  /-- Only vertices are emitted. -/
  emitted_subset : ∀ vertex ∈ emitted, vertex ∈ vertices
  /-- Every vertex is emitted after its predecessors. -/
  ordered : ∀ front vertex back, emitted = front ++ vertex :: back →
    ∀ source, Linked arrows source vertex → source ∈ front

variable {arrows : List (α × α)} {vertices emitted : List α} {outgoing : α → List α}
  {arrange : List α → List α}

theorem count_successors (arrows : List (α × α)) (source vertex : α) :
    (successors arrows source).count vertex =
      arrows.countP fun arrow => arrow.1 = source ∧ arrow.2 = vertex := by
  rw [successors, List.count, List.countP_map, List.countP_filter]
  refine List.countP_congr fun arrow _ => ?_
  simp [and_comm]

theorem countP_open_cons (arrows : List (α × α)) (emitted : List α) {current : α}
    (fresh : current ∉ emitted) (vertex : α) :
    (arrows.countP fun arrow => arrow.2 = vertex ∧ arrow.1 ∉ emitted ++ [current]) +
        (arrows.countP fun arrow => arrow.1 = current ∧ arrow.2 = vertex) =
      arrows.countP fun arrow => arrow.2 = vertex ∧ arrow.1 ∉ emitted := by
  induction arrows with
  | nil => simp
  | cons arrow arrows induction =>
      rw [List.countP_cons, List.countP_cons, List.countP_cons, ← induction]
      by_cases source : arrow.1 = current
      · by_cases target : arrow.2 = vertex
        · simp [source, target, fresh]
          omega
        · simp [target]
      · by_cases target : arrow.2 = vertex
        · by_cases done : arrow.1 ∈ emitted
          · simp [source, target, done]
          · simp [source, target, done]
            omega
        · simp [target]

/-- Nothing waits once as many vertices are emitted as there are. -/
theorem Invariant.ready_eq_nil {pending : Pending α}
    (invariant : Invariant arrows vertices emitted pending)
    (full : vertices.length ≤ emitted.length) : pending.ready = [] := by
  have emittedSubperm := List.subperm_of_subset invariant.emitted_nodup invariant.emitted_subset
  have covered : vertices ⊆ emitted := (emittedSubperm.perm_of_length_le full).symm.subset
  refine List.eq_nil_iff_forall_not_mem.mpr fun vertex member => ?_
  obtain ⟨isVertex, fresh, _⟩ := (invariant.ready_iff vertex).mp member
  exact fresh (covered isVertex)

theorem Invariant.emit {counts : α → Int} {current : α} {waiting : List α}
    (invariant : Invariant arrows vertices emitted ⟨counts, current :: waiting⟩)
    (inside : ∀ arrow ∈ arrows, arrow.2 ∈ vertices)
    (listed : (outgoing current).Perm (successors arrows current))
    (arranged : ∀ queue, (arrange queue).Perm queue) :
    Invariant arrows vertices (emitted ++ [current])
      ⟨(releaseAll ⟨counts, waiting⟩ (outgoing current)).counts,
        arrange (releaseAll ⟨counts, waiting⟩ (outgoing current)).ready⟩ := by
  obtain ⟨currentVertex, currentFresh, currentClosed⟩ :=
    (invariant.ready_iff current).mp List.mem_cons_self
  have waitingNodup := List.nodup_cons.mp invariant.ready_nodup
  have outgoingCount : ∀ vertex, (outgoing current).count vertex =
      arrows.countP fun arrow => arrow.1 = current ∧ arrow.2 = vertex := fun vertex => by
    rw [listed.count_eq, count_successors]
  have openCount : ∀ vertex, counts vertex =
      (arrows.countP fun arrow => arrow.2 = vertex ∧ arrow.1 ∉ emitted ++ [current] : Nat) +
        ((outgoing current).count vertex : Nat) := by
    intro vertex
    have whole := invariant.counted vertex
    rw [← countP_open_cons arrows emitted currentFresh vertex, ← outgoingCount] at whole
    simpa using whole
  have enough (vertex : α) : ((outgoing current).count vertex : Int) ≤ counts vertex := by
    have split := openCount vertex
    omega
  have closedNotTarget : ∀ vertex, counts vertex = 0 → vertex ∉ outgoing current := by
    intro vertex closed member
    have positive := List.count_pos_iff.mpr member
    have bound := enough vertex
    omega
  have waitingClosed : ∀ vertex ∈ waiting, vertex ∉ outgoing current := fun vertex member =>
    closedNotTarget vertex ((invariant.ready_iff vertex).mp (List.mem_cons_of_mem _ member)).2.2
  constructor
  case counted =>
    intro vertex
    have split := openCount vertex
    rw [counts_releaseAll]
    simp only
    omega
  case ready_iff =>
    intro vertex
    rw [(arranged _).mem_iff, mem_ready_releaseAll enough, counts_releaseAll]
    have old := invariant.ready_iff vertex
    simp only [List.mem_cons] at old
    simp only [List.mem_append, List.mem_singleton, not_or]
    constructor
    · rintro (waits | ⟨target, equal⟩)
      · obtain ⟨isVertex, fresh, closed⟩ := old.mp (.inr waits)
        have different : vertex ≠ current := fun same => waitingNodup.1 (same ▸ waits)
        have none := List.count_eq_zero.mpr (waitingClosed vertex waits)
        exact ⟨isVertex, ⟨fresh, different⟩, by rw [closed, none]; rfl⟩
      · have linked : (current, vertex) ∈ arrows := by
          have member := listed.mem_iff.mp target
          obtain ⟨arrow, inFilter, rfl⟩ := List.mem_map.mp member
          obtain ⟨inArrows, source⟩ := List.mem_filter.mp inFilter
          rw [decide_eq_true_eq] at source
          exact source ▸ inArrows
        have positive := List.count_pos_iff.mpr target
        have different : vertex ≠ current := by
          rintro rfl
          exact closedNotTarget vertex currentClosed target
        have fresh : vertex ∉ emitted := by
          intro member
          -- An emitted vertex has no open arrow left, but this one had the arrow from `current`.
          obtain ⟨front, back, split⟩ := List.append_of_mem member
          have earlier := invariant.ordered front vertex back split current linked
          exact currentFresh (split ▸ List.mem_append_left _ earlier)
        refine ⟨inside _ linked, ⟨fresh, different⟩, ?_⟩
        rw [equal]
        ring
    · rintro ⟨isVertex, ⟨fresh, different⟩, closed⟩
      by_cases target : vertex ∈ outgoing current
      · exact .inr ⟨target, by linarith⟩
      · rw [List.count_eq_zero.mpr target] at closed
        have waits := old.mpr ⟨isVertex, fresh, by simpa using closed⟩
        exact .inl (waits.resolve_left different)
  case ready_nodup =>
    refine (arranged _).nodup_iff.mpr ?_
    exact nodup_ready_releaseAll enough waitingNodup.2 waitingClosed
  case emitted_nodup =>
    rw [List.nodup_append]
    refine ⟨invariant.emitted_nodup, List.nodup_singleton _, ?_⟩
    intro vertex member other isCurrent same
    rw [List.mem_singleton] at isCurrent
    exact currentFresh (isCurrent ▸ same ▸ member)
  case emitted_subset =>
    intro vertex member
    rcases List.mem_append.mp member with old | new
    · exact invariant.emitted_subset vertex old
    · rw [List.mem_singleton.mp new]
      exact currentVertex
  case ordered =>
    intro front vertex back split source linked
    rcases List.eq_nil_or_concat back with rfl | ⟨shorter, last, rfl⟩
    · obtain ⟨rfl, same⟩ := List.append_inj' split rfl
      obtain rfl : current = vertex := by simpa using same
      by_contra unemitted
      have closed := invariant.counted current
      rw [currentClosed, eq_comm, Int.natCast_eq_zero, List.countP_eq_zero] at closed
      exact closed _ linked (by simpa using unemitted)
    · have split' : emitted ++ [current] = (front ++ vertex :: shorter) ++ [last] := by
        simpa using split
      obtain ⟨earlier, _⟩ := List.append_inj' split' rfl
      exact invariant.ordered front vertex shorter earlier source linked

/-- The invariant at the start, when nothing is emitted. -/
theorem invariant_initial {queue : List α} (unique : vertices.Nodup)
    (queued : queue.Perm (vertices.filter fun vertex => indegree arrows vertex = 0)) :
    Invariant arrows vertices [] ⟨fun vertex => indegree arrows vertex, queue⟩ where
  counted vertex := by simp [indegree]
  ready_iff vertex := by
    rw [queued.mem_iff]
    simp
  ready_nodup := queued.nodup_iff.mpr (unique.filter _)
  emitted_nodup := List.nodup_nil
  emitted_subset := by simp
  ordered front vertex back split := by simp at split

/-! ## Whole runs -/

/-- At the end of a run the invariant holds, and nothing waits when there was fuel for every
vertex. -/
theorem exists_drained (inside : ∀ arrow ∈ arrows, arrow.2 ∈ vertices)
    (listed : ∀ vertex, (outgoing vertex).Perm (successors arrows vertex))
    (arranged : ∀ queue, (arrange queue).Perm queue) (fuel : Nat) {pending : Pending α}
    (invariant : Invariant arrows vertices emitted pending)
    (enough : vertices.length ≤ emitted.length + fuel) :
    ∃ counts, Invariant arrows vertices (emitted ++ drain outgoing arrange fuel pending)
      ⟨counts, []⟩ := by
  induction fuel generalizing emitted pending with
  | zero =>
      obtain ⟨counts, ready⟩ := pending
      obtain rfl : ready = [] := invariant.ready_eq_nil (by simpa using enough)
      exact ⟨counts, by simpa [drain] using invariant⟩
  | succ fuel induction =>
      obtain ⟨counts, ready⟩ := pending
      cases ready with
      | nil => exact ⟨counts, by simpa [drain] using invariant⟩
      | cons current waiting =>
          have next := invariant.emit inside (listed current) arranged
          obtain ⟨final, holds⟩ := induction next (by
            rw [List.length_append, List.length_singleton]
            omega)
          refine ⟨final, ?_⟩
          rw [List.append_assoc] at holds
          exact holds

theorem drain_add (inside : ∀ arrow ∈ arrows, arrow.2 ∈ vertices)
    (listed : ∀ vertex, (outgoing vertex).Perm (successors arrows vertex))
    (arranged : ∀ queue, (arrange queue).Perm queue) (fuel more : Nat) {pending : Pending α}
    (invariant : Invariant arrows vertices emitted pending)
    (enough : vertices.length ≤ emitted.length + fuel) :
    drain outgoing arrange (fuel + more) pending = drain outgoing arrange fuel pending := by
  induction fuel generalizing emitted pending with
  | zero =>
      obtain ⟨counts, ready⟩ := pending
      obtain rfl : ready = [] := invariant.ready_eq_nil (by simpa using enough)
      cases more <;> simp [drain]
  | succ fuel induction =>
      obtain ⟨counts, ready⟩ := pending
      rw [Nat.add_right_comm]
      cases ready with
      | nil => simp [drain]
      | cons current waiting =>
          have next := invariant.emit inside (listed current) arranged
          have rest := induction next (by
            rw [List.length_append, List.length_singleton]
            omega)
          simp only [drain]
          exact congrArg (current :: ·) rest

/-- What a run from the start emits: vertices, each once and after its predecessors. -/
structure Emits (arrows : List (α × α)) (vertices order : List α) : Prop where
  /-- No vertex is emitted twice. -/
  nodup : order.Nodup
  /-- Only vertices are emitted. -/
  subset : ∀ vertex ∈ order, vertex ∈ vertices
  /-- Every vertex is emitted after its predecessors. -/
  ordered : ∀ front vertex back, order = front ++ vertex :: back →
    ∀ source, Linked arrows source vertex → source ∈ front
  /-- A vertex that is not emitted has a predecessor that is not. -/
  blocked : ∀ vertex ∈ vertices, vertex ∉ order → ∃ source ∉ order, Linked arrows source vertex

/-- A run from the start emits what it should. -/
theorem emits_drain {queue : List α} (unique : vertices.Nodup)
    (inside : ∀ arrow ∈ arrows, arrow.2 ∈ vertices)
    (listed : ∀ vertex, (outgoing vertex).Perm (successors arrows vertex))
    (arranged : ∀ queue, (arrange queue).Perm queue)
    (queued : queue.Perm (vertices.filter fun vertex => indegree arrows vertex = 0)) :
    Emits arrows vertices (drain outgoing arrange vertices.length
      ⟨fun vertex => indegree arrows vertex, queue⟩) := by
  obtain ⟨counts, final⟩ := exists_drained inside listed arranged vertices.length
    (invariant_initial unique queued) (by simp)
  rw [List.nil_append] at final
  refine ⟨final.emitted_nodup, final.emitted_subset, final.ordered, ?_⟩
  intro vertex isVertex missing
  by_contra none
  push Not at none
  have closed : counts vertex = 0 := by
    have counted : counts vertex = _ := final.counted vertex
    rw [counted, Int.natCast_eq_zero, List.countP_eq_zero]
    intro arrow member isOpen
    rw [decide_eq_true_eq] at isOpen
    refine none arrow.1 isOpen.2 ?_
    rw [Linked, ← isOpen.1]
    exact member
  exact List.not_mem_nil ((final.ready_iff vertex).mpr ⟨isVertex, missing, closed⟩)

/-- What stands before a vertex has a lower index. -/
theorem idxOf_lt_of_before {order : List α} (nodup : order.Nodup) {source target : α}
    (member : target ∈ order)
    (before : ∀ front back, order = front ++ target :: back → source ∈ front) :
    order.idxOf source < order.idxOf target := by
  obtain ⟨front, back, split⟩ := List.append_of_mem member
  have earlier := before front back split
  have later : target ∉ front := by
    intro again
    rw [split, List.nodup_append] at nodup
    exact nodup.2.2 target again target List.mem_cons_self rfl
  rw [split, List.idxOf_append_of_mem earlier, List.idxOf_append_of_notMem later]
  exact (List.idxOf_lt_length_of_mem earlier).trans_le (Nat.le_add_right _ _)

/-- All vertices are emitted exactly when the graph has no cycle. -/
theorem Emits.length_eq_iff {order : List α} (emits : Emits arrows vertices order)
    (unique : vertices.Nodup)
    (inside : ∀ arrow ∈ arrows, arrow.1 ∈ vertices ∧ arrow.2 ∈ vertices) :
    order.length = vertices.length ↔ Acyclic arrows := by
  constructor
  · intro full
    have all : order.Perm vertices :=
      (List.subperm_of_subset emits.nodup emits.subset).perm_of_length_le full.ge
    refine acyclic_of_rank (fun vertex => order.idxOf vertex) fun source target linked => ?_
    refine idxOf_lt_of_before emits.nodup (all.mem_iff.mpr (inside _ linked).2) ?_
    exact fun front back split => emits.ordered front target back split source linked
  · intro acyclic
    by_contra short
    have missing : (vertices.filter fun vertex => vertex ∉ order).toFinset.Nonempty := by
      by_contra none
      rw [Finset.not_nonempty_iff_eq_empty, List.toFinset_eq_empty_iff, List.filter_eq_nil_iff]
        at none
      have covered : vertices ⊆ order := fun vertex member => by simpa using none vertex member
      have sub : order ⊆ vertices := emits.subset
      exact short (Nat.le_antisymm (List.subperm_of_subset emits.nodup sub).length_le
        (List.subperm_of_subset unique covered).length_le)
    obtain ⟨first, member, alone⟩ := acyclic.exists_source missing
    have unlisted : first ∈ vertices ∧ first ∉ order := by simpa using member
    obtain ⟨source, sourceMissing, linked⟩ := emits.blocked first unlisted.1 unlisted.2
    exact alone source (by simpa [sourceMissing] using (inside _ linked).1) linked

/-! ## Emitting the least first -/

/-- The vertex can be emitted next: it was not yet, and its predecessors all were. -/
structure Available (arrows : List (α × α)) (vertices emitted : List α) (vertex : α) : Prop where
  /-- The vertex is one of the vertices. -/
  isVertex : vertex ∈ vertices
  /-- The vertex was not emitted. -/
  fresh : vertex ∉ emitted
  /-- Its predecessors were. -/
  predecessors : ∀ source, Linked arrows source vertex → source ∈ emitted

/-- The queue holds the vertices that can be emitted next. -/
theorem Invariant.mem_ready_iff_available {pending : Pending α}
    (invariant : Invariant arrows vertices emitted pending) {vertex : α} :
    vertex ∈ pending.ready ↔ Available arrows vertices emitted vertex := by
  have closed : pending.counts vertex = 0 ↔
      ∀ source, Linked arrows source vertex → source ∈ emitted := by
    rw [invariant.counted, Int.natCast_eq_zero, List.countP_eq_zero]
    constructor
    · intro none source linked
      by_contra isOpen
      exact none _ linked (by simpa using isOpen)
    · rintro all ⟨source, target⟩ member isOpen
      simp only [decide_eq_true_eq] at isOpen
      obtain ⟨rfl, isOpen⟩ := isOpen
      exact isOpen (all source member)
  rw [invariant.ready_iff, closed]
  constructor
  · rintro ⟨isVertex, fresh, predecessors⟩
    exact ⟨isVertex, fresh, predecessors⟩
  · rintro ⟨isVertex, fresh, predecessors⟩
    exact ⟨isVertex, fresh, predecessors⟩

/-- A queue that is kept in order emits the least vertex that can be emitted. -/
theorem least_of_drain [LinearOrder α] (inside : ∀ arrow ∈ arrows, arrow.2 ∈ vertices)
    (listed : ∀ vertex, (outgoing vertex).Perm (successors arrows vertex))
    (arranged : ∀ queue, (arrange queue).Perm queue)
    (sorted : ∀ queue, (arrange queue).Pairwise (· ≤ ·)) (fuel : Nat) {pending : Pending α}
    (invariant : Invariant arrows vertices emitted pending)
    (ready : pending.ready.Pairwise (· ≤ ·)) {front back : List α} {vertex other : α}
    (split : drain outgoing arrange fuel pending = front ++ vertex :: back)
    (available : Available arrows vertices (emitted ++ front) other) : vertex ≤ other := by
  induction fuel generalizing emitted pending front with
  | zero => simp [drain] at split
  | succ fuel induction =>
      obtain ⟨counts, queue⟩ := pending
      cases queue with
      | nil => simp [drain] at split
      | cons current waiting =>
          cases front with
          | nil =>
              obtain ⟨rfl, _⟩ := List.cons.inj split
              rw [List.append_nil] at available
              rcases List.mem_cons.mp (invariant.mem_ready_iff_available.mpr available) with
                rfl | waits
              · exact le_rfl
              · exact (List.pairwise_cons.mp ready).1 other waits
          | cons first front =>
              obtain ⟨rfl, rest⟩ := List.cons.inj split
              have next := invariant.emit inside (listed current) arranged
              refine induction next (sorted _) rest ?_
              rwa [List.append_assoc]

/-- All vertices, each after its predecessors and always the least that can be emitted. -/
structure LeastFirst [LinearOrder α] (arrows : List (α × α)) (vertices order : List α) : Prop where
  /-- Every vertex stands in the order once for each time it is a vertex. -/
  complete : order.Perm vertices
  /-- Every vertex could be emitted in its place. -/
  available : ∀ front vertex back, order = front ++ vertex :: back →
    Available arrows vertices front vertex
  /-- No lesser vertex could. -/
  least : ∀ front vertex back, order = front ++ vertex :: back →
    ∀ other, Available arrows vertices front other → vertex ≤ other

/-- Without a cycle, a queue that is kept in order emits all vertices, the least first. -/
theorem leastFirst_drain [LinearOrder α] (unique : vertices.Nodup)
    (inside : ∀ arrow ∈ arrows, arrow.1 ∈ vertices ∧ arrow.2 ∈ vertices)
    (listed : ∀ vertex, (outgoing vertex).Perm (successors arrows vertex))
    (arranged : ∀ queue, (arrange queue).Perm queue)
    (sorted : ∀ queue, (arrange queue).Pairwise (· ≤ ·)) (acyclic : Acyclic arrows)
    {queue : List α} (ready : queue.Pairwise (· ≤ ·))
    (queued : queue.Perm (vertices.filter fun vertex => indegree arrows vertex = 0)) :
    LeastFirst arrows vertices (drain outgoing arrange vertices.length
      ⟨fun vertex => indegree arrows vertex, queue⟩) := by
  have targets : ∀ arrow ∈ arrows, arrow.2 ∈ vertices := fun arrow member =>
    (inside arrow member).2
  have emits := emits_drain unique targets listed arranged queued
  have full := (emits.length_eq_iff unique inside).mpr acyclic
  constructor
  case complete =>
    exact (List.subperm_of_subset emits.nodup emits.subset).perm_of_length_le full.ge
  case available =>
    intro front vertex back split
    refine ⟨emits.subset vertex (by simp [split]), fun again => ?_,
      emits.ordered front vertex back split⟩
    have nodup := emits.nodup
    rw [split, List.nodup_append] at nodup
    exact nodup.2.2 vertex again vertex List.mem_cons_self rfl
  case least =>
    intro front vertex back split other available
    exact least_of_drain targets listed arranged sorted vertices.length
      (invariant_initial unique queued) ready split available

theorem LeastFirst.idxOf_lt [LinearOrder α] {order : List α}
    (leastFirst : LeastFirst arrows vertices order) (unique : vertices.Nodup) {source target : α}
    (linked : Linked arrows source target) (isVertex : target ∈ vertices) :
    order.idxOf source < order.idxOf target := by
  refine idxOf_lt_of_before (leastFirst.complete.nodup_iff.mpr unique)
    (leastFirst.complete.mem_iff.mpr isVertex) fun front back split => ?_
  exact (leastFirst.available front target back split).predecessors source linked

end Kahn
end Foundation
