import MercuryX.Foundation.Digraph

/-!
# Depth-first search for cycles

A depth-first search that fails when it meets a vertex of its own stack. The vertices it finishes
are accessible for the relation that it follows, and it can only fail by closing a cycle: it
finishes exactly on the graphs without one. A second search answers instead of failing, and its
answer is exact.
-/

namespace Foundation
namespace DepthFirst

variable {α : Type*} [DecidableEq α] (next : α → List α)

/-- Finish a vertex after all that it leads to, unless it is finished already; fail on a vertex of
the stack, or when the fuel is used up. -/
def visit : Nat → List α → List α → α → Option (List α)
  | 0, _, _, _ => none
  | fuel + 1, visiting, visited, vertex =>
      if vertex ∈ visited then some visited
      else if vertex ∈ visiting then none
      else do
        let below ← (next vertex).foldlM (visit fuel (vertex :: visiting)) visited
        return vertex :: below

/-- Visit several vertices one after another. -/
def visitAll (fuel : Nat) (starts : List α) : Option (List α) :=
  starts.foldlM (visit next fuel []) []

variable {next}

/-! ## Finished vertices are accessible -/

/-- What a visit has finished is accessible, and it keeps what was finished before. -/
def Finished (next : α → List α) (before after : List α) : Prop :=
  before ⊆ after ∧ ((∀ vertex ∈ before, Acc (fun target source => target ∈ next source) vertex) →
    ∀ vertex ∈ after, Acc (fun target source => target ∈ next source) vertex)

omit [DecidableEq α] in
theorem Finished.trans {first second third : List α} (early : Finished next first second)
    (late : Finished next second third) : Finished next first third :=
  ⟨List.Subset.trans early.1 late.1, fun accessible => late.2 (early.2 accessible)⟩

omit [DecidableEq α] in
/-- Visits one after another finish all their vertices. -/
theorem finished_foldlM {step : List α → α → Option (List α)} {targets : List α}
    (each : ∀ before after, ∀ vertex ∈ targets, step before vertex = some after →
      Finished next before after ∧ vertex ∈ after) {before after : List α}
    (outcome : targets.foldlM step before = some after) :
    Finished next before after ∧ targets ⊆ after := by
  induction targets generalizing before with
  | nil =>
      obtain rfl : before = after := Option.some_inj.mp outcome
      exact ⟨⟨List.Subset.refl _, id⟩, List.nil_subset _⟩
  | cons target targets induction =>
      rw [List.foldlM_cons, Option.bind_eq_bind, Option.bind_eq_some_iff] at outcome
      obtain ⟨middle, first, rest⟩ := outcome
      obtain ⟨early, member⟩ := each before middle target List.mem_cons_self first
      obtain ⟨late, others⟩ := induction
        (fun before after vertex inside => each before after vertex (List.mem_cons_of_mem _ inside))
        rest
      exact ⟨early.trans late, List.cons_subset.mpr ⟨late.1 member, others⟩⟩

theorem finished_visit {fuel : Nat} {visiting before after : List α} {vertex : α}
    (outcome : visit next fuel visiting before vertex = some after) :
    Finished next before after ∧ vertex ∈ after := by
  induction fuel generalizing visiting before after vertex with
  | zero => nomatch outcome
  | succ fuel induction =>
      rw [visit] at outcome
      split at outcome
      · next known =>
          obtain rfl := Option.some_inj.mp outcome
          exact ⟨⟨List.Subset.refl _, id⟩, known⟩
      · split at outcome
        · nomatch outcome
        · obtain ⟨below, descended, made⟩ := Option.bind_eq_some_iff.mp outcome
          obtain rfl := Option.some_inj.mp made
          obtain ⟨finished, children⟩ :=
            finished_foldlM (fun _ _ _ _ step => induction step) descended
          refine ⟨⟨List.subset_cons_of_subset _ finished.1, fun accessible => ?_⟩,
            List.mem_cons_self⟩
          have belowAccessible := finished.2 accessible
          rw [List.forall_mem_cons]
          exact ⟨.intro _ fun target child => belowAccessible target (children child),
            belowAccessible⟩

/-! ## A search fails only on a cycle -/

omit [DecidableEq α] in
theorem isSome_foldlM {step : List α → α → Option (List α)} {targets : List α}
    (each : ∀ before, ∀ vertex ∈ targets, (step before vertex).isSome) (before : List α) :
    (targets.foldlM step before).isSome := by
  induction targets generalizing before with
  | nil => rfl
  | cons target targets induction =>
      obtain ⟨middle, first⟩ :=
        Option.isSome_iff_exists.mp (each before target List.mem_cons_self)
      rw [List.foldlM_cons, first]
      exact induction (fun before vertex inside =>
        each before vertex (List.mem_cons_of_mem _ inside))
        middle

variable {vertices : List α}

/-- Where nothing leads to itself, a visit from below its stack finishes. -/
theorem isSome_visit (inside : ∀ vertex ∈ vertices, next vertex ⊆ vertices)
    (acyclic : ∀ vertex, ¬ Relation.TransGen (fun target source => target ∈ next source)
      vertex vertex)
    {fuel : Nat} {visiting : List α} {vertex : α} (isVertex : vertex ∈ vertices)
    (nodup : visiting.Nodup) (stacked : visiting ⊆ vertices)
    (below : ∀ above ∈ visiting, Relation.TransGen (fun target source => target ∈ next source)
      vertex above)
    (enough : vertices.length < fuel + visiting.length) (visited : List α) :
    (visit next fuel visiting visited vertex).isSome := by
  induction fuel generalizing visiting vertex visited with
  | zero =>
      have few := (List.subperm_of_subset nodup stacked).length_le
      omega
  | succ fuel induction =>
      rw [visit]
      split
      · rfl
      · have fresh : vertex ∉ visiting := fun member => acyclic vertex (below vertex member)
        rw [if_neg fresh]
        have descends (before : List α) : ∀ child ∈ next vertex,
            (visit next fuel (vertex :: visiting) before child).isSome := by
          intro child isChild
          refine induction (inside vertex isVertex isChild) (List.nodup_cons.mpr ⟨fresh, nodup⟩)
            (List.cons_subset.mpr ⟨isVertex, stacked⟩) ?_ ?_ before
          · rw [List.forall_mem_cons]
            exact ⟨.single isChild, fun above member => .head isChild (below above member)⟩
          · rw [List.length_cons]
            omega
        obtain ⟨after, finished⟩ := Option.isSome_iff_exists.mp (isSome_foldlM descends visited)
        simp [finished]

/-- The search from all vertices, with more fuel than there are vertices, finishes exactly when
nothing leads to itself. -/
theorem isSome_visitAll_iff (inside : ∀ vertex ∈ vertices, next vertex ⊆ vertices)
    (outside : ∀ vertex ∉ vertices, next vertex = []) {starts : List α}
    (all : ∀ vertex, vertex ∈ starts ↔ vertex ∈ vertices) {fuel : Nat}
    (enough : vertices.length < fuel) :
    (visitAll next fuel starts).isSome ↔
      ∀ vertex, ¬ Relation.TransGen (fun target source => target ∈ next source) vertex vertex := by
  constructor
  · intro finishes vertex cycle
    obtain ⟨after, outcome⟩ := Option.isSome_iff_exists.mp finishes
    obtain ⟨finished, covered⟩ :=
      finished_foldlM (fun _ _ _ _ step => finished_visit step) outcome
    have accessible := finished.2 fun vertex none => absurd none List.not_mem_nil
    obtain ⟨source, _, linked⟩ := Relation.TransGen.tail'_iff.mp cycle
    have isVertex : vertex ∈ vertices := by
      by_contra isOutside
      rw [outside vertex isOutside] at linked
      exact absurd linked List.not_mem_nil
    have own := (accessible vertex (covered ((all vertex).mpr isVertex))).transGen
    exact not_self_of_acc own cycle
  · intro acyclic
    refine isSome_foldlM (fun before vertex start => ?_) []
    exact isSome_visit inside acyclic ((all vertex).mp start) List.nodup_nil
      (List.nil_subset _) (fun above none => absurd none List.not_mem_nil) enough before

/-! ## A search that tells a cycle from a finished vertex

The search keeps the vertices of its stack and those that it finished, and answers whether it came
back to its stack. It stops with what it has as soon as it did.
-/

/-- The vertices of the stack, last entered first, and those that are finished. -/
structure Progress (α : Type*) where
  visiting : List α
  visited : List α

/-- Search from several vertices, until one of them leads back to the stack. -/
def searchAny (step : Progress α → α → Option (Bool × Progress α)) :
    Progress α → List α → Option (Bool × Progress α)
  | progress, [] => some (false, progress)
  | progress, target :: targets => do
      let (found, after) ← step progress target
      if found then return (true, after) else searchAny step after targets

variable (next) in
/-- Whether a vertex leads back to the stack; there is no answer when the fuel is used up. -/
def search : Nat → Progress α → α → Option (Bool × Progress α)
  | 0, _, _ => none
  | fuel + 1, progress, vertex =>
      if vertex ∈ progress.visiting then some (true, progress)
      else if vertex ∈ progress.visited then some (false, progress)
      else do
        let (found, below) ← searchAny (search fuel)
          { progress with visiting := vertex :: progress.visiting } (next vertex)
        if found then return (true, below)
        return (false, ⟨below.visiting.erase vertex, vertex :: below.visited⟩)

/-- What a search that does not come back to its stack leaves: the stack as it was, and more
finished vertices, which are accessible. -/
structure Clear (next : α → List α) (before after : Progress α) : Prop where
  /-- The stack is as it was. -/
  visiting : after.visiting = before.visiting
  /-- What was finished stays so, and what is finished is accessible. -/
  finished : Finished next before.visited after.visited

omit [DecidableEq α] in
theorem Clear.trans {first second third : Progress α} (early : Clear next first second)
    (late : Clear next second third) : Clear next first third :=
  ⟨late.visiting.trans early.visiting, early.finished.trans late.finished⟩

/-- The answers of a search: something leads to itself, or the vertices are finished. -/
def Answers (next : α → List α) (before : Progress α) (targets : List α)
    (outcome : Option (Bool × Progress α)) : Prop :=
  (∃ after, outcome = some (true, after) ∧
      ∃ vertex, Relation.TransGen (fun source target => target ∈ next source) vertex vertex) ∨
    ∃ after, outcome = some (false, after) ∧ Clear next before after ∧ targets ⊆ after.visited

omit [DecidableEq α] in
/-- Searches one after another answer for all their vertices. -/
theorem answers_searchAny {step : Progress α → α → Option (Bool × Progress α)}
    {targets : List α} {before : Progress α}
    (each : ∀ progress, progress.visiting = before.visiting → ∀ target ∈ targets,
      Answers next progress [target] (step progress target)) :
    Answers next before targets (searchAny step before targets) := by
  suffices general : ∀ progress, progress.visiting = before.visiting →
      Answers next progress targets (searchAny step progress targets) from general before rfl
  induction targets with
  | nil =>
      exact fun progress _ =>
        .inr ⟨progress, rfl, ⟨rfl, List.Subset.refl _, id⟩, List.nil_subset _⟩
  | cons target targets induction =>
      intro progress same
      rcases each progress same target List.mem_cons_self with
        ⟨after, outcome, cycle⟩ | ⟨middle, outcome, early, member⟩
      · exact .inl ⟨after, by simp [searchAny, outcome], cycle⟩
      · have goesOn : searchAny step progress (target :: targets) =
            searchAny step middle targets := by
          simp [searchAny, outcome]
        rw [goesOn]
        rcases induction (fun progress same other inside =>
            each progress same other (List.mem_cons_of_mem _ inside)) middle
          (early.visiting.trans same) with closed | ⟨after, rest, late, covered⟩
        · exact .inl closed
        · refine .inr ⟨after, rest, early.trans late, ?_⟩
          exact List.cons_subset.mpr ⟨late.finished.1 (member List.mem_cons_self), covered⟩

/-- With fuel for the vertices that are not on the stack, a search from below its stack answers. -/
theorem answers_search (inside : ∀ vertex ∈ vertices, next vertex ⊆ vertices) {fuel : Nat}
    {progress : Progress α} {vertex : α} (isVertex : vertex ∈ vertices)
    (nodup : progress.visiting.Nodup) (stacked : progress.visiting ⊆ vertices)
    (below : ∀ above ∈ progress.visiting,
      Relation.TransGen (fun source target => target ∈ next source) above vertex)
    (enough : vertices.length < fuel + progress.visiting.length) :
    Answers next progress [vertex] (search next fuel progress vertex) := by
  induction fuel generalizing progress vertex with
  | zero =>
      have few := (List.subperm_of_subset nodup stacked).length_le
      omega
  | succ fuel induction =>
      rw [search]
      split
      case isTrue onStack => exact .inl ⟨progress, rfl, vertex, below vertex onStack⟩
      case isFalse fresh =>
        split
        case isTrue known =>
          exact .inr ⟨progress, rfl, ⟨rfl, List.Subset.refl _, id⟩, by simpa using known⟩
        case isFalse unknown =>
          have descends : Answers next { progress with visiting := vertex :: progress.visiting }
              (next vertex) (searchAny (search next fuel)
                { progress with visiting := vertex :: progress.visiting } (next vertex)) := by
            refine answers_searchAny fun deeper same child isChild => ?_
            refine induction (inside vertex isVertex isChild) ?_ ?_ ?_ ?_
            · rw [same]
              exact List.nodup_cons.mpr ⟨fresh, nodup⟩
            · rw [same]
              exact List.cons_subset.mpr ⟨isVertex, stacked⟩
            · rw [same, List.forall_mem_cons]
              exact ⟨.single isChild, fun above member => (below above member).tail isChild⟩
            · rw [same, List.length_cons]
              omega
          rcases descends with ⟨after, outcome, cycle⟩ | ⟨after, outcome, clear, covered⟩
          · exact .inl ⟨after, by simp [outcome], cycle⟩
          · refine .inr ⟨⟨after.visiting.erase vertex, vertex :: after.visited⟩, by simp [outcome],
              ⟨?_, ?_⟩, by simp⟩
            · simp [clear.visiting]
            · refine ⟨List.subset_cons_of_subset _ clear.finished.1, fun accessible => ?_⟩
              have belowAccessible := clear.finished.2 accessible
              rw [List.forall_mem_cons]
              exact ⟨.intro _ fun target child => belowAccessible target (covered child),
                belowAccessible⟩

/-- The search from all vertices, with more fuel than there are vertices, answers, and finds a
vertex that leads to itself exactly when there is one. -/
theorem exists_searchAny_iff (inside : ∀ vertex ∈ vertices, next vertex ⊆ vertices)
    (outside : ∀ vertex ∉ vertices, next vertex = []) {fuel : Nat}
    (enough : vertices.length < fuel) :
    ∃ found after, searchAny (search next fuel) ⟨[], []⟩ vertices = some (found, after) ∧
      (found = true ↔
        ∃ vertex, Relation.TransGen (fun source target => target ∈ next source) vertex vertex) := by
  have answers : Answers next ⟨[], []⟩ vertices
      (searchAny (search next fuel) ⟨[], []⟩ vertices) := by
    refine answers_searchAny fun progress same vertex isVertex => ?_
    refine answers_search inside isVertex ?_ ?_ ?_ ?_
    · simp [same]
    · simp [same]
    · simp [same]
    · simpa [same] using enough
  rcases answers with ⟨after, outcome, cycle⟩ | ⟨after, outcome, clear, covered⟩
  · exact ⟨true, after, outcome, by simpa using cycle⟩
  · refine ⟨false, after, outcome, iff_of_false Bool.false_ne_true ?_⟩
    rintro ⟨vertex, cycle⟩
    have accessible := clear.finished.2 fun vertex none => absurd none List.not_mem_nil
    obtain ⟨target, linked, _⟩ := Relation.TransGen.head'_iff.mp cycle
    have isVertex : vertex ∈ vertices := by
      by_contra isOutside
      rw [outside vertex isOutside] at linked
      exact absurd linked List.not_mem_nil
    exact not_self_of_acc (accessible vertex (covered isVertex)).transGen
      (Relation.transGen_swap.mpr cycle)

end DepthFirst
end Foundation
