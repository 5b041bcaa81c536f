import MercuryX.Contracts
import MercuryX.Foundation.Dict

/-!
# Constraint propagation

Sets of constraints are merged one after another, and the first constraint that contradicts one
that is there is refused. Whether they merge, and to what, depends on the constraints alone: the
order of the sets does not matter, and sets that were merged before may be merged on.
-/

namespace MercuryX
namespace ComputeNegotiator

open Foundation

variable {ν : Type}

/-! ## Dictionaries of constraints -/

/-- The constraints in the order of their keys. -/
def byKey (merged : Dict String ν) : Dict String ν where
  entries := sortOn Prod.fst merged.entries
  nodup := ((sortOn_perm Prod.fst merged.entries).map Prod.fst).nodup_iff.mpr merged.nodup

/-- No key is given two values. -/
def Consistent (entries : List (String × ν)) : Prop :=
  ∀ key value other, (key, value) ∈ entries → (key, other) ∈ entries → value = other

/-- A dictionary holds exactly some constraints. -/
def Holds (merged : Dict String ν) (entries : List (String × ν)) : Prop :=
  ∀ key value, merged.get? key = some value ↔ (key, value) ∈ entries

theorem Holds.consistent {merged : Dict String ν} {entries : List (String × ν)}
    (holds : Holds merged entries) : Consistent entries := by
  intro key value other given givenToo
  have held : merged.get? key = some value := (holds key value).mpr given
  rw [(holds key other).mpr givenToo, Option.some.injEq] at held
  exact held.symm

@[simp] theorem get?_byKey (merged : Dict String ν) (key : String) :
    (byKey merged).get? key = merged.get? key := by
  ext value
  rw [Dict.get?_eq_some_iff, Dict.get?_eq_some_iff, byKey, mem_sortOn]

theorem sorted_byKey (merged : Dict String ν) :
    (byKey merged).entries.Pairwise fun left right => left.1 < right.1 := by
  have apart : (byKey merged).entries.Pairwise fun left right => left.1 ≠ right.1 :=
    List.pairwise_map.mp (byKey merged).nodup
  exact (List.pairwise_and_iff.mpr ⟨sortOn_pairwise Prod.fst merged.entries, apart⟩).imp
    fun both => lt_of_le_of_ne both.1 both.2

/-- Dictionaries with their keys in order are the same when they hold the same. -/
theorem eq_of_holds {left right : Dict String ν} {entries : List (String × ν)}
    (leftSorted : left.entries.Pairwise fun first second => first.1 < second.1)
    (rightSorted : right.entries.Pairwise fun first second => first.1 < second.1)
    (leftHolds : Holds left entries) (rightHolds : Holds right entries) : left = right := by
  have same : ∀ entry, entry ∈ left.entries ↔ entry ∈ right.entries := by
    rintro ⟨key, value⟩
    rw [← Dict.get?_eq_some_iff, ← Dict.get?_eq_some_iff, leftHolds key value, rightHolds key value]
  have perm : left.entries.Perm right.entries :=
    (List.perm_ext_iff_of_nodup left.nodup.of_map right.nodup.of_map).mpr same
  have separates : Separates Prod.fst left.entries := by
    rintro ⟨key, value⟩ given ⟨_, other⟩ givenToo rfl
    have held := Dict.get?_eq_some_iff.mpr given
    rw [Dict.get?_eq_some_iff.mpr givenToo, Option.some.injEq] at held
    rw [held]
  have entries_eq : left.entries = right.entries :=
    eq_of_perm_of_sorted separates perm (leftSorted.imp le_of_lt) (rightSorted.imp le_of_lt)
  obtain ⟨_, _⟩ := left
  obtain ⟨_, _⟩ := right
  subst entries_eq
  rfl

/-- The constraints of some sets. -/
def allEntries (constraintSets : List (Dict String ν)) : List (String × ν) :=
  constraintSets.flatMap Dict.entries

theorem mem_allEntries {constraintSets : List (Dict String ν)} {key : String} {value : ν} :
    (key, value) ∈ allEntries constraintSets ↔
      ∃ constraints ∈ constraintSets, constraints.get? key = some value := by
  simp [allEntries, Dict.get?_eq_some_iff]

theorem holds_empty : Holds (Dict.empty : Dict String ν) [] := by
  intro key value
  simp

/-! ## Propagation -/

variable [DecidableEq ν]

/-- Assign one constraint, unless another value is there. -/
def assignConstraint (merged : Dict String ν) (entry : String × ν) : Except Fault (Dict String ν) :=
  match merged.get? entry.1 with
  | some held =>
      if held ≠ entry.2 then .error (.value s!"constraint contradiction: {entry.1}")
      else .ok (merged.insert entry.1 entry.2)
  | none => .ok (merged.insert entry.1 entry.2)

/-- Merge sets of constraints. -/
def propagateConstraints (constraintSets : List (Dict String ν)) :
    Except Fault (Dict String ν) := do
  let merged ← (allEntries constraintSets).foldlM assignConstraint Dict.empty
  return byKey merged

theorem assignConstraint_eq_ok_iff {merged next : Dict String ν} {entry : String × ν} :
    assignConstraint merged entry = .ok next ↔
      (∀ held, merged.get? entry.1 = some held → held = entry.2) ∧
        merged.insert entry.1 entry.2 = next := by
  unfold assignConstraint
  cases merged.get? entry.1 with
  | none => simp
  | some held =>
      by_cases same : held = entry.2
      · simp [same]
      · simp [same]

/-- One constraint that contradicts nothing is held with the others. -/
theorem Holds.assign {merged next : Dict String ν} {entries : List (String × ν)}
    {entry : String × ν} (holds : Holds merged entries)
    (assigned : assignConstraint merged entry = .ok next) : Holds next (entries ++ [entry]) := by
  obtain ⟨agrees, rfl⟩ := assignConstraint_eq_ok_iff.mp assigned
  obtain ⟨changed, given⟩ := entry
  intro key value
  rw [List.mem_append, List.mem_singleton, Prod.mk.injEq]
  by_cases same : key = changed
  · subst same
    rw [Dict.get?_insert_self, ← holds key value, Option.some.injEq]
    constructor
    · rintro rfl
      exact .inr ⟨rfl, rfl⟩
    · rintro (held | ⟨-, rfl⟩)
      · exact (agrees value held).symm
      · rfl
  · rw [Dict.get?_insert_of_ne merged same, holds key value]
    simp [same]

/-- Constraints are merged exactly when they are consistent with one another, and what is merged
holds them all. -/
theorem foldlM_assignConstraint {merged : Dict String ν} {held entries : List (String × ν)}
    (holds : Holds merged held) :
    (Consistent (held ++ entries) ↔ ∃ final, entries.foldlM assignConstraint merged = .ok final) ∧
      ∀ final, entries.foldlM assignConstraint merged = .ok final →
        Holds final (held ++ entries) := by
  induction entries generalizing merged held with
  | nil =>
      rw [List.append_nil]
      refine ⟨iff_of_true holds.consistent ⟨merged, rfl⟩, ?_⟩
      rintro final ⟨⟩
      exact holds
  | cons entry entries induction =>
      rw [List.append_cons, List.foldlM_cons]
      match assigned : assignConstraint merged entry with
      | .ok next => exact induction (holds.assign assigned)
      | .error raised =>
          refine ⟨iff_of_false (fun consistent => ?_) (by simp), by simp⟩
          -- the value that is held contradicts the entry
          have agrees : ∀ value, merged.get? entry.1 = some value → value = entry.2 := by
            intro value heldValue
            have given := (holds entry.1 value).mp heldValue
            exact consistent entry.1 value entry.2 (by simp [given]) (by simp)
          have accepted := assignConstraint_eq_ok_iff.mpr ⟨agrees, rfl⟩
          rw [assigned] at accepted
          nomatch accepted

theorem foldlM_assignConstraint_error {merged : Dict String ν} {held entries : List (String × ν)}
    (holds : Holds merged held) {raised : Fault}
    (failed : entries.foldlM assignConstraint merged = .error raised) :
    ∃ key value other, (key, value) ∈ held ++ entries ∧ (key, other) ∈ held ++ entries ∧
      value ≠ other ∧ raised = .value s!"constraint contradiction: {key}" := by
  induction entries generalizing merged held with
  | nil => nomatch failed
  | cons entry entries induction =>
      rw [List.append_cons]
      rw [List.foldlM_cons] at failed
      match assigned : assignConstraint merged entry with
      | .ok next =>
          rw [assigned] at failed
          exact induction (holds.assign assigned) failed
      | .error first =>
          rw [assigned] at failed
          obtain rfl : first = raised := Except.error.inj failed
          unfold assignConstraint at assigned
          split at assigned
          case h_1 value heldValue =>
            split at assigned
            case isTrue different =>
              have given := (holds entry.1 value).mp heldValue
              exact ⟨entry.1, value, entry.2, by simp [given], by simp, different,
                (Except.error.inj assigned).symm⟩
            case isFalse => nomatch assigned
          case h_2 => nomatch assigned

theorem foldlM_allEntries (constraintSets : List (Dict String ν)) :
    (Consistent (allEntries constraintSets) ↔ ∃ final,
        (allEntries constraintSets).foldlM assignConstraint Dict.empty = .ok final) ∧
      ∀ final, (allEntries constraintSets).foldlM assignConstraint Dict.empty = .ok final →
        Holds final (allEntries constraintSets) :=
  foldlM_assignConstraint holds_empty

theorem propagateConstraints_eq_ok_iff {constraintSets : List (Dict String ν)}
    {merged : Dict String ν} : propagateConstraints constraintSets = .ok merged ↔
      merged.entries.Pairwise (fun left right => left.1 < right.1) ∧
        Holds merged (allEntries constraintSets) := by
  obtain ⟨answers, held⟩ := foldlM_allEntries constraintSets
  simp only [propagateConstraints, bind_eq_ok, pure_eq_ok, Except.ok.injEq]
  constructor
  · rintro ⟨final, folded, rfl⟩
    refine ⟨sorted_byKey final, fun key value => ?_⟩
    rw [get?_byKey]
    exact held final folded key value
  · rintro ⟨sorted, holds⟩
    obtain ⟨final, folded⟩ := answers.mp holds.consistent
    refine ⟨final, folded, eq_of_holds (sorted_byKey final) sorted (fun key value => ?_) holds⟩
    rw [get?_byKey]
    exact held final folded key value

theorem exists_propagated_iff {constraintSets : List (Dict String ν)} :
    (∃ merged, propagateConstraints constraintSets = .ok merged) ↔
      Consistent (allEntries constraintSets) := by
  rw [(foldlM_allEntries constraintSets).1]
  simp [propagateConstraints]

/-- What the propagation of some sets of constraints does. -/
structure PropagationLaw (constraintSets : List (Dict String ν)) : Prop where
  /-- It answers exactly when no key is given two values. -/
  answers : (∃ merged, propagateConstraints constraintSets = .ok merged) ↔
    ∀ key value other, (∃ constraints ∈ constraintSets, constraints.get? key = some value) →
      (∃ constraints ∈ constraintSets, constraints.get? key = some other) → value = other
  /-- The answer holds what is in some set and nothing else, in the order of the keys. -/
  merges : ∀ merged, propagateConstraints constraintSets = .ok merged →
    merged.entries.Pairwise (fun left right => left.1 < right.1) ∧
      ∀ key value, merged.get? key = some value ↔
        ∃ constraints ∈ constraintSets, constraints.get? key = some value
  /-- What it raises names a key that is given two values. -/
  refuses : ∀ raised, propagateConstraints constraintSets = .error raised →
    ∃ key value other, (∃ constraints ∈ constraintSets, constraints.get? key = some value) ∧
      (∃ constraints ∈ constraintSets, constraints.get? key = some other) ∧ value ≠ other ∧
      raised = .value s!"constraint contradiction: {key}"
  /-- Neither the order of the sets nor their repetition matters. -/
  reordered : ∀ others, (∀ constraints, constraints ∈ others ↔ constraints ∈ constraintSets) →
    ∀ merged, propagateConstraints others = .ok merged ↔
      propagateConstraints constraintSets = .ok merged
  /-- Merging in stages comes to the same. -/
  staged : ∀ front back first, constraintSets = front ++ back →
    propagateConstraints front = .ok first → ∀ merged,
      propagateConstraints (first :: back) = .ok merged ↔
        propagateConstraints constraintSets = .ok merged

theorem propagationLaw (constraintSets : List (Dict String ν)) : PropagationLaw constraintSets where
  answers := by
    rw [exists_propagated_iff]
    simp only [Consistent, mem_allEntries]
  merges merged propagated := by
    obtain ⟨sorted, holds⟩ := propagateConstraints_eq_ok_iff.mp propagated
    exact ⟨sorted, fun key value => (holds key value).trans mem_allEntries⟩
  refuses raised failed := by
    have folded : (allEntries constraintSets).foldlM assignConstraint Dict.empty =
        .error raised := by
      cases outcome : (allEntries constraintSets).foldlM assignConstraint Dict.empty with
      | ok merged => simp [propagateConstraints, outcome] at failed
      | error other => simpa [propagateConstraints, outcome] using failed
    obtain ⟨key, value, other, given, givenToo, different, message⟩ :=
      foldlM_assignConstraint_error holds_empty folded
    exact ⟨key, value, other, mem_allEntries.mp given, mem_allEntries.mp givenToo, different,
      message⟩
  reordered others same merged := by
    simp only [propagateConstraints_eq_ok_iff, Holds, mem_allEntries, same]
  staged front back first split propagated merged := by
    subst split
    obtain ⟨-, holds⟩ := propagateConstraints_eq_ok_iff.mp propagated
    have held : ∀ key value, first.get? key = some value ↔
        ∃ constraints ∈ front, constraints.get? key = some value :=
      fun key value => (holds key value).trans mem_allEntries
    simp only [propagateConstraints_eq_ok_iff, Holds, mem_allEntries, List.exists_mem_cons_iff,
      held, List.mem_append, or_and_right, exists_or]

end ComputeNegotiator
end MercuryX
