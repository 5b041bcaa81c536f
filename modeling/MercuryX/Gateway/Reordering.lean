import MercuryX.Foundation.Reading
import MercuryX.Foundation.Reordering
import MercuryX.Gateway.Canonicalization
import Mathlib.Data.List.Sigma

/-!
# The order of added constraints

Constraints that are added to a request are merged one by one. A constraint that repeats a meaning
is dropped together with its identity, so it cannot conflict any more; whether a conflict is found,
and which meanings are kept, depends on the order in which the constraints are added.
-/

namespace MercuryX
namespace Gateway

open Foundation

/-! ## Identities of derived constraints -/

section Derived

variable {workload : WorkloadRequest}

/-- The part behind the workload of the identity of a hardware constraint. -/
def hardwareSuffix (workloadId : String) (entry : String × Nat) : String :=
  ":" ++ (hardwareConstraint workloadId entry).kind.value ++ ":" ++ entry.2.repr

/-- The parts behind the workload of the other derived identities. -/
def fieldSuffixes (workload : WorkloadRequest) : List String :=
  [":latency", ":quality", ":privacy", ":priority"] ++
    (workload.costBudget.map fun _ => ":cost").toList

theorem constraintIds_eq : (constraintFields workload).map ConstraintFields.constraintId =
    (fieldSuffixes workload ++ workload.hardwareConstraints.zipIdx.map
      (hardwareSuffix workload.workloadId)).map fun suffix => workload.workloadId ++ suffix := by
  have own (text : String) : toString text = text := rfl
  have number (value : Nat) : toString value = value.repr := rfl
  have hardware (entry : String × Nat) :
      (hardwareConstraint workload.workloadId entry).constraintId =
        workload.workloadId ++ hardwareSuffix workload.workloadId entry := by
    simp only [hardwareSuffix, hardwareConstraint, own, number, String.append_assoc]
  simp only [constraintFields, fieldSuffixes, List.map_append, List.map_map, Function.comp_def,
    hardware, own, List.map_cons, List.map_nil]
  cases workload.costBudget <;> rfl

theorem kind_hardwareConstraint (workloadId : String) (entry : String × Nat) :
    (hardwareConstraint workloadId entry).kind = .region ∨
      (hardwareConstraint workloadId entry).kind = .capability := by
  simp only [hardwareConstraint]
  split
  · exact .inl rfl
  · exact .inr rfl

/-- The suffix of a hardware constraint says which index it has. -/
theorem index_eq_of_suffix {workloadId : String} {left right : String × Nat}
    (same : hardwareSuffix workloadId left = hardwareSuffix workloadId right) :
    left.2 = right.2 := by
  have chars := congrArg String.toList same
  simp only [hardwareSuffix, String.toList_append] at chars
  rcases kind_hardwareConstraint workloadId left with isLeft | isLeft
  all_goals
    rcases kind_hardwareConstraint workloadId right with isRight | isRight
    all_goals simp [isLeft, isRight, ConstraintKind.value] at chars
  all_goals exact Json.repr_injective (congrArg String.ofList chars)

theorem fieldSuffixes_sublist (workload : WorkloadRequest) : (fieldSuffixes workload).Sublist
    [":latency", ":quality", ":privacy", ":priority", ":cost"] := by
  refine List.Sublist.append
    (List.Sublist.refl [":latency", ":quality", ":privacy", ":priority"]) ?_
  cases workload.costBudget with
  | none => exact List.nil_sublist _
  | some budget => exact List.Sublist.refl [":cost"]

theorem suffixes_nodup (workload : WorkloadRequest) :
    (fieldSuffixes workload ++ workload.hardwareConstraints.zipIdx.map
      (hardwareSuffix workload.workloadId)).Nodup := by
  have indices := List.nodup_zipIdx_map_snd workload.hardwareConstraints
  refine List.nodup_append.mpr ⟨?_, ?_, ?_⟩
  · exact (fieldSuffixes_sublist workload).nodup (by decide)
  · refine List.Nodup.map_on (fun left leftMember right rightMember same => ?_)
      (indices.of_map Prod.snd)
    exact List.inj_on_of_nodup_map indices leftMember rightMember (index_eq_of_suffix same)
  · intro field isField suffix isHardware same
    have single : ∀ text ∈ [":latency", ":quality", ":privacy", ":priority", ":cost"],
        text.toList.count ':' = 1 := by decide
    have few := single field ((fieldSuffixes_sublist workload).subset isField)
    obtain ⟨entry, _, rfl⟩ := List.mem_map.mp isHardware
    have many : 2 ≤ (hardwareSuffix workload.workloadId entry).toList.count ':' := by
      simp only [hardwareSuffix, String.toList_append, List.count_append]
      have colon : ":".toList.count ':' = 1 := by decide
      omega
    rw [← same, few] at many
    exact absurd many (by decide)

theorem constraintIds_nodup (workload : WorkloadRequest) :
    ((constraintFields workload).map ConstraintFields.constraintId).Nodup := by
  rw [constraintIds_eq]
  refine List.Nodup.map (fun left right same => ?_) (suffixes_nodup workload)
  exact (String.append_right_inj workload.workloadId).mp same

end Derived

/-! ## The law of canonicalization -/

/-- The derived constraints that are kept: the first of each meaning. -/
def firstMeanings (own : List CanonicalConstraint) : List CanonicalConstraint :=
  Merged.firstOf CanonicalConstraint.semanticKey own

/-- A constraint has neither an identity nor a meaning of the derived ones. -/
abbrev FreshConstraint (own : List CanonicalConstraint) (constraint : CanonicalConstraint) : Prop :=
  Merged.Fresh CanonicalConstraint.constraintId CanonicalConstraint.semanticKey (firstMeanings own)
    constraint

/-- Some selection of added constraints keeps a meaning out. -/
abbrev AvoidableMeaning (own additional : List CanonicalConstraint) (meaning : SemanticKey) :
    Prop :=
  Merged.Avoidable CanonicalConstraint.constraintId CanonicalConstraint.semanticKey
    (firstMeanings own) additional meaning

/-- The added constraints do not conflict in some order. -/
abbrev QuietConstraints (own additional : List CanonicalConstraint) : Prop :=
  Merged.Quiet CanonicalConstraint.constraintId CanonicalConstraint.semanticKey (firstMeanings own)
    additional

/-- The identity names the workload and the session of the request. -/
def Names (identity : GatewayIdentity) (workload : WorkloadRequest) : Prop :=
  identity.workloadId = workload.workloadId ∧ some identity.sessionId = workload.sessionId

/-- What is promised of the canonicalization of a request with added constraints. -/
structure CanonicalizationLaw (identity : GatewayIdentity) (workload : WorkloadRequest)
    (additional : List CanonicalConstraint) (result : ConstraintNormalizationResult) : Prop where
  /-- No identity is returned twice. -/
  identities_nodup : (result.constraints.map CanonicalConstraint.constraintId).Nodup
  /-- No meaning is returned twice. -/
  meanings_nodup : (result.constraints.map CanonicalConstraint.semanticKey).Nodup
  /-- Where two candidates of one identity differ, the result is not canonical. -/
  conflicts_found : ∀ left ∈ candidateFields workload additional,
    ∀ right ∈ candidateFields workload additional, left.constraintId = right.constraintId →
      left ≠ right → result.canonicalized = false
  /-- The order of the added constraints matters neither for the flag nor for the meanings. -/
  independent : ∀ order, order.Perm additional →
    ∃ other, canonicalizeGatewayConstraints identity workload order = .ok other ∧
      other.canonicalized = result.canonicalized ∧
      ∀ meaning, meaning ∈ other.constraints.map CanonicalConstraint.semanticKey ↔
        meaning ∈ result.constraints.map CanonicalConstraint.semanticKey

/-- Candidates of one identity are equal. -/
def ConsistentCandidates (own additional : List CanonicalConstraint) : Prop :=
  ∀ left ∈ own ++ additional, ∀ right ∈ own ++ additional,
    left.constraintId = right.constraintId → left = right

/-- The added constraints can be merged in any order. -/
structure Orderly (identity : GatewayIdentity) (workload : WorkloadRequest)
    (own additional : List CanonicalConstraint) : Prop where
  /-- No meaning can be kept out. -/
  kept : ∀ constraint ∈ additional, FreshConstraint own constraint →
    ¬ AvoidableMeaning own additional constraint.semanticKey
  /-- Candidates of one identity are equal, or the request is not the one that the identity names,
  or every order conflicts. -/
  flagged : ConsistentCandidates own additional ∨ ¬ Names identity workload ∨
    ¬ QuietConstraints own additional

section Law

variable {identity : GatewayIdentity} {workload : WorkloadRequest}
  {own additional order : List CanonicalConstraint} {result : ConstraintNormalizationResult}

theorem CanonicalConstraint.ext_of_key {left right : CanonicalConstraint}
    (sameId : left.constraintId = right.constraintId)
    (sameKey : left.semanticKey = right.semanticKey) : left = right := by
  obtain ⟨_, _, _, _, _, _, _, _, _⟩ := left
  obtain ⟨_, _, _, _, _, _, _, _, _⟩ := right
  simp only [semanticKey, Prod.mk.injEq] at sameKey
  obtain ⟨rfl, rfl, rfl, rfl, rfl, rfl⟩ := sameKey
  obtain rfl := sameId
  rfl

theorem own_ids_nodup (derived : workloadConstraints workload = .ok own) :
    (own.map CanonicalConstraint.constraintId).Nodup := by
  have fields : own.map CanonicalConstraint.fields = (constraintFields workload).map id :=
    map_of_mapM_eq_ok (fun _ _ made => CanonicalConstraint.fields_of_construct made) derived
  have ids : own.map CanonicalConstraint.constraintId =
      (constraintFields workload).map ConstraintFields.constraintId := by
    rw [← List.map_id (constraintFields workload), ← fields, List.map_map]
    rfl
  exact ids ▸ constraintIds_nodup workload

/-- The merged constraints of a request, whose own constraints come first. -/
abbrev mergedAfter (own order : List CanonicalConstraint) : Merged CanonicalConstraint :=
  Merged.after CanonicalConstraint.constraintId CanonicalConstraint.semanticKey (firstMeanings own)
    order

theorem canonicalize_eq (derived : workloadConstraints workload = .ok own) :
    canonicalizeGatewayConstraints identity workload order =
      .ok (constraintResult identity workload (mergedAfter own order)) := by
  rw [canonicalizeGatewayConstraints, derived, ok_bind, mergedConstraints,
    Merged.all_append_of_nodup (own_ids_nodup derived)]
  rfl

theorem canonicalized_mergedAfter_iff :
    (constraintResult identity workload (mergedAfter own order)).canonicalized = true ↔
      (mergedAfter own order).conflicts = [] ∧ Names identity workload :=
  canonicalized_iff

theorem firstMeanings_ids_nodup (derived : workloadConstraints workload = .ok own) :
    ((firstMeanings own).map CanonicalConstraint.constraintId).Nodup :=
  ((Merged.firstOf_sublist own).map _).nodup (own_ids_nodup derived)

/-- Consistent candidates conflict in no order. -/
theorem conflicts_of_consistent (derived : workloadConstraints workload = .ok own)
    (consistent : ConsistentCandidates own additional) (perm : order.Perm additional) :
    (mergedAfter own order).conflicts = [] := by
  refine Merged.conflicts_eq_nil_of_agrees (firstMeanings_ids_nodup derived) ?_
  intro constraint member existing inside same
  refine consistent existing ?_ constraint
    (List.mem_append_right _ (perm.mem_iff.mp member)) same
  rcases List.mem_append.mp inside with old | new
  · exact List.mem_append_left _ ((Merged.firstOf_sublist own).subset old)
  · exact List.mem_append_right _ (perm.mem_iff.mp new)

theorem exists_clear_order_iff (derived : workloadConstraints workload = .ok own) :
    (∃ order, order.Perm additional ∧ (mergedAfter own order).conflicts = []) ↔
      QuietConstraints own additional :=
  Merged.exists_clear_iff (fun _ _ => CanonicalConstraint.ext_of_key)
    (firstMeanings_ids_nodup derived)

/-- Where constraints can be merged in any order, every order has the same flag. -/
theorem canonicalized_iff_of_orderly (derived : workloadConstraints workload = .ok own)
    (orderly : Orderly identity workload own additional) (perm : order.Perm additional) :
    (constraintResult identity workload (mergedAfter own order)).canonicalized = true ↔
      ConsistentCandidates own additional ∧ Names identity workload := by
  rw [canonicalized_mergedAfter_iff]
  refine and_congr_left fun named => ?_
  constructor
  · intro clear
    rcases orderly.flagged with consistent | unnamed | loud
    · exact consistent
    · exact absurd named unnamed
    · exact absurd ((exists_clear_order_iff derived).mp ⟨order, perm, clear⟩) loud
  · exact fun consistent => conflicts_of_consistent derived consistent perm

theorem candidateFields_eq (derived : workloadConstraints workload = .ok own) :
    candidateFields workload additional =
      (own ++ additional).map CanonicalConstraint.fields := by
  have fields : own.map CanonicalConstraint.fields = (constraintFields workload).map id :=
    map_of_mapM_eq_ok (fun _ _ made => CanonicalConstraint.fields_of_construct made) derived
  rw [candidateFields, List.map_append, fields, List.map_id]

/-- Where a canonicalization keeps the law, the added constraints can be merged in any order. -/
theorem orderly_of_law (derived : workloadConstraints workload = .ok own)
    (law : CanonicalizationLaw identity workload additional
      (constraintResult identity workload (mergedAfter own additional))) :
    Orderly identity workload own additional := by
  have reordered (order : List CanonicalConstraint) (perm : order.Perm additional) :
      (constraintResult identity workload (mergedAfter own order)).canonicalized =
          (constraintResult identity workload (mergedAfter own additional)).canonicalized ∧
        ∀ meaning, meaning ∈ (mergedAfter own order).kept.map CanonicalConstraint.semanticKey ↔
          meaning ∈ (mergedAfter own additional).kept.map CanonicalConstraint.semanticKey := by
    obtain ⟨other, returned, flag, meanings⟩ := law.independent order perm
    obtain rfl := Except.ok.inj ((canonicalize_eq derived).symm.trans returned)
    exact ⟨flag, meanings⟩
  refine ⟨Merged.contents_independent_iff.mp fun order perm => (reordered order perm).2, ?_⟩
  by_contra none
  simp only [not_or, not_not] at none
  obtain ⟨inconsistent, named, quiet⟩ := none
  obtain ⟨order, perm, clear⟩ := (exists_clear_order_iff derived).mpr quiet
  have canonical := canonicalized_mergedAfter_iff.mpr ⟨clear, named⟩
  refine inconsistent fun left leftMember right rightMember same => ?_
  by_contra different
  have found := law.conflicts_found left.fields
    (candidateFields_eq derived ▸ List.mem_map_of_mem leftMember) right.fields
    (candidateFields_eq derived ▸ List.mem_map_of_mem rightMember) same fun equal =>
      different (CanonicalConstraint.ext_of_key same
        (congrArg ConstraintFields.semanticKey equal))
  rw [← (reordered order perm).1, canonical] at found
  contradiction

/-- Where the added constraints can be merged in any order, a canonicalization keeps the law. -/
theorem law_of_orderly (derived : workloadConstraints workload = .ok own)
    (orderly : Orderly identity workload own additional) :
    CanonicalizationLaw identity workload additional
      (constraintResult identity workload (mergedAfter own additional)) := by
  have flag {order : List CanonicalConstraint} (perm : order.Perm additional) :=
    canonicalized_iff_of_orderly derived orderly perm
  obtain ⟨candidates, _, merged⟩ := exists_merged (@canonicalize_eq identity _ _ additional derived)
  have covers : Merged.Covers CanonicalConstraint.constraintId CanonicalConstraint.semanticKey
      candidates (mergedConstraints candidates) := Merged.covers_all candidates
  constructor
  case identities_nodup => exact merged ▸ covers.identities_nodup
  case meanings_nodup => exact merged ▸ covers.contents_nodup
  case conflicts_found =>
    intro left leftMember right rightMember same different
    rw [candidateFields_eq derived] at leftMember rightMember
    obtain ⟨leftConstraint, inLeft, rfl⟩ := List.mem_map.mp leftMember
    obtain ⟨rightConstraint, inRight, rfl⟩ := List.mem_map.mp rightMember
    refine Bool.eq_false_iff.mpr fun canonical => different ?_
    rw [((flag (.refl _)).mp canonical).1 leftConstraint inLeft rightConstraint inRight same]
  case independent =>
    intro order perm
    refine ⟨_, canonicalize_eq derived, ?_, ?_⟩
    · exact Bool.eq_iff_iff.mpr ((flag perm).trans (flag (.refl _)).symm)
    · exact Merged.contents_independent_iff.mpr orderly.kept order perm

/-- Every canonicalization keeps the law exactly where the added constraints can be merged in any
order. -/
theorem canonicalization_iff (identity : GatewayIdentity) (workload : WorkloadRequest)
    (additional : List CanonicalConstraint) :
    (∀ result, canonicalizeGatewayConstraints identity workload additional = .ok result →
        CanonicalizationLaw identity workload additional result) ↔
      ∀ own, workloadConstraints workload = .ok own →
        Orderly identity workload own additional := by
  constructor
  · intro holds own derived
    exact orderly_of_law derived (holds _ (canonicalize_eq derived))
  · intro orderly result returned
    have derivable := returned
    rw [canonicalizeGatewayConstraints, bind_eq_ok] at derivable
    obtain ⟨own, derived, _⟩ := derivable
    obtain rfl := Except.ok.inj ((canonicalize_eq derived).symm.trans returned)
    exact law_of_orderly derived (orderly own derived)

end Law

/-! ## A dropped identity -/

/-- A constraint that repeats the priority of the request. -/
def repeatedPriority : CanonicalConstraint where
  constraintId := "extra"
  kind := .priority
  operator := "equals"
  value := .number 50
  unit := some "priority"
  required := true
  sourceField := "priority"
  texts_nonblank := by decide
  value_nonblank := by simp

/-- A constraint of the same identity with another meaning. -/
def otherPriority : CanonicalConstraint :=
  { repeatedPriority with
    value := .number 51
    value_nonblank := by simp }

/-- A dropped repetition hides a conflict: two added constraints of one identity differ, and the
result is canonical. -/
theorem repetition_hides_conflict :
    ¬ ∀ (identity : GatewayIdentity) (workload : WorkloadRequest)
        (additional : List CanonicalConstraint) (result : ConstraintNormalizationResult),
      canonicalizeGatewayConstraints identity workload additional = .ok result →
        CanonicalizationLaw identity workload additional result := by
  intro law
  obtain ⟨result, returned, canonical⟩ : ∃ result, canonicalizeGatewayConstraints modestIdentity
      modestRequest [repeatedPriority, otherPriority] = .ok result ∧
        result.canonicalized = true := ⟨_, rfl, by decide⟩
  have different : repeatedPriority.fields ≠ otherPriority.fields := fun same =>
    absurd (congrArg ConstraintFields.value same) (by decide)
  have found := (law _ _ _ _ returned).conflicts_found repeatedPriority.fields
    (by simp [candidateFields]) otherPriority.fields (by simp [candidateFields]) rfl different
  rw [canonical] at found
  contradiction

end Gateway
end MercuryX
