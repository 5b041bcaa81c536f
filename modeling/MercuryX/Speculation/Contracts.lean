import MercuryX.GlobalMemory.Contracts

/-!
# Speculation contracts

Plans, branches and results of speculative execution. A commit validates again the plan and the
branches it is given, so these contracts appear in raw form together with their validators. Every
validator answers exactly on the instances that satisfy its constraints.
-/

namespace MercuryX
namespace Speculation

open Foundation
open GlobalMemory (GlobalMemoryNamespace)

variable (digest : Digest)

/-- The most branches that one plan speculates on. -/
def maxSpeculativeBranches : Nat := 8

/-- The check that a text of a contract is nonblank. -/
def nonblank (contract field value : String) : Except Fault Unit :=
  rule contract "" (Text.Nonblank value) s!"{field} must be nonblank"

/-- The check that a text of a contract is nonblank when it is present. -/
def nonblankIfPresent (contract field : String) (value : Option String) : Except Fault Unit :=
  forEach (nonblank contract field) value.toList

@[simp] theorem nonblank_eq_ok {contract field value : String} {done : Unit} :
    nonblank contract field value = .ok done ↔ Text.Nonblank value := by
  simp [nonblank]

@[simp] theorem nonblankIfPresent_eq_ok {contract field : String} {value : Option String}
    {done : Unit} : nonblankIfPresent contract field value = .ok done ↔
      ∀ text, value = some text → Text.Nonblank text := by
  simp [nonblankIfPresent]

/-! ## Plans -/

/-- Where a placement candidate comes from. -/
structure SpeculationUpstreamProvenance where
  candidateId : String
  candidateFingerprint : String
  hardwareProfileId : String
  hardwareProfileGeneration : Int
  hardwareProfileFingerprint : String
  topologyGraphId : String
  topologyGeneration : Int
  pathResultId : String
  pathResultFingerprint : String
  predictionId : Option String := none
  predictionFingerprint : Option String := none
  deriving DecidableEq

/-- The dump of a candidate's provenance. -/
def SpeculationUpstreamProvenance.dump (item : SpeculationUpstreamProvenance) : Json := .obj [
  ("candidate_id", .str item.candidateId),
  ("candidate_fingerprint", .str item.candidateFingerprint),
  ("hardware_profile_id", .str item.hardwareProfileId),
  ("hardware_profile_generation", .int item.hardwareProfileGeneration),
  ("hardware_profile_fingerprint", .str item.hardwareProfileFingerprint),
  ("topology_graph_id", .str item.topologyGraphId),
  ("topology_generation", .int item.topologyGeneration),
  ("path_result_id", .str item.pathResultId),
  ("path_result_fingerprint", .str item.pathResultFingerprint),
  ("prediction_id", Json.optStr item.predictionId),
  ("prediction_fingerprint", Json.optStr item.predictionFingerprint)]

/-- The constraints on a candidate's provenance. -/
def SpeculationUpstreamProvenance.validate (item : SpeculationUpstreamProvenance) :
    Except Fault Unit := do
  let contract := "SpeculationUpstreamProvenance"
  fieldGe contract "hardware_profile_generation" 1 item.hardwareProfileGeneration
  fieldGe contract "topology_generation" 1 item.topologyGeneration
  forEach (fun field => nonblank contract field.1 field.2) [
    ("candidate_id", item.candidateId), ("candidate_fingerprint", item.candidateFingerprint),
    ("hardware_profile_id", item.hardwareProfileId),
    ("hardware_profile_fingerprint", item.hardwareProfileFingerprint),
    ("topology_graph_id", item.topologyGraphId), ("path_result_id", item.pathResultId),
    ("path_result_fingerprint", item.pathResultFingerprint)]
  rule contract "" (item.predictionId.isNone ↔ item.predictionFingerprint.isNone)
    "prediction provenance must be complete"
  nonblankIfPresent contract "prediction_id" item.predictionId
  nonblankIfPresent contract "prediction_fingerprint" item.predictionFingerprint

/-- A plan to run one segment speculatively on several placement candidates. -/
structure SpeculationPlan where
  speculationPlanId : String
  sourceSegmentId : String
  placementCandidateIds : List String
  candidateFingerprints : List (String × String)
  maxBranches : Int
  verificationPolicyId : String
  commitPolicyId : String
  cancellationPolicyId : String
  fingerprint : String
  sourceExecutionPlanId : Option String := none
  namespaceType : Option GlobalMemoryNamespace := none
  namespaceId : Option String := none
  sourceSegmentFingerprint : Option String := none
  upstreamProvenance : List SpeculationUpstreamProvenance := []
  deriving DecidableEq

namespace SpeculationPlan

/-- The fields that the fingerprint of a plan covers. -/
def payload (plan : SpeculationPlan) : Json := .obj [
  ("source_segment_id", .str plan.sourceSegmentId),
  ("placement_candidate_ids", Json.strs plan.placementCandidateIds),
  ("candidate_fingerprints",
    .arr (plan.candidateFingerprints.map fun pair => Json.strs [pair.1, pair.2])),
  ("max_branches", .int plan.maxBranches),
  ("verification_policy_id", .str plan.verificationPolicyId),
  ("commit_policy_id", .str plan.commitPolicyId),
  ("cancellation_policy_id", .str plan.cancellationPolicyId),
  ("source_execution_plan_id", Json.optStr plan.sourceExecutionPlanId),
  ("namespace_type", Json.optStr (plan.namespaceType.map GlobalMemoryNamespace.value)),
  ("namespace_id", Json.optStr plan.namespaceId),
  ("source_segment_fingerprint", Json.optStr plan.sourceSegmentFingerprint),
  ("upstream_provenance", .arr (plan.upstreamProvenance.map SpeculationUpstreamProvenance.dump))]

/-- Some part of the typed source context is given. -/
def HasTypedContext (plan : SpeculationPlan) : Prop :=
  plan.sourceExecutionPlanId.isSome ∨ plan.namespaceType.isSome ∨ plan.namespaceId.isSome ∨
    plan.sourceSegmentFingerprint.isSome

/-- Every part of the typed source context is given. -/
def CompleteTypedContext (plan : SpeculationPlan) : Prop :=
  plan.sourceExecutionPlanId.isSome ∧ plan.namespaceType.isSome ∧ plan.namespaceId.isSome ∧
    plan.sourceSegmentFingerprint.isSome

instance (plan : SpeculationPlan) : Decidable plan.HasTypedContext :=
  inferInstanceAs (Decidable (_ ∨ _))

instance (plan : SpeculationPlan) : Decidable plan.CompleteTypedContext :=
  inferInstanceAs (Decidable (_ ∧ _))

/-- The constraints on a plan. -/
def validate (plan : SpeculationPlan) : Except Fault Unit := do
  let contract := "SpeculationPlan"
  fieldBetween contract "max_branches" 1 maxSpeculativeBranches plan.maxBranches
  nestedItems contract "upstream_provenance" SpeculationUpstreamProvenance.validate
    plan.upstreamProvenance
  forEach (fun field => nonblank contract field.1 field.2) [
    ("speculation_plan_id", plan.speculationPlanId), ("source_segment_id", plan.sourceSegmentId),
    ("verification_policy_id", plan.verificationPolicyId),
    ("commit_policy_id", plan.commitPolicyId),
    ("cancellation_policy_id", plan.cancellationPolicyId), ("fingerprint", plan.fingerprint)]
  rule contract "" (plan.placementCandidateIds ≠ []) "placement_candidate_ids must be nonempty"
  forEach (nonblank contract "placement_candidate_id") plan.placementCandidateIds
  rule contract "" (plan.placementCandidateIds.length ≤ plan.maxBranches)
    "branch count exceeds plan bound"
  rule contract "" (plan.placementCandidateIds = sortOn id plan.placementCandidateIds)
    "placement_candidate_ids must be canonical"
  rule contract "" plan.placementCandidateIds.Nodup "duplicate candidate"
  rule contract "" (plan.candidateFingerprints.map Prod.fst = plan.placementCandidateIds)
    "candidate fingerprints must match plan candidates"
  rule contract "" plan.candidateFingerprints.Nodup "duplicate candidate fingerprint"
  forEach (fun pair => do
    nonblank contract "candidate fingerprint id" pair.1
    nonblank contract "candidate fingerprint" pair.2) plan.candidateFingerprints
  rule contract "" (plan.HasTypedContext → plan.CompleteTypedContext)
    "typed source context must be complete"
  nonblankIfPresent contract "source_execution_plan_id" plan.sourceExecutionPlanId
  nonblankIfPresent contract "namespace_id" plan.namespaceId
  nonblankIfPresent contract "source_segment_fingerprint" plan.sourceSegmentFingerprint
  rule contract "" (plan.upstreamProvenance ≠ [] →
      plan.upstreamProvenance.map (fun item => item.candidateId) = plan.placementCandidateIds)
    "upstream provenance must match placement candidates"
  rule contract "" (plan.fingerprint = digest.hexdigest plan.payload)
    "speculation plan fingerprint mismatch"
  rule contract ""
    (plan.speculationPlanId = digest.hexdigest (.obj [("plan", .str plan.fingerprint)]))
    "speculation plan identity mismatch"

/-- What the validation of a plan establishes. -/
structure Valid (plan : SpeculationPlan) : Prop where
  /-- The bound on branches is within the limit. -/
  maxBranches_bounds : 1 ≤ plan.maxBranches ∧ plan.maxBranches ≤ maxSpeculativeBranches
  /-- The provenance of every candidate is well formed. -/
  provenance_valid : ∀ item ∈ plan.upstreamProvenance, item.validate = .ok ()
  /-- Identity and policy fields are nonblank. -/
  texts_nonblank : ∀ text ∈ [plan.speculationPlanId, plan.sourceSegmentId,
    plan.verificationPolicyId, plan.commitPolicyId, plan.cancellationPolicyId, plan.fingerprint],
    Text.Nonblank text
  /-- There is a candidate. -/
  candidates_nonempty : plan.placementCandidateIds ≠ []
  /-- Candidates are nonblank. -/
  candidates_nonblank : ∀ candidate ∈ plan.placementCandidateIds, Text.Nonblank candidate
  /-- There are no more candidates than branches. -/
  candidates_bound : plan.placementCandidateIds.length ≤ plan.maxBranches
  /-- Candidates stand in order. -/
  candidates_canonical : plan.placementCandidateIds = sortOn id plan.placementCandidateIds
  /-- No candidate is repeated. -/
  candidates_nodup : plan.placementCandidateIds.Nodup
  /-- Fingerprints stand in the order of their candidates. -/
  fingerprints_match : plan.candidateFingerprints.map Prod.fst = plan.placementCandidateIds
  /-- Fingerprints and their candidates are nonblank. -/
  fingerprints_nonblank : ∀ pair ∈ plan.candidateFingerprints,
    Text.Nonblank pair.1 ∧ Text.Nonblank pair.2
  /-- A typed source context is complete. -/
  context_complete : plan.HasTypedContext → plan.CompleteTypedContext
  /-- What is given of the source context is nonblank. -/
  context_nonblank : ∀ text ∈ plan.sourceExecutionPlanId.toList ++ plan.namespaceId.toList ++
    plan.sourceSegmentFingerprint.toList, Text.Nonblank text
  /-- Provenance stands in the order of its candidates. -/
  provenance_match : plan.upstreamProvenance ≠ [] →
    plan.upstreamProvenance.map (fun item => item.candidateId) = plan.placementCandidateIds
  /-- The fingerprint is that of the fields. -/
  fingerprint_eq : plan.fingerprint = digest.hexdigest plan.payload
  /-- The identity is that of the fingerprint. -/
  identity_eq :
    plan.speculationPlanId = digest.hexdigest (.obj [("plan", .str plan.fingerprint)])

variable {digest}

theorem Valid.candidateFingerprints_nodup {plan : SpeculationPlan} (valid : plan.Valid digest) :
    plan.candidateFingerprints.Nodup :=
  List.Nodup.of_map Prod.fst (valid.fingerprints_match ▸ valid.candidates_nodup)

theorem validate_eq_ok_iff {plan : SpeculationPlan} {done : Unit} :
    plan.validate digest = .ok done ↔ plan.Valid digest := by
  simp only [validate, bind_eq_ok, fieldBetween_eq_ok, nestedItems_eq_ok, forEach_eq_ok,
    nonblank_eq_ok, nonblankIfPresent_eq_ok, rule_eq_ok, exists_and_left, exists_const]
  constructor
  · rintro ⟨bounds, provenance, texts, nonempty, candidates, bound, order, nodup, keys, _, pairs,
      complete, execution, space, segment, provenanceKeys, fingerprint, identity⟩
    exact
      { maxBranches_bounds := bounds
        provenance_valid := provenance
        texts_nonblank := by simpa using texts
        candidates_nonempty := nonempty
        candidates_nonblank := candidates
        candidates_bound := bound
        candidates_canonical := order
        candidates_nodup := nodup
        fingerprints_match := keys
        fingerprints_nonblank := pairs
        context_complete := complete
        context_nonblank := by
          simp only [List.mem_append, Option.mem_toList]
          rintro text ((given | given) | given)
          · exact execution text given
          · exact space text given
          · exact segment text given
        provenance_match := provenanceKeys
        fingerprint_eq := fingerprint
        identity_eq := identity }
  · intro valid
    refine ⟨valid.maxBranches_bounds, valid.provenance_valid, by simpa using valid.texts_nonblank,
      valid.candidates_nonempty, valid.candidates_nonblank, valid.candidates_bound,
      valid.candidates_canonical, valid.candidates_nodup, valid.fingerprints_match,
      valid.candidateFingerprints_nodup, valid.fingerprints_nonblank, valid.context_complete,
      ?_, ?_, ?_, valid.provenance_match, valid.fingerprint_eq, valid.identity_eq⟩
    · exact fun text given => valid.context_nonblank text (by simp [given])
    · exact fun text given => valid.context_nonblank text (by simp [given])
    · exact fun text given => valid.context_nonblank text (by simp [given])

end SpeculationPlan

/-! ## Branches -/

/-- The lifecycle states of a branch. -/
inductive SpeculativeBranchState where
  | planned
  | ready
  | running
  | succeeded
  | failed
  | cancelled
  | committed
  | discarded
  deriving DecidableEq, Repr

/-- One speculative execution of the planned segment. -/
structure SpeculativeBranch where
  branchId : String
  placementCandidateId : String
  state : SpeculativeBranchState
  speculationPlanId : Option String := none
  sourceSegmentId : Option String := none
  planFingerprint : Option String := none
  candidateFingerprint : Option String := none
  resultId : Option String := none
  resultFingerprint : Option String := none
  verificationEvidenceId : Option String := none
  verified : Bool := false
  generation : Int := 1
  deriving DecidableEq

namespace SpeculativeBranch

/-- The provenance of a branch. -/
def context (branch : SpeculativeBranch) : List (Option String) :=
  [branch.speculationPlanId, branch.sourceSegmentId, branch.planFingerprint,
    branch.candidateFingerprint]

instance (context : List (Option String)) : Decidable (none ∈ context) :=
  inferInstanceAs (Decidable (none ∈ context))

/-- The constraints on a branch. -/
def validate (branch : SpeculativeBranch) : Except Fault Unit := do
  let contract := "SpeculativeBranch"
  fieldGe contract "generation" 1 branch.generation
  nonblank contract "branch_id" branch.branchId
  nonblank contract "placement_candidate_id" branch.placementCandidateId
  rule contract "" ((∃ value ∈ branch.context, value ≠ none) → none ∉ branch.context)
    "branch provenance context must be complete"
  nonblankIfPresent contract "speculation_plan_id" branch.speculationPlanId
  nonblankIfPresent contract "source_segment_id" branch.sourceSegmentId
  nonblankIfPresent contract "plan_fingerprint" branch.planFingerprint
  nonblankIfPresent contract "candidate_fingerprint" branch.candidateFingerprint
  nonblankIfPresent contract "result_id" branch.resultId
  nonblankIfPresent contract "result_fingerprint" branch.resultFingerprint
  nonblankIfPresent contract "verification_evidence_id" branch.verificationEvidenceId
  rule contract "" (branch.state = .succeeded ∨ branch.state = .committed →
      branch.resultId ≠ none ∧ branch.resultFingerprint ≠ none)
    "successful branch requires result provenance"
  rule contract "" (branch.verified → branch.verificationEvidenceId ≠ none)
    "verified branch requires verification evidence"
  rule contract "" (branch.state = .committed → branch.verified ∧ branch.resultId ≠ none)
    "committed branch requires verified result"

/-- What the validation of a branch establishes. -/
structure Valid (branch : SpeculativeBranch) : Prop where
  /-- Generations start at one. -/
  generation_pos : 1 ≤ branch.generation
  /-- The branch and its candidate are nonblank. -/
  identities_nonblank : Text.Nonblank branch.branchId ∧ Text.Nonblank branch.placementCandidateId
  /-- Provenance is given as a whole or not at all. -/
  context_complete : (∃ value ∈ branch.context, value ≠ none) → none ∉ branch.context
  /-- What is given of provenance and result is nonblank. -/
  given_nonblank : ∀ text, some text ∈ branch.context ++ [branch.resultId,
    branch.resultFingerprint, branch.verificationEvidenceId] → Text.Nonblank text
  /-- A successful branch has a result. -/
  result_given : branch.state = .succeeded ∨ branch.state = .committed →
    branch.resultId ≠ none ∧ branch.resultFingerprint ≠ none
  /-- A verified branch has evidence. -/
  evidence_given : branch.verified → branch.verificationEvidenceId ≠ none
  /-- A committed branch is verified. -/
  committed_verified : branch.state = .committed → branch.verified ∧ branch.resultId ≠ none

theorem validate_eq_ok_iff {branch : SpeculativeBranch} {done : Unit} :
    branch.validate = .ok done ↔ branch.Valid := by
  simp only [validate, bind_eq_ok, fieldGe_eq_ok, nonblank_eq_ok, nonblankIfPresent_eq_ok,
    rule_eq_ok, exists_and_left, exists_const]
  constructor
  · rintro ⟨generation, identity, candidate, complete, plan, segment, planPrint, candidatePrint,
      result, resultPrint, evidence, resultGiven, evidenceGiven, committed⟩
    refine ⟨generation, ⟨identity, candidate⟩, complete, ?_, resultGiven, evidenceGiven, committed⟩
    intro text given
    simp only [context, List.cons_append, List.nil_append, List.mem_cons, List.not_mem_nil,
      or_false] at given
    rcases given with given | given | given | given | given | given | given
    · exact plan text given.symm
    · exact segment text given.symm
    · exact planPrint text given.symm
    · exact candidatePrint text given.symm
    · exact result text given.symm
    · exact resultPrint text given.symm
    · exact evidence text given.symm
  · intro valid
    have nonblank {value : Option String} (listed : value ∈ branch.context ++ [branch.resultId,
        branch.resultFingerprint, branch.verificationEvidenceId]) (text : String)
        (given : value = some text) : Text.Nonblank text :=
      valid.given_nonblank text (given ▸ listed)
    exact ⟨valid.generation_pos, valid.identities_nonblank.1, valid.identities_nonblank.2,
      valid.context_complete, nonblank (by simp [context]), nonblank (by simp [context]),
      nonblank (by simp [context]), nonblank (by simp [context]), nonblank (by simp),
      nonblank (by simp), nonblank (by simp), valid.result_given, valid.evidence_given,
      valid.committed_verified⟩

end SpeculativeBranch

/-! ## Results -/

/-- How the branches of a plan fared. -/
structure SpeculationAccounting where
  totalPlannedBranches : Nat
  startedBranches : Nat
  succeededBranches : Nat
  failedBranches : Nat
  verifiedSuccessBranches : Nat
  cancelledBranches : Nat
  discardedBranches : Nat
  authoritativeCommittedBranchId : String
  verificationCount : Nat
  verificationOverheadUnits : Option ℚ := none
  speculativeResourceEstimateUnits : Option ℚ := none
  deriving DecidableEq

namespace SpeculationAccounting

/-- The counts of an accounting, with the names of their fields. -/
def counts (accounting : SpeculationAccounting) : List (String × Nat) :=
  [("started_branches", accounting.startedBranches),
    ("succeeded_branches", accounting.succeededBranches),
    ("failed_branches", accounting.failedBranches),
    ("verified_success_branches", accounting.verifiedSuccessBranches),
    ("cancelled_branches", accounting.cancelledBranches),
    ("discarded_branches", accounting.discardedBranches),
    ("verification_count", accounting.verificationCount)]

/-- The dump of an accounting. -/
def dump (accounting : SpeculationAccounting) : Json := .obj
  (("total_planned_branches", .int accounting.totalPlannedBranches) ::
    accounting.counts.map (fun count => (count.1, .int count.2)) ++
    [("authoritative_committed_branch_id", .str accounting.authoritativeCommittedBranchId),
      ("verification_overhead_units", Json.optFloat accounting.verificationOverheadUnits),
      ("speculative_resource_estimate_units",
        Json.optFloat accounting.speculativeResourceEstimateUnits)])

/-- The constraints on an accounting. -/
def validate (accounting : SpeculationAccounting) : Except Fault Unit := do
  let contract := "SpeculationAccounting"
  fieldBetween contract "total_planned_branches" 1 maxSpeculativeBranches
    accounting.totalPlannedBranches
  forEach (fun count => fieldBetween contract count.1 0 maxSpeculativeBranches count.2)
    accounting.counts
  forEach (fun units => require (0 ≤ units) (.validation contract "verification_overhead_units"
    "Input should be greater than or equal to 0")) accounting.verificationOverheadUnits.toList
  forEach (fun units => require (0 ≤ units) (.validation contract
    "speculative_resource_estimate_units" "Input should be greater than or equal to 0"))
    accounting.speculativeResourceEstimateUnits.toList
  nonblank contract "authoritative_committed_branch_id" accounting.authoritativeCommittedBranchId
  rule contract "" (∀ count ∈ accounting.counts, count.2 ≤ accounting.totalPlannedBranches)
    "branch accounting exceeds planned branches"
  rule contract "" (accounting.verifiedSuccessBranches ≤ accounting.succeededBranches)
    "verified success accounting exceeds succeeded branches"

theorem validate_of_counts {accounting : SpeculationAccounting}
    (total : 1 ≤ accounting.totalPlannedBranches ∧
      accounting.totalPlannedBranches ≤ maxSpeculativeBranches)
    (counted : ∀ count ∈ accounting.counts, count.2 ≤ accounting.totalPlannedBranches)
    (verified : accounting.verifiedSuccessBranches ≤ accounting.succeededBranches)
    (overhead : accounting.verificationOverheadUnits = none)
    (estimate : accounting.speculativeResourceEstimateUnits = none)
    (committed : Text.Nonblank accounting.authoritativeCommittedBranchId) :
    accounting.validate = .ok () := by
  simp only [validate, bind_eq_ok, fieldBetween_eq_ok, forEach_eq_ok, nonblank_eq_ok, rule_eq_ok,
    require_eq_ok, exists_and_left, exists_const, overhead, estimate, Option.toList_none]
  refine ⟨⟨by exact_mod_cast total.1, by exact_mod_cast total.2⟩, ?_, by simp, by simp, committed,
    counted, verified⟩
  intro count member
  have bounded := (counted count member).trans total.2
  exact ⟨by positivity, by exact_mod_cast bounded⟩

end SpeculationAccounting

/-- The authoritative outcome of a plan. -/
structure SpeculativeResult where
  speculationPlanId : String
  sourceSegmentId : String
  sourceExecutionPlanId : Option String
  namespaceType : Option GlobalMemoryNamespace
  namespaceId : Option String
  planFingerprint : String
  winningBranchId : String
  committedResultId : String
  winningResultFingerprint : String
  verificationEvidenceId : String
  losingBranchIds : List String
  branchCount : Nat
  verifiedSuccessCount : Nat
  accounting : SpeculationAccounting
  resultFingerprint : String
  deriving DecidableEq

namespace SpeculativeResult

/-- The fields that the fingerprint of a result covers. -/
def payload (result : SpeculativeResult) : Json := .obj [
  ("speculation_plan_id", .str result.speculationPlanId),
  ("source_segment_id", .str result.sourceSegmentId),
  ("source_execution_plan_id", Json.optStr result.sourceExecutionPlanId),
  ("namespace_type", Json.optStr (result.namespaceType.map GlobalMemoryNamespace.value)),
  ("namespace_id", Json.optStr result.namespaceId),
  ("plan_fingerprint", .str result.planFingerprint),
  ("winning_branch_id", .str result.winningBranchId),
  ("committed_result_id", .str result.committedResultId),
  ("winning_result_fingerprint", .str result.winningResultFingerprint),
  ("verification_evidence_id", .str result.verificationEvidenceId),
  ("losing_branch_ids", Json.strs result.losingBranchIds),
  ("branch_count", .int result.branchCount),
  ("verified_success_count", .int result.verifiedSuccessCount),
  ("accounting", result.accounting.dump)]

/-- Some part of the typed source context is given. -/
def HasTypedContext (result : SpeculativeResult) : Prop :=
  result.sourceExecutionPlanId.isSome ∨ result.namespaceType.isSome ∨ result.namespaceId.isSome

/-- Every part of the typed source context is given. -/
def CompleteTypedContext (result : SpeculativeResult) : Prop :=
  result.sourceExecutionPlanId.isSome ∧ result.namespaceType.isSome ∧ result.namespaceId.isSome

instance (result : SpeculativeResult) : Decidable result.HasTypedContext :=
  inferInstanceAs (Decidable (_ ∨ _))

instance (result : SpeculativeResult) : Decidable result.CompleteTypedContext :=
  inferInstanceAs (Decidable (_ ∧ _))

/-- The constraints on a result. -/
def validate (result : SpeculativeResult) : Except Fault Unit := do
  let contract := "SpeculativeResult"
  fieldBetween contract "branch_count" 1 maxSpeculativeBranches result.branchCount
  fieldBetween contract "verified_success_count" 1 maxSpeculativeBranches
    result.verifiedSuccessCount
  forEach (fun field => nonblank contract field.1 field.2) [
    ("speculation_plan_id", result.speculationPlanId),
    ("source_segment_id", result.sourceSegmentId), ("plan_fingerprint", result.planFingerprint),
    ("winning_branch_id", result.winningBranchId),
    ("committed_result_id", result.committedResultId),
    ("winning_result_fingerprint", result.winningResultFingerprint),
    ("verification_evidence_id", result.verificationEvidenceId),
    ("result_fingerprint", result.resultFingerprint)]
  rule contract "" (result.HasTypedContext → result.CompleteTypedContext)
    "result typed source context must be complete"
  nonblankIfPresent contract "source_execution_plan_id" result.sourceExecutionPlanId
  nonblankIfPresent contract "namespace_id" result.namespaceId
  rule contract "" result.losingBranchIds.Nodup "duplicate losing branch"
  rule contract "" (result.branchCount = result.losingBranchIds.length + 1)
    "branch accounting does not match result lineage"
  rule contract "" (result.verifiedSuccessCount ≤ result.branchCount)
    "verified success accounting exceeds branch count"
  rule contract "" (result.accounting.totalPlannedBranches = result.branchCount ∧
      result.accounting.verifiedSuccessBranches = result.verifiedSuccessCount ∧
      result.accounting.authoritativeCommittedBranchId = result.winningBranchId)
    "detailed accounting does not match result"
  forEach (fun branchId => do
    nonblank contract "losing_branch_id" branchId
    rule contract "" (branchId ≠ result.winningBranchId) "winner cannot be a losing branch")
    result.losingBranchIds
  rule contract "" (result.resultFingerprint = digest.hexdigest result.payload)
    "speculative result fingerprint mismatch"

/-- What the validation of a result establishes. -/
structure Valid (result : SpeculativeResult) : Prop where
  /-- The number of branches is within the limit. -/
  branchCount_bounds : 1 ≤ result.branchCount ∧ result.branchCount ≤ maxSpeculativeBranches
  /-- So is the number of verified successes. -/
  verifiedCount_bounds :
    1 ≤ result.verifiedSuccessCount ∧ result.verifiedSuccessCount ≤ maxSpeculativeBranches
  /-- Identity and result fields are nonblank. -/
  texts_nonblank : ∀ text ∈ [result.speculationPlanId, result.sourceSegmentId,
    result.planFingerprint, result.winningBranchId, result.committedResultId,
    result.winningResultFingerprint, result.verificationEvidenceId, result.resultFingerprint],
    Text.Nonblank text
  /-- A typed source context is complete. -/
  context_complete : result.HasTypedContext → result.CompleteTypedContext
  /-- What is given of the source context is nonblank. -/
  context_nonblank : ∀ text ∈ result.sourceExecutionPlanId.toList ++ result.namespaceId.toList,
    Text.Nonblank text
  /-- No branch loses twice. -/
  losers_nodup : result.losingBranchIds.Nodup
  /-- Every branch but one loses. -/
  losers_count : result.branchCount = result.losingBranchIds.length + 1
  /-- No more branches succeed than there are. -/
  verifiedCount_le : result.verifiedSuccessCount ≤ result.branchCount
  /-- The accounting is of this result. -/
  accounting_matches : result.accounting.totalPlannedBranches = result.branchCount ∧
    result.accounting.verifiedSuccessBranches = result.verifiedSuccessCount ∧
    result.accounting.authoritativeCommittedBranchId = result.winningBranchId
  /-- Losers are nonblank, and the winner is not one of them. -/
  losers_valid : ∀ branchId ∈ result.losingBranchIds,
    Text.Nonblank branchId ∧ branchId ≠ result.winningBranchId
  /-- The fingerprint is that of the fields. -/
  fingerprint_eq : result.resultFingerprint = digest.hexdigest result.payload

variable {digest}

theorem validate_eq_ok_iff {result : SpeculativeResult} {done : Unit} :
    result.validate digest = .ok done ↔ result.Valid digest := by
  simp only [validate, bind_eq_ok, fieldBetween_eq_ok, forEach_eq_ok, nonblank_eq_ok,
    nonblankIfPresent_eq_ok, rule_eq_ok, exists_and_left, exists_const]
  constructor
  · rintro ⟨branches, verified, texts, complete, execution, space, nodup, count, verifiedCount,
      accounting, losers, fingerprint⟩
    exact
      { branchCount_bounds := ⟨by exact_mod_cast branches.1, by exact_mod_cast branches.2⟩
        verifiedCount_bounds := ⟨by exact_mod_cast verified.1, by exact_mod_cast verified.2⟩
        texts_nonblank := by simpa using texts
        context_complete := complete
        context_nonblank := by
          simp only [List.mem_append, Option.mem_toList]
          rintro text (given | given)
          · exact execution text given
          · exact space text given
        losers_nodup := nodup
        losers_count := count
        verifiedCount_le := verifiedCount
        accounting_matches := accounting
        losers_valid := losers
        fingerprint_eq := fingerprint }
  · intro valid
    obtain ⟨branchesLower, branchesUpper⟩ := valid.branchCount_bounds
    obtain ⟨verifiedLower, verifiedUpper⟩ := valid.verifiedCount_bounds
    refine ⟨⟨by exact_mod_cast branchesLower, by exact_mod_cast branchesUpper⟩,
      ⟨by exact_mod_cast verifiedLower, by exact_mod_cast verifiedUpper⟩,
      by simpa using valid.texts_nonblank, valid.context_complete, ?_, ?_, valid.losers_nodup,
      valid.losers_count, valid.verifiedCount_le, valid.accounting_matches, valid.losers_valid,
      valid.fingerprint_eq⟩
    · exact fun text given => valid.context_nonblank text (by simp [given])
    · exact fun text given => valid.context_nonblank text (by simp [given])

end SpeculativeResult

end Speculation
end MercuryX
