import MercuryX.Composition.Enumeration
import MercuryX.Foundation.Numerals

/-!
# Bounded generation of compositions

The generator takes the drafts of a request in the order of their enumeration, merges those of one
signature, and stops at the first signature beyond its cap. It judges what it kept: a draft with
too many stages is rejected, any other is validated anew. Its result lists candidates in the order
of their ids.
-/

namespace MercuryX
namespace Composition

open Foundation
open Intelligence
open Models

/-! ## Requests and results -/

/-- The most candidates that a generation emits. -/
def maxCompositionCandidates : Nat := 256

/-- The outcome of the composition phase. -/
inductive CompositionResultStatus where
  | ready
  | notApplicable
  | fail
  deriving DecidableEq, Repr

/-- The bounds of a generation. -/
structure CompositionGenerationPolicy where
  maxNodes : Nat
  maxCandidates : Nat
  /-- Candidates have some stage, and no more than certified. -/
  maxNodes_bounded : 1 ≤ maxNodes ∧ maxNodes ≤ maxCompositionNodes
  /-- Some candidate is emitted, and no more than certified. -/
  maxCandidates_bounded : 1 ≤ maxCandidates ∧ maxCandidates ≤ maxCompositionCandidates

theorem one_le_maxCompositionNodes : 1 ≤ maxCompositionNodes := by decide

theorem one_le_maxCompositionCandidates : 1 ≤ maxCompositionCandidates := by decide

/-- The bounds that a request has by default. -/
def CompositionGenerationPolicy.certified : CompositionGenerationPolicy where
  maxNodes := maxCompositionNodes
  maxCandidates := maxCompositionCandidates
  maxNodes_bounded := ⟨one_le_maxCompositionNodes, le_rfl⟩
  maxCandidates_bounded := ⟨one_le_maxCompositionCandidates, le_rfl⟩

/-- A request for compositions within bounds. -/
structure CompositionGenerationRequest where
  instantiationRequest : CompositionInstantiationRequest
  policy : CompositionGenerationPolicy := .certified

/-- How far the enumeration went. -/
structure CompositionGenerationMetadata where
  maxNodes : Nat
  maxCandidates : Nat
  emittedValidCount : Nat
  emittedRejectedCount : Nat
  enumerationComplete : Bool
  truncated : Bool
  truncationReason : Option String := none
  candidateCountLowerBound : Nat
  canonicalOrderDescription : String

/-- The constraints on metadata. -/
def CompositionGenerationMetadata.check (metadata : CompositionGenerationMetadata) :
    Except Fault Unit := do
  let contract := "CompositionGenerationMetadata"
  let emitted := metadata.emittedValidCount + metadata.emittedRejectedCount
  fieldBetween contract "max_nodes" 1 maxCompositionNodes metadata.maxNodes
  fieldBetween contract "max_candidates" 1 maxCompositionCandidates metadata.maxCandidates
  rule contract "truncation_reason" (∀ reason ∈ metadata.truncationReason, Text.Nonblank reason)
    "truncation_reason must be nonblank"
  rule contract "canonical_order_description"
    (Text.Nonblank metadata.canonicalOrderDescription)
    "canonical_order_description must be nonblank"
  rule contract "" (emitted ≤ metadata.maxCandidates) "emitted candidates exceed max_candidates"
  if metadata.truncated then
    rule contract "" (metadata.enumerationComplete = false)
      "truncated enumeration cannot be complete"
    rule contract "" (metadata.truncationReason ≠ none) "truncated enumeration requires a reason"
    rule contract "" (metadata.maxCandidates < metadata.candidateCountLowerBound)
      "truncation requires a lower bound above max_candidates"
  else
    rule contract "" (metadata.enumerationComplete = true)
      "non-truncated enumeration must be complete"
    rule contract "" (metadata.truncationReason = none)
      "non-truncated enumeration cannot have a truncation reason"
    rule contract "" (metadata.candidateCountLowerBound = emitted)
      "complete enumeration lower bound must equal emitted count"

/-- What the composition phase returns. -/
structure CompositionResult where
  status : CompositionResultStatus
  validCandidates : List CompositionCandidate
  rejectedCandidates : List CompositionCandidate
  generationMetadata : CompositionGenerationMetadata
  issues : List CompositionRejection := []

/-- The ids of candidates. -/
def candidateIds (candidates : List CompositionCandidate) : List String :=
  candidates.map fun candidate => candidate.compositionId

namespace CompositionResult

/-- All candidates of a result. -/
def candidates (result : CompositionResult) : List CompositionCandidate :=
  result.validCandidates ++ result.rejectedCandidates

/-- The constraints on the status of a result. -/
def checkStatus (given : CompositionResult) (contract : String) : Except Fault Unit :=
  match given.status with
  | .ready =>
      rule contract "" (given.validCandidates.length ≠ 0)
        "READY requires at least one valid candidate"
  | .notApplicable =>
      rule contract "" (given.validCandidates.length = 0 ∧ given.rejectedCandidates.length = 0 ∧
        given.issues = []) "NOT_APPLICABLE must contain no candidates or issues"
  | .fail => do
      rule contract "" (given.validCandidates.length = 0) "FAIL cannot contain valid candidates"
      rule contract "" (given.rejectedCandidates.length ≠ 0 ∨ given.issues ≠ [])
        "FAIL requires an explicit rejection or issue"

/-- Construct a result: its candidates are put in the order of their ids. -/
def construct (given : CompositionResult) : Except Fault CompositionResult := do
  let contract := "CompositionResult"
  rule contract "valid_candidates" (candidateIds given.validCandidates).Nodup
    "candidate composition ids must be unique"
  rule contract "rejected_candidates" (candidateIds given.rejectedCandidates).Nodup
    "candidate composition ids must be unique"
  rule contract "" (∀ candidate ∈ given.validCandidates, candidate.validity = .valid)
    "valid_candidates must contain only VALID candidates"
  rule contract "" (∀ candidate ∈ given.rejectedCandidates, candidate.validity = .rejected)
    "rejected_candidates must contain only REJECTED candidates"
  rule contract "" (candidateIds given.candidates).Nodup
    "candidate ids must be unique across the result"
  rule contract ""
    (given.generationMetadata.emittedValidCount = given.validCandidates.length)
    "valid candidate count does not match generation metadata"
  rule contract ""
    (given.generationMetadata.emittedRejectedCount = given.rejectedCandidates.length)
    "rejected candidate count does not match generation metadata"
  given.checkStatus contract
  return { given with
    validCandidates := sortOn (fun candidate => candidate.compositionId) given.validCandidates
    rejectedCandidates :=
      sortOn (fun candidate => candidate.compositionId) given.rejectedCandidates
    issues := canonical CompositionRejection.key given.issues }

end CompositionResult

/-! ## Generation -/

/-- The rejection of a draft with too many stages. -/
def nodeLimitRejection (draft : CompositionCandidateDraft) (maxNodes : Nat) :
    CompositionRejection where
  issueId := "generation_node_limit"
  violatedInvariant := "node_count"
  reason := s!"candidate has {draft.nodes.length} nodes and exceeds configured max_nodes=" ++
    s!"{maxNodes}"

/-- The candidate of a draft with too many stages. -/
def nodeLimitCandidate (draft : CompositionCandidateDraft) (maxNodes : Nat) :
    CompositionCandidate :=
  { draft with
    validity := .rejected
    rejectionReasons := [nodeLimitRejection draft maxNodes]
    validity_matches := by simp }

/-- Why an enumeration is cut off. -/
def truncationText : String :=
  "first unique candidate beyond the configured cap was observed in canonical enumeration"

/-- The order of the enumeration. -/
def canonicalOrderText : String := "certified pattern order followed by exact " ++
  "provider/model_id/family/revision order; canonical reproducibility only"

/-- What a generation reports of itself. -/
def generationMetadata (policy : CompositionGenerationPolicy) (valid rejected : Nat)
    (truncated : Bool) : CompositionGenerationMetadata where
  maxNodes := policy.maxNodes
  maxCandidates := policy.maxCandidates
  emittedValidCount := valid
  emittedRejectedCount := rejected
  enumerationComplete := !truncated
  truncated := truncated
  truncationReason := if truncated then some truncationText else none
  candidateCountLowerBound := if truncated then policy.maxCandidates + 1 else valid + rejected
  canonicalOrderDescription := canonicalOrderText

section Generation

variable (digest : Digest)

/-- Keep one draft of each signature, merged, until a fresh signature exceeds the cap. -/
def uniqueDrafts (maxCandidates : Nat) : Dict String CompositionCandidateDraft →
    List CompositionCandidateDraft → Except Fault (Dict String CompositionCandidateDraft × Bool)
  | unique, [] => .ok (unique, false)
  | unique, draft :: drafts =>
      let signature := semanticCandidateSignature digest draft
      match unique.get? signature with
      | some known => do
          let merged ← mergeDuplicateDrafts digest known draft
          uniqueDrafts maxCandidates (unique.insert signature merged) drafts
      | none =>
          if unique.entries.length = maxCandidates then .ok (unique, true)
          else uniqueDrafts maxCandidates (unique.insert signature draft) drafts

variable (request : CompositionGenerationRequest)

/-- The verdict on a draft, and its candidate. -/
def judge (draft : CompositionCandidateDraft) :
    CompositionValidationStatus × CompositionCandidate :=
  if request.policy.maxNodes < draft.nodes.length then
    (.fail, nodeLimitCandidate draft request.policy.maxNodes)
  else
    let validation := validateCompositionCandidate digest draft
      (contextOf request.instantiationRequest draft)
    (validation.status, validation.candidate)

/-- The candidates that passed, and those that did not. -/
def judgeAll (drafts : List CompositionCandidateDraft) :
    List CompositionCandidate × List CompositionCandidate :=
  let verdicts := drafts.map (judge digest request)
  ((verdicts.filter fun verdict => verdict.1 = .pass).map Prod.snd,
    (verdicts.filter fun verdict => ¬ verdict.1 = .pass).map Prod.snd)

/-- The result before its construction. -/
def resultFields (valid rejected : List CompositionCandidate) (truncated : Bool) :
    CompositionResult where
  status := if valid.length ≠ 0 then .ready
    else if rejected.length = 0 ∧ request.instantiationRequest.compositionRequired = false then
      .notApplicable
    else .fail
  validCandidates := valid
  rejectedCandidates := rejected
  generationMetadata := generationMetadata request.policy valid.length rejected.length truncated
  issues := if valid.length ≠ 0 ∨ rejected.length ≠ 0 ∨
      request.instantiationRequest.compositionRequired = false then []
    else [{
      issueId := "no_valid_composition"
      violatedInvariant := "candidate_availability"
      reason := "composition is required but no valid candidate was generated" }]

/-- Deduplicate, judge and emit the drafts of a request up to its cap. -/
def generateCompositions : Except Fault CompositionResult := do
  let drafts ← iterCompositionCandidateDrafts digest request.instantiationRequest
  let (unique, truncated) ← uniqueDrafts digest request.policy.maxCandidates .empty drafts
  let (valid, rejected) := judgeAll digest request unique.values
  let fields := resultFields request valid rejected truncated
  fields.generationMetadata.check
  fields.construct

end Generation

/-! ## What is kept and judged -/

section Emission

variable {digest : Digest} {request : CompositionGenerationRequest}
  {drafts : List CompositionCandidateDraft} {draft : CompositionCandidateDraft}

/-- Drafts of fresh and different signatures are kept up to the cap, each as it stands. -/
theorem uniqueDrafts_eq {maxCandidates : Nat} {unique : Dict String CompositionCandidateDraft}
    (fresh : ∀ draft ∈ drafts, semanticCandidateSignature digest draft ∉ unique.keys)
    (distinct : (drafts.map (semanticCandidateSignature digest)).Nodup)
    (room : unique.entries.length ≤ maxCandidates) :
    ∃ kept, uniqueDrafts digest maxCandidates unique drafts =
        .ok (kept, decide (maxCandidates < unique.entries.length + drafts.length)) ∧
      kept.values = unique.values ++ drafts.take (maxCandidates - unique.entries.length) := by
  induction drafts generalizing unique with
  | nil =>
      refine ⟨unique, ?_, by simp⟩
      have within : ¬ maxCandidates < unique.entries.length + 0 := by omega
      simp only [uniqueDrafts, List.length_nil, within, decide_false]
  | cons draft drafts induction =>
      rw [List.forall_mem_cons] at fresh
      rw [List.map_cons, List.nodup_cons] at distinct
      have unknown : unique.get? (semanticCandidateSignature digest draft) = none :=
        Dict.get?_eq_none_iff.mpr fresh.1
      by_cases full : unique.entries.length = maxCandidates
      · refine ⟨unique, ?_, by simp [full]⟩
        simp [uniqueDrafts, unknown, full]
      · let next := unique.insert (semanticCandidateSignature digest draft) draft
        have grown : next.entries = unique.entries ++
            [(semanticCandidateSignature digest draft, draft)] :=
          Dict.insert_entries_of_not_mem fresh.1 draft
        have longer : next.entries.length = unique.entries.length + 1 := by
          rw [grown, List.length_append, List.length_singleton]
        obtain ⟨kept, answered, values⟩ := @induction next (fun other member known => by
            rcases Dict.mem_keys_insert.mp known with same | known
            · exact distinct.1 (List.mem_map.mpr ⟨other, member, same⟩)
            · exact fresh.2 other member known) distinct.2 (by omega)
        refine ⟨kept, ?_, ?_⟩
        · simp only [uniqueDrafts, unknown, full, if_false]
          rw [answered, longer, List.length_cons, Nat.add_assoc, Nat.add_comm 1]
        · have taken : maxCandidates - unique.entries.length =
              maxCandidates - next.entries.length + 1 := by omega
          rw [values, taken, List.take_succ_cons, Dict.values, grown, List.map_append,
            List.append_assoc]
          rfl

theorem draft_of_judge : (judge digest request draft).2.toCompositionCandidateDraft = draft := by
  unfold judge
  split <;> rfl

/-- A draft passes when it has no more stages than allowed and passes its validation. -/
theorem judge_pass_iff : (judge digest request draft).1 = .pass ↔
    draft.nodes.length ≤ request.policy.maxNodes ∧ (validateCompositionCandidate digest draft
      (contextOf request.instantiationRequest draft)).status = .pass := by
  unfold judge
  split
  · next exceeds => simp [Nat.not_le.mpr exceeds]
  · next within => simp [Nat.not_lt.mp within]

theorem judge_valid_iff : (judge digest request draft).2.validity = .valid ↔
    (judge digest request draft).1 = .pass := by
  unfold judge
  split
  · simp [nodeLimitCandidate]
  · exact candidate_valid_iff

theorem mem_judgeAll_fst {candidate : CompositionCandidate} :
    candidate ∈ (judgeAll digest request drafts).1 ↔
      ∃ draft ∈ drafts, (judge digest request draft).1 = .pass ∧
        (judge digest request draft).2 = candidate := by
  simp [judgeAll, and_assoc]

theorem mem_judgeAll_snd {candidate : CompositionCandidate} :
    candidate ∈ (judgeAll digest request drafts).2 ↔
      ∃ draft ∈ drafts, (judge digest request draft).1 ≠ .pass ∧
        (judge digest request draft).2 = candidate := by
  simp [judgeAll, and_assoc]

/-- Every draft becomes a candidate, of its own signature and id. -/
theorem judgeAll_perm : ((judgeAll digest request drafts).1 ++
    (judgeAll digest request drafts).2).map
      CompositionCandidate.toCompositionCandidateDraft |>.Perm drafts := by
  have split : ((drafts.map (judge digest request)).filter (fun verdict => verdict.1 = .pass) ++
      (drafts.map (judge digest request)).filter fun verdict => ¬ verdict.1 = .pass).Perm
        (drafts.map (judge digest request)) := by
    simpa using List.filter_append_perm (fun verdict : CompositionValidationStatus ×
      CompositionCandidate => decide (verdict.1 = .pass)) (drafts.map (judge digest request))
  have images := (split.map Prod.snd).map CompositionCandidate.toCompositionCandidateDraft
  rw [List.map_append] at images
  refine images.trans (.of_eq ?_)
  rw [List.map_map, List.map_map]
  exact (List.map_congr_left fun draft _ => draft_of_judge).trans (List.map_id _)

/-- The report of a generation within its cap meets its contract. -/
theorem check_generationMetadata {policy : CompositionGenerationPolicy} {valid rejected : Nat}
    (bounded : valid + rejected ≤ policy.maxCandidates) (truncated : Bool) :
    (generationMetadata policy valid rejected truncated).check = .ok () := by
  have reason : Text.Nonblank truncationText := Text.nonblank_literal rfl
  have order : Text.Nonblank canonicalOrderText := Text.nonblank_append_left (by decide) _
  cases truncated <;>
    simp [CompositionGenerationMetadata.check, generationMetadata, bounded, reason, order,
      policy.maxNodes_bounded, policy.maxCandidates_bounded]

theorem CompositionResult.kept_of_construct {given made : CompositionResult}
    (constructed : given.construct = .ok made) :
    made.validCandidates.Perm given.validCandidates ∧
      made.rejectedCandidates.Perm given.rejectedCandidates ∧
      made.generationMetadata = given.generationMetadata := by
  simp only [construct, bind_eq_ok, pure_eq_ok, Except.ok.injEq] at constructed
  obtain ⟨_, _, _, _, _, _, _, _, _, _, _, _, _, _, _, _, rfl⟩ := constructed
  exact ⟨sortOn_perm _ _, sortOn_perm _ _, rfl⟩

/-- The status of a result fits what it holds. -/
theorem checkStatus_resultFields (valid rejected : List CompositionCandidate) (truncated : Bool) :
    (resultFields request valid rejected truncated).checkStatus "CompositionResult" = .ok () := by
  cases valid <;> cases rejected <;>
    cases required : request.instantiationRequest.compositionRequired <;>
      simp [CompositionResult.checkStatus, resultFields, required]

theorem exists_construct {valid rejected : List CompositionCandidate}
    (distinct : (candidateIds (valid ++ rejected)).Nodup)
    (accepted : ∀ candidate ∈ valid, candidate.validity = .valid)
    (refused : ∀ candidate ∈ rejected, candidate.validity = .rejected) (truncated : Bool) :
    ∃ result, (resultFields request valid rejected truncated).construct = .ok result := by
  have parts := distinct
  rw [candidateIds, List.map_append, List.nodup_append] at parts
  simp only [CompositionResult.construct, bind_eq_ok, rule_eq_ok, pure_eq_ok]
  exact ⟨_, (), parts.1, (), parts.2.1, (), accepted, (), refused, (), distinct, (), rfl, (), rfl,
    (), checkStatus_resultFields valid rejected truncated, rfl⟩

theorem accepted_of_judgeAll :
    ∀ candidate ∈ (judgeAll digest request drafts).1, candidate.validity = .valid := by
  intro candidate member
  obtain ⟨draft, _, passed, rfl⟩ := mem_judgeAll_fst.mp member
  exact judge_valid_iff.mpr passed

theorem refused_of_judgeAll :
    ∀ candidate ∈ (judgeAll digest request drafts).2, candidate.validity = .rejected := by
  intro candidate member
  obtain ⟨draft, _, failed, rfl⟩ := mem_judgeAll_snd.mp member
  cases verdict : (judge digest request draft).2.validity with
  | valid => exact absurd (judge_valid_iff.mp verdict) failed
  | rejected => rfl

/-- What a generation came to, in terms of the drafts that it kept. -/
structure Judged (digest : Digest) (request : CompositionGenerationRequest)
    (drafts : List CompositionCandidateDraft) (result : CompositionResult) : Prop where
  /-- The valid candidates are those of the first drafts that pass. -/
  valid : result.validCandidates.Perm
    (judgeAll digest request (drafts.take request.policy.maxCandidates)).1
  /-- The rejected candidates are those of the first drafts that do not. -/
  rejected : result.rejectedCandidates.Perm
    (judgeAll digest request (drafts.take request.policy.maxCandidates)).2
  /-- The report counts them. -/
  report : result.generationMetadata = generationMetadata request.policy
    (judgeAll digest request (drafts.take request.policy.maxCandidates)).1.length
    (judgeAll digest request (drafts.take request.policy.maxCandidates)).2.length
    (decide (request.policy.maxCandidates < drafts.length))

theorem exists_judged
    (answered : iterCompositionCandidateDrafts digest request.instantiationRequest = .ok drafts)
    (signatures : (drafts.map (semanticCandidateSignature digest)).Nodup)
    (ids : (drafts.map fun draft => draft.compositionId).Nodup) :
    ∃ result, generateCompositions digest request = .ok result ∧
      Judged digest request drafts result := by
  obtain ⟨kept, unique, values⟩ := @uniqueDrafts_eq digest drafts request.policy.maxCandidates
    .empty (fun _ _ => List.not_mem_nil) signatures (Nat.zero_le _)
  have first : kept.values = drafts.take request.policy.maxCandidates := values
  rw [show (Dict.empty : Dict String CompositionCandidateDraft).entries.length = 0 from rfl,
    Nat.zero_add] at unique
  have perm := @judgeAll_perm digest request (drafts.take request.policy.maxCandidates)
  have counted : (judgeAll digest request (drafts.take request.policy.maxCandidates)).1.length +
      (judgeAll digest request (drafts.take request.policy.maxCandidates)).2.length ≤
        request.policy.maxCandidates := by
    rw [← List.length_append, ← List.length_map, perm.length_eq, List.length_take]
    exact Nat.min_le_left _ _
  have distinct : (candidateIds ((judgeAll digest request
      (drafts.take request.policy.maxCandidates)).1 ++ (judgeAll digest request
        (drafts.take request.policy.maxCandidates)).2)).Nodup := by
    have same := perm.map fun draft => draft.compositionId
    rw [List.map_map] at same
    exact same.nodup_iff.mpr (ids.sublist ((List.take_sublist _ _).map _))
  obtain ⟨result, constructed⟩ := @exists_construct request _ _ distinct accepted_of_judgeAll
    refused_of_judgeAll (decide (request.policy.maxCandidates < drafts.length))
  obtain ⟨valid, rejected, report⟩ := CompositionResult.kept_of_construct constructed
  refine ⟨result, ?_, valid, rejected, report⟩
  simp only [generateCompositions, answered, ok_bind, unique, first, resultFields,
    check_generationMetadata counted]
  exact constructed

end Emission

/-! ## What a generation emits -/

section Law

variable (digest : Digest)

/-- The digest tells the signatures and the contents of the drafts of a request apart. -/
def CollisionFree (request : CompositionInstantiationRequest) : Prop :=
  ∀ drafts, iterCompositionCandidateDrafts digest request = .ok drafts →
    Set.InjOn digest.hexdigest {payload | ∃ draft ∈ drafts,
        signaturePayload draft.toDraftFields = payload} ∧
      Set.InjOn digest.hexdigest {payload | ∃ draft ∈ drafts,
        compositionPayload draft.toDraftFields = some payload}

/-- The different signatures of drafts, in the order of their first occurrence. -/
def distinctSignatures (drafts : List CompositionCandidateDraft) : List String :=
  (drafts.map (semanticCandidateSignature digest)).eraseDups

/-- The drafts of one signature, merged one after another. -/
def mergedDraft (drafts : List CompositionCandidateDraft) (signature : String) :
    Except Fault (Option CompositionCandidateDraft) :=
  match drafts.filter fun draft => semanticCandidateSignature digest draft = signature with
  | [] => .ok none
  | draft :: duplicates => some <$> duplicates.foldlM (mergeDuplicateDrafts digest) draft

/-- The signature of a candidate. -/
def candidateSignature (candidate : CompositionCandidate) : String :=
  semanticCandidateSignature digest candidate.toCompositionCandidateDraft

/-- The signatures of the candidates of a result, in the order of their enumeration. -/
def emittedSignatures (drafts : List CompositionCandidateDraft) (result : CompositionResult) :
    List String :=
  (distinctSignatures digest drafts).filter fun signature =>
    signature ∈ result.candidates.map (candidateSignature digest)

/-- What a generation emits of the drafts that its request enumerates. -/
structure Emits (request : CompositionGenerationRequest) (drafts : List CompositionCandidateDraft)
    (result : CompositionResult) : Prop where
  /-- The candidates have the first signatures, one candidate each. -/
  signatures : (result.candidates.map (candidateSignature digest)).Perm
    ((distinctSignatures digest drafts).take request.policy.maxCandidates)
  /-- Each candidate is the merged draft of its signature. -/
  merged : ∀ candidate ∈ result.candidates, mergedDraft digest drafts
    (candidateSignature digest candidate) = .ok (some candidate.toCompositionCandidateDraft)
  /-- A candidate is valid exactly when its draft has no more stages than allowed and passes. -/
  verdicts : ∀ candidate ∈ result.candidates, candidate.validity = .valid ↔
    candidate.nodes.length ≤ request.policy.maxNodes ∧
      (validateCompositionCandidate digest candidate.toCompositionCandidateDraft
        (contextOf request.instantiationRequest candidate.toCompositionCandidateDraft)).status =
          .pass
  /-- Valid candidates are listed as such, and rejected ones as well. -/
  listed : (∀ candidate ∈ result.validCandidates, candidate.validity = .valid) ∧
    ∀ candidate ∈ result.rejectedCandidates, candidate.validity = .rejected
  /-- Truncation is reported exactly when there are more signatures. -/
  truncated : result.generationMetadata.truncated = true ↔
    request.policy.maxCandidates < (distinctSignatures digest drafts).length
  /-- The reported number of candidates is no more than there are signatures. -/
  bounded : result.generationMetadata.candidateCountLowerBound ≤
    (distinctSignatures digest drafts).length

/-- A result goes on where another with a smaller cap stops. -/
structure Extends (drafts : List CompositionCandidateDraft) (fewer more : CompositionResult) :
    Prop where
  /-- The signatures of the smaller cap come first. -/
  signatures : emittedSignatures digest drafts fewer <+: emittedSignatures digest drafts more
  /-- Valid candidates are the same. -/
  valid : fewer.validCandidates ⊆ more.validCandidates
  /-- Rejected candidates are the same. -/
  rejected : fewer.rejectedCandidates ⊆ more.rejectedCandidates

/-- Whatever its bounds, a generation answers with the first candidates, and a smaller cap with
fewer of the same. -/
def BoundedGeneration (request : CompositionInstantiationRequest) : Prop :=
  ∃ drafts, iterCompositionCandidateDrafts digest request = .ok drafts ∧
    (∀ policy, ∃ result, generateCompositions digest ⟨request, policy⟩ = .ok result ∧
      Emits digest ⟨request, policy⟩ drafts result) ∧
    ∀ smaller larger : CompositionGenerationPolicy, smaller.maxNodes = larger.maxNodes →
      smaller.maxCandidates ≤ larger.maxCandidates → ∀ fewer more,
        generateCompositions digest ⟨request, smaller⟩ = .ok fewer →
        generateCompositions digest ⟨request, larger⟩ = .ok more →
          Extends digest drafts fewer more

variable {digest} {request : CompositionGenerationRequest}
  {drafts : List CompositionCandidateDraft} {result : CompositionResult}

theorem Enumerated.signatures_nodup {request : CompositionInstantiationRequest}
    (enumerated : Enumerated digest request drafts) (collisionFree : CollisionFree digest request) :
    (drafts.map (semanticCandidateSignature digest)).Nodup := by
  rw [List.Nodup, List.pairwise_map]
  refine (List.Pairwise.and_mem.mp enumerated.apart).imp ?_
  rintro left right ⟨leftMember, rightMember, apart⟩ same
  refine apart (sameBinding_of_signaturePayload ?_)
  exact (collisionFree drafts enumerated.answered).1 ⟨left, leftMember, rfl⟩
    ⟨right, rightMember, rfl⟩ ((String.append_right_inj _).mp same)

theorem Enumerated.ids_nodup {request : CompositionInstantiationRequest}
    (enumerated : Enumerated digest request drafts) (collisionFree : CollisionFree digest request) :
    (drafts.map fun draft => draft.compositionId).Nodup := by
  rw [List.Nodup, List.pairwise_map]
  refine (List.Pairwise.and_mem.mp enumerated.apart).imp ?_
  rintro left right ⟨leftMember, rightMember, apart⟩ same
  obtain ⟨_, _, _, _, _, leftDrawn⟩ := enumerated.drawn left leftMember
  obtain ⟨_, _, _, _, _, rightDrawn⟩ := enumerated.drawn right rightMember
  rw [leftDrawn.compositionId_eq, rightDrawn.compositionId_eq, String.append_right_inj] at same
  refine apart (leftDrawn.sameBinding_of_compositionPayload rightDrawn ?_)
  have contents := (collisionFree drafts enumerated.answered).2
    ⟨left, leftMember, leftDrawn.compositionPayload_eq⟩
    ⟨right, rightMember, rightDrawn.compositionPayload_eq⟩ same
  rw [leftDrawn.compositionPayload_eq, rightDrawn.compositionPayload_eq, contents]

theorem eraseDups_of_nodup {texts : List String} (nodup : texts.Nodup) :
    texts.eraseDups = texts := by
  induction texts with
  | nil => rfl
  | cons text texts induction =>
      obtain ⟨fresh, rest⟩ := List.nodup_cons.mp nodup
      have kept : texts.filter (fun other => !other == text) = texts :=
        List.filter_eq_self.mpr fun other member => by
          have different : other ≠ text := fun same => fresh (same ▸ member)
          simp [different]
      rw [List.eraseDups_cons, kept, induction rest]

/-- The members of a list that stand among its first are these. -/
theorem filter_mem_take {texts chosen : List String} (nodup : texts.Nodup) {count : Nat}
    (perm : chosen.Perm (texts.take count)) :
    (texts.filter fun text => text ∈ chosen) = texts.take count := by
  have split := List.take_append_drop count texts
  have apart : List.Disjoint (texts.take count) (texts.drop count) :=
    List.disjoint_of_nodup_append (split.symm ▸ nodup)
  conv_lhs => rw [← split]
  rw [List.filter_append, List.filter_eq_self.mpr fun text member => decide_eq_true
    (perm.mem_iff.mpr member), List.filter_eq_nil_iff.mpr fun text member => ?_, List.append_nil]
  simpa [perm.mem_iff] using fun inside => apart inside member

theorem filter_image_eq {α : Type} {image : α → String} {items : List α}
    (nodup : (items.map image).Nodup) {item : α} (member : item ∈ items) :
    (items.filter fun other => image other = image item) = [item] := by
  induction items with
  | nil => nomatch member
  | cons head items induction =>
      obtain ⟨fresh, rest⟩ := List.nodup_cons.mp nodup
      rcases List.mem_cons.mp member with rfl | inside
      · have none : (items.filter fun other => image other = image item) = [] :=
          List.filter_eq_nil_iff.mpr fun other otherMember => by
            have different : image other ≠ image item := fun same =>
              fresh (same ▸ List.mem_map_of_mem otherMember)
            simpa using different
        simp [none]
      · have different : image head ≠ image item := fun same =>
          fresh (same ▸ List.mem_map_of_mem inside)
        simp [different, induction rest inside]

namespace Judged

variable (judged : Judged digest request drafts result)
  (distinct : (drafts.map (semanticCandidateSignature digest)).Nodup)

include judged

theorem mem_candidates {candidate : CompositionCandidate} : candidate ∈ result.candidates ↔
    ∃ draft ∈ drafts.take request.policy.maxCandidates,
      (judge digest request draft).2 = candidate := by
  rw [CompositionResult.candidates, List.mem_append, judged.valid.mem_iff, judged.rejected.mem_iff,
    mem_judgeAll_fst, mem_judgeAll_snd, ← exists_or]
  refine exists_congr fun draft => ?_
  by_cases passed : (judge digest request draft).1 = .pass <;> simp [passed]

include distinct

/-- A generation that judged the first drafts emits them. -/
theorem emits : Emits digest request drafts result := by
  have signatures : distinctSignatures digest drafts =
      drafts.map (semanticCandidateSignature digest) := eraseDups_of_nodup distinct
  have perm := @judgeAll_perm digest request (drafts.take request.policy.maxCandidates)
  have counted := perm.length_eq
  rw [List.length_map, List.length_append, List.length_take] at counted
  constructor
  case signatures =>
    have same := ((judged.valid.append judged.rejected).map
      CompositionCandidate.toCompositionCandidateDraft).trans perm
    have images := same.map (semanticCandidateSignature digest)
    rw [List.map_map] at images
    rw [signatures, ← List.map_take]
    exact images
  case merged =>
    intro candidate member
    obtain ⟨draft, inside, rfl⟩ := judged.mem_candidates.mp member
    have only := filter_image_eq distinct (List.mem_of_mem_take inside)
    rw [mergedDraft, candidateSignature, draft_of_judge, only]
    rfl
  case verdicts =>
    intro candidate member
    obtain ⟨draft, _, rfl⟩ := judged.mem_candidates.mp member
    rw [judge_valid_iff, judge_pass_iff, draft_of_judge]
  case listed =>
    exact ⟨fun candidate member => accepted_of_judgeAll candidate (judged.valid.mem_iff.mp member),
      fun candidate member => refused_of_judgeAll candidate (judged.rejected.mem_iff.mp member)⟩
  case truncated =>
    rw [judged.report, signatures, List.length_map]
    exact decide_eq_true_iff
  case bounded =>
    rw [judged.report, signatures, List.length_map, generationMetadata]
    by_cases truncated : request.policy.maxCandidates < drafts.length
    · simp [truncated]
    · simp only [truncated, decide_false]
      rw [if_neg Bool.false_ne_true, counted]
      exact Nat.min_le_right _ _

/-- The emitted signatures are the first ones, in order. -/
theorem emittedSignatures_eq : emittedSignatures digest drafts result =
    (distinctSignatures digest drafts).take request.policy.maxCandidates := by
  have signatures : distinctSignatures digest drafts =
      drafts.map (semanticCandidateSignature digest) := eraseDups_of_nodup distinct
  exact filter_mem_take (signatures ▸ distinct) (judged.emits distinct).signatures

end Judged

/-- Under a smaller cap, a generation judges a part of the drafts in the same way. -/
theorem extends_of_judged {request : CompositionInstantiationRequest}
    {smaller larger : CompositionGenerationPolicy} {fewer more : CompositionResult}
    (distinct : (drafts.map (semanticCandidateSignature digest)).Nodup)
    (sameNodes : smaller.maxNodes = larger.maxNodes)
    (capped : smaller.maxCandidates ≤ larger.maxCandidates)
    (fewerJudged : Judged digest ⟨request, smaller⟩ drafts fewer)
    (moreJudged : Judged digest ⟨request, larger⟩ drafts more) :
    Extends digest drafts fewer more := by
  have sameJudge : judge digest ⟨request, smaller⟩ = judge digest ⟨request, larger⟩ := by
    funext draft
    simp only [judge, sameNodes]
  have front : drafts.take smaller.maxCandidates ⊆ drafts.take larger.maxCandidates :=
    (List.take_prefix_take_left capped).subset
  constructor
  · rw [fewerJudged.emittedSignatures_eq distinct, moreJudged.emittedSignatures_eq distinct]
    exact List.take_prefix_take_left capped
  · intro candidate member
    rw [fewerJudged.valid.mem_iff, mem_judgeAll_fst, sameJudge] at member
    obtain ⟨draft, inside, passed⟩ := member
    exact moreJudged.valid.mem_iff.mpr (mem_judgeAll_fst.mpr ⟨draft, front inside, passed⟩)
  · intro candidate member
    rw [fewerJudged.rejected.mem_iff, mem_judgeAll_snd, sameJudge] at member
    obtain ⟨draft, inside, failed⟩ := member
    exact moreJudged.rejected.mem_iff.mpr (mem_judgeAll_snd.mpr ⟨draft, front inside, failed⟩)

variable (digest) in
/-- Every generation answers with the first candidates of its request, where the digest has no
collisions among its drafts. -/
theorem boundedGeneration_of_collisionFree (hexadecimal : digest.Hexadecimal)
    (request : CompositionInstantiationRequest) (collisionFree : CollisionFree digest request) :
    BoundedGeneration digest request := by
  obtain ⟨drafts, enumerated⟩ := @exists_enumerated digest request hexadecimal
  have distinct := enumerated.signatures_nodup collisionFree
  have judged : ∀ policy, ∃ result, generateCompositions digest ⟨request, policy⟩ = .ok result ∧
      Judged digest ⟨request, policy⟩ drafts result := fun policy =>
    @exists_judged digest ⟨request, policy⟩ drafts enumerated.answered distinct
      (enumerated.ids_nodup collisionFree)
  refine ⟨drafts, enumerated.answered, fun policy => ?_, ?_⟩
  · obtain ⟨result, generated, spec⟩ := judged policy
    exact ⟨result, generated, spec.emits distinct⟩
  · intro smaller larger sameNodes capped fewer more fewerGenerated moreGenerated
    obtain ⟨_, generated, fewerJudged⟩ := judged smaller
    obtain rfl := Except.ok.inj (generated.symm.trans fewerGenerated)
    obtain ⟨_, generated, moreJudged⟩ := judged larger
    obtain rfl := Except.ok.inj (generated.symm.trans moreGenerated)
    exact extends_of_judged distinct sameNodes capped fewerJudged moreJudged

/-- Where the drafts of a request have signatures and ids of their own, there is no collision. -/
theorem collisionFree_of_nodup (hexadecimal : digest.Hexadecimal)
    {request : CompositionInstantiationRequest}
    (answered : iterCompositionCandidateDrafts digest request = .ok drafts)
    (signatures : (drafts.map (semanticCandidateSignature digest)).Nodup)
    (ids : (drafts.map fun draft => draft.compositionId).Nodup) : CollisionFree digest request := by
  obtain ⟨_, enumerated⟩ := @exists_enumerated digest request hexadecimal
  obtain rfl := Except.ok.inj (enumerated.answered.symm.trans answered)
  intro _ again
  obtain rfl := Except.ok.inj (answered.symm.trans again)
  constructor
  · rintro _ ⟨left, leftMember, rfl⟩ _ ⟨right, rightMember, rfl⟩ same
    have shared : semanticCandidateSignature digest left =
        semanticCandidateSignature digest right := congrArg ("sha256:" ++ ·) same
    rw [List.inj_on_of_nodup_map signatures leftMember rightMember shared]
  · rintro _ ⟨left, leftMember, leftContent⟩ _ ⟨right, rightMember, rightContent⟩ same
    obtain ⟨_, _, _, _, _, leftDrawn⟩ := enumerated.drawn left leftMember
    obtain ⟨_, _, _, _, _, rightDrawn⟩ := enumerated.drawn right rightMember
    have shared : left.compositionId = right.compositionId := by
      rw [leftDrawn.compositionPayload_eq, Option.some_inj] at leftContent
      rw [rightDrawn.compositionPayload_eq, Option.some_inj] at rightContent
      rw [leftDrawn.compositionId_eq, rightDrawn.compositionId_eq, leftContent, rightContent, same]
    obtain rfl := List.inj_on_of_nodup_map ids leftMember rightMember shared
    exact Option.some_inj.mp (leftContent.symm.trans rightContent)

end Law

/-! ## A request with two records -/

section TwoRecords

theorem text_stripped : stringValues ["text"] = ["text"] := by
  decide

/-- A plain workload of text. -/
def textSignals : WorkloadSignals := Graph.plainSignals "text" none text_stripped

theorem exists_textGraph : ∃ result graph,
    analyzeSignals textSignals = .ok result ∧
      result.profile = some (inferredProfile textSignals .text .restricted) ∧
      Graph.buildExecutionGraph result = .ok graph :=
  Graph.exists_built_of_inferred rfl (by decide)

theorem textSignals_analyzed : ∃ result, analyzeSignals textSignals = .ok result := by
  obtain ⟨result, _, analyzed, _⟩ := exists_textGraph
  exact ⟨result, analyzed⟩

/-- The analysis of the workload. -/
def textResult : WorkloadIntelligencePipelineResult := answerOf _ textSignals_analyzed

theorem textResult_built :
    textResult.profile = some (inferredProfile textSignals .text .restricted) ∧
      ∃ graph, Graph.buildExecutionGraph textResult = .ok graph := by
  obtain ⟨result, graph, analyzed, given, built⟩ := exists_textGraph
  obtain rfl : result = textResult := Except.ok.inj (analyzed.symm.trans (eq_ok_answerOf _))
  exact ⟨given, graph, built⟩

/-- A second record of a model with every capability. -/
def secondRecord : ModelCapabilityRecord :=
  { capableRecord with
    modelId := "n"
    identity_nonblank := by decide }

/-- The registry of both records. -/
def twoRecords : ModelCapabilityRegistry where
  records := [capableRecord, secondRecord]
  identities_separate := by decide

/-- A request for compositions with two records. -/
def twoRecordsRequest : CompositionInstantiationRequest :=
  builtRequest twoRecords textResult_built.1 (eq_ok_answerOf textResult_built.2)

/-- There is a draft for each record, of its own signature and id. -/
theorem twoRecords_apart :
    ∃ drafts, iterCompositionCandidateDrafts .sha256 twoRecordsRequest = .ok drafts ∧
      drafts.length = 2 ∧ (drafts.map (semanticCandidateSignature .sha256)).Nodup ∧
        (drafts.map fun draft => draft.compositionId).Nodup := by
  rw [Digest.sha256_eq_numeric]
  decide +kernel

/-- A bound of one candidate. -/
def oneCandidate : CompositionGenerationPolicy :=
  { CompositionGenerationPolicy.certified with
    maxCandidates := 1
    maxCandidates_bounded := ⟨le_rfl, one_le_maxCompositionCandidates⟩ }

/-- Generation for two records keeps the law, and a bound of one candidate truncates it. -/
theorem boundedGeneration_text :
    (∃ result, generateCompositions .sha256 ⟨twoRecordsRequest, oneCandidate⟩ = .ok result ∧
      result.generationMetadata.truncated = true) ∧
        BoundedGeneration .sha256 twoRecordsRequest := by
  obtain ⟨drafts, answered, two, signatures, ids⟩ := twoRecords_apart
  have law : BoundedGeneration .sha256 twoRecordsRequest :=
    boundedGeneration_of_collisionFree .sha256 Digest.sha256_hexadecimal twoRecordsRequest
      (collisionFree_of_nodup Digest.sha256_hexadecimal answered signatures ids)
  refine ⟨?_, law⟩
  obtain ⟨_, again, emits, _⟩ := law
  obtain rfl := Except.ok.inj (answered.symm.trans again)
  obtain ⟨result, generated, emitted⟩ := emits oneCandidate
  refine ⟨result, generated, emitted.truncated.mpr ?_⟩
  rw [distinctSignatures, eraseDups_of_nodup signatures, List.length_map, two]
  exact Nat.one_lt_two

end TwoRecords

end Composition
end MercuryX
