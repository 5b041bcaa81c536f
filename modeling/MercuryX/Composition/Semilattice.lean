import MercuryX.Composition.Duplicates

/-!
# When merging is a semilattice join

Merging semantic duplicates is commutative, associative and idempotent, keeps everything that both
sides contain, and keeps them valid, exactly for duplicates of one request whose handoffs are told
apart by more than their evidence and whose stages, where both sides pass, are justified alike.
-/

namespace MercuryX
namespace Composition

open Foundation
open Intelligence (CanonicalTuple)
open Models

variable {digest : Digest} {left right third merged : CompositionCandidateDraft}

/-- What makes merging the join of a semilattice, on three duplicates. -/
structure MergesAsJoin (digest : Digest) (left right third : CompositionCandidateDraft) :
    Prop where
  /-- The order of two drafts does not matter. -/
  commutes : ∃ merged, mergeDuplicateDrafts digest left right = .ok merged ∧
    mergeDuplicateDrafts digest right left = .ok merged
  /-- The grouping of three drafts does not matter. -/
  associates : ∃ first last merged, mergeDuplicateDrafts digest left right = .ok first ∧
    mergeDuplicateDrafts digest right third = .ok last ∧
    mergeDuplicateDrafts digest first third = .ok merged ∧
    mergeDuplicateDrafts digest left last = .ok merged
  /-- A draft merged with itself stays as it is. -/
  absorbs : mergeDuplicateDrafts digest left left = .ok left
  /-- What two drafts are merged to has their signature and their id, and contains all evidence,
  justifications, assessments and provenance of both. -/
  preserves : ∀ merged, mergeDuplicateDrafts digest left right = .ok merged →
    semanticCandidateSignature digest merged = semanticCandidateSignature digest left ∧
      merged.compositionId = left.compositionId ∧ left.content ⊆ merged.content ∧
      right.content ⊆ merged.content
  /-- Where two drafts pass, what they are merged to passes. -/
  passes : ∀ merged context, mergeDuplicateDrafts digest left right = .ok merged →
    (validateCompositionCandidate digest left context).status = .pass →
    (validateCompositionCandidate digest right context).status = .pass →
    (validateCompositionCandidate digest merged context).status = .pass

/-- What merging two duplicates as a join rests on. -/
structure Mergeable (digest : Digest) (left right : CompositionCandidateDraft) : Prop where
  /-- No two handoffs differ in their evidence alone. -/
  told : HandoffsTold left
  /-- Both drafts are for one request, workload, session and graph. -/
  origin : left.origin = right.origin
  /-- Where both drafts pass, their stages are justified alike. -/
  justified : ∀ context, (validateCompositionCandidate digest left context).status = .pass →
    (validateCompositionCandidate digest right context).status = .pass → JustifiedAlike left right

/-- The drafts that merging three duplicates is about: these, and what the first two are merged
to. -/
def concerned (digest : Digest) (left right third : CompositionCandidateDraft) :
    List CompositionCandidateDraft :=
  [left, right, third] ++ (mergeDuplicateDrafts digest left right).toOption.toList

/-- No two signatures and no two ids of the drafts that merging is about collide. -/
structure Uncollided (digest : Digest) (left right third : CompositionCandidateDraft) : Prop where
  /-- The signatures do not collide. -/
  signatures : digest.CollisionFreeOn ((concerned digest left right third).map fun draft =>
    signaturePayload draft.toDraftFields)
  /-- The ids that the contents name do not collide. -/
  compositionIds : digest.CollisionFreeOn ((concerned digest left right third).filterMap
    fun draft => compositionPayload draft.toDraftFields)

/-! ## Handoffs that differ in their evidence alone -/

/-- What a draft is merged to has no two handoffs that differ in their evidence alone. -/
theorem handoffsTold_of_merge (made : mergeDuplicateDrafts digest left right = .ok merged) :
    HandoffsTold merged := by
  simp only [mergeDuplicateDrafts, bind_eq_ok, CompositionCandidateDraft.make_eq_ok_iff] at made
  obtain ⟨_, _, _, _, nodes, _, edges, joined, _, fields⟩ := made
  have keys := map_key_of_mergeByKey (fun item other merged done => by
    obtain rfl := Except.ok.inj done
    rfl) joined
  have distinct : (edges.map CompositionEdge.semanticKey).Nodup := by
    rw [keys]
    exact (sortOn_perm _ _).nodup_iff.mpr
      (Dict.indexed CompositionEdge.semanticKey left.edges).nodup
  have kept : merged.edges = canonical CompositionEdge.key edges :=
    congrArg DraftFields.edges fields
  have perm : merged.edges.Perm edges := by
    rw [kept, canonical, (List.Nodup.of_map _ distinct).dedup]
    exact sortOn_perm _ _
  exact (perm.map _).nodup_iff.mpr distinct

theorem handoffsTold_of_kind (same : left.kind = right.kind) (told : HandoffsTold left) :
    HandoffsTold right := by
  rwa [HandoffsTold, DraftFields.handoffs_of_kind same] at told

/-! ## The laws -/

theorem Duplicates.refl (digest : Digest) (draft : CompositionCandidateDraft) :
    Duplicates digest draft draft where
  signature := rfl
  compositionId := rfl
  records := by
    intro node member other present same
    rw [List.inj_on_of_nodup_map draft.valid.stageIds_nodup member present same]

theorem JustifiedAlike.refl (draft : CompositionCandidateDraft) : JustifiedAlike draft draft := by
  intro node member other present same
  rw [List.inj_on_of_nodup_map draft.valid.stageIds_nodup member present same]

theorem unites_of_merge (same : left.kind = right.kind) (told : HandoffsTold left)
    (made : mergeDuplicateDrafts digest left right = .ok merged) : Unites left right merged := by
  obtain ⟨_, kind, origin, content⟩ := (joins_mergeDuplicateDrafts digest).spec told
    (handoffsTold_of_kind same told) same made
  exact ⟨same, kind, origin, content⟩

theorem Uncollided.tells (uncollided : Uncollided digest left right third)
    {one other : CompositionCandidateDraft} (oneIn : one ∈ concerned digest left right third)
    (otherIn : other ∈ concerned digest left right third) :
    digest.Tells (signaturePayload one.toDraftFields) (signaturePayload other.toDraftFields) :=
  uncollided.signatures _ (List.mem_map_of_mem oneIn) _ (List.mem_map_of_mem otherIn)

theorem Uncollided.tellsIds (uncollided : Uncollided digest left right third)
    {one other : CompositionCandidateDraft} (oneIn : one ∈ concerned digest left right third)
    (otherIn : other ∈ concerned digest left right third) :
    TellsIds digest one.toDraftFields other.toDraftFields :=
  fun _ given _ otherGiven => uncollided.compositionIds
    _ (List.mem_filterMap.mpr ⟨one, oneIn, given⟩)
    _ (List.mem_filterMap.mpr ⟨other, otherIn, otherGiven⟩)

theorem mem_concerned_of_merge (made : mergeDuplicateDrafts digest left right = .ok merged) :
    merged ∈ concerned digest left right third := by
  rw [concerned, made]
  exact List.mem_append_right _ List.mem_cons_self

/-- Merging semantic duplicates is a semilattice join exactly where no two handoffs differ in their
evidence alone, the drafts are for one request, and stages of drafts that pass are justified
alike. -/
theorem mergesAsJoin_iff (uncollided : Uncollided digest left right third)
    (duplicates : Duplicates digest left right) (later : Duplicates digest right third) :
    MergesAsJoin digest left right third ↔ Mergeable digest left right := by
  have joins := joins_mergeDuplicateDrafts digest
  have leftIn : left ∈ concerned digest left right third := by simp [concerned]
  have rightIn : right ∈ concerned digest left right third := by simp [concerned]
  have thirdIn : third ∈ concerned digest left right third := by simp [concerned]
  have same := duplicates.kind_eq (uncollided.tells leftIn rightIn)
  have sameThird := later.kind_eq (uncollided.tells rightIn thirdIn)
  constructor
  · intro laws
    have told := handoffsTold_of_merge laws.absorbs
    have rightTold := handoffsTold_of_kind same told
    refine ⟨told, (joins.comm_iff told rightTold same).mp laws.commutes, ?_⟩
    intro context leftPass rightPass
    obtain ⟨merged, made, _⟩ := laws.commutes
    have mergedPass := laws.passes merged context made leftPass rightPass
    have mergedIn := @mem_concerned_of_merge digest left right third merged made
    exact (unites_of_merge same told made).justifiedAlike (uncollided.tellsIds mergedIn leftIn)
      (uncollided.tellsIds mergedIn rightIn) (validate_pass_iff.mp leftPass)
      (validate_pass_iff.mp rightPass) (validate_pass_iff.mp mergedPass)
  · intro mergeable
    have told := mergeable.told
    have rightTold := handoffsTold_of_kind same told
    have thirdTold := handoffsTold_of_kind sameThird rightTold
    refine
      { commutes := (joins.comm_iff told rightTold same).mpr mergeable.origin
        associates := joins.assoc told rightTold thirdTold same sameThird
        absorbs := joins.idem told
        preserves := ?_
        passes := ?_ }
    · intro merged made
      have unites := unites_of_merge same told made
      have signature : semanticCandidateSignature digest merged =
          semanticCandidateSignature digest left := by
        rw [semanticCandidateSignature, semanticCandidateSignature,
          signaturePayload_of_kind unites.kind]
      refine ⟨signature, DraftFields.compositionId_of_kind unites.kind, ?_, ?_⟩
      · rw [unites.content]
        exact Set.subset_union_left
      · rw [unites.content]
        exact Set.subset_union_right
    · intro merged context made leftPass rightPass
      have alike := mergeable.justified context leftPass rightPass
      rw [validate_pass_iff] at leftPass rightPass ⊢
      exact (unites_of_merge same told made).validationIssues
        (uncollided.tellsIds leftIn rightIn) alike leftPass rightPass

/-! ## A verified answer -/

theorem primary_nonblank : Text.Nonblank "primary" := Text.nonblank_literal rfl

theorem verifier_nonblank : Text.Nonblank "verifier" := Text.nonblank_literal rfl

theorem answer_nonblank : Text.Nonblank "answer" := Text.nonblank_literal rfl

theorem textModality_ne_nil : ([.text] : List ModelModality) ≠ [] := List.cons_ne_nil _ _

theorem patternNoted_nonblank : ∀ text ∈ (noted "certified pattern").items, Text.Nonblank text :=
  noted_nonblank (Text.nonblank_literal rfl)

/-- The artifact that the stages exchange. -/
def answerArtifact : CompositionArtifactContract where
  artifactId := "answer"
  modalities := .of ModelModality.value [.text] textModality_ne_nil
  evidence := noted "certified pattern"
  artifactId_nonblank := answer_nonblank
  evidence_nonblank := patternNoted_nonblank

theorem noModalities_canonical :
    ∀ modalities ∈ ([[], []] : List (List ModelModality)),
      canonical ModelModality.value modalities = modalities := by
  simp [canonical, sortOn]

theorem noReasoning_canonical : canonical ReasoningCapability.value [] = [] := rfl

theorem noMinimums_positive :
    ∀ minimum : Int, (none : Option Int) = some minimum ∨ (none : Option Int) = some minimum →
      0 < minimum := by
  simp

/-- Requirements that every record meets. -/
def noRequirements : ModelCapabilityRequirements where
  evidence := noted "certified pattern"
  modalities_canonical := noModalities_canonical
  reasoning_canonical := noReasoning_canonical
  minimums_positive := noMinimums_positive
  evidence_nonblank := patternNoted_nonblank

theorem answerJustification_nonblank :
    ∀ text ∈ ["answer", "output_modalities", "text", "declared"], Text.Nonblank text := by decide

/-- Why the stages meet their requirement. -/
def answerJustification : CapabilityJustification :=
  ⟨"answer", "output_modalities", "text", "declared", answerJustification_nonblank⟩

theorem answerProvenance_nonblank :
    ∀ text ∈ ["phase5", "pattern-primary-verifier-v1", "certified pattern"],
      Text.Nonblank text := by
  decide

/-- Where the draft and its stages come from. -/
def answerProvenance : CompositionProvenanceReference :=
  ⟨"phase5", "pattern-primary-verifier-v1", "certified pattern", answerProvenance_nonblank⟩

/-- A stage of the draft. -/
def answerStage (stageId : String) (role : CompositionRole) (visible : Text.Nonblank stageId) :
    CompositionNode where
  stageId := stageId
  role := role
  modelRecord := capableRecord
  requirements := noRequirements
  inputArtifacts := .single answerArtifact
  outputArtifacts := .single answerArtifact
  justifications := .of CapabilityJustification.key [answerJustification] (List.cons_ne_nil _ _)
  provenance := .of CompositionProvenanceReference.key [answerProvenance] (List.cons_ne_nil _ _)
  stageId_nonblank := visible

theorem answerEdge_nonblank : ∀ text ∈ ["primary", "verifier", "answer"], Text.Nonblank text := by
  decide

/-- The answer is handed to the verifier, on some evidence. -/
def answerEdge (text : String) (visible : Text.Nonblank text) : CompositionEdge where
  sourceStageId := "primary"
  targetStageId := "verifier"
  dependencyType := .data
  artifactId := "answer"
  evidence := noted text
  identities_nonblank := answerEdge_nonblank
  evidence_nonblank := noted_nonblank visible

/-- The fields of a draft with the given handoffs. -/
def answerFields (edges : List CompositionEdge) : DraftFields where
  compositionId := "sha256:0123456789abcdef0123456789abcdef0123456789abcdef0123456789abcdef"
  requestId := "request"
  workloadId := "workload"
  sessionId := "session"
  graphId := "graph"
  patternId := "pattern-primary-verifier-v1"
  topology := .primaryVerifier
  nodes := [answerStage "primary" .primary primary_nonblank,
    answerStage "verifier" .verifier verifier_nonblank]
  edges := edges
  satisfiedRequirementIds := ["answer"]
  provenance := [answerProvenance]

theorem pattern_nonblank : Text.Nonblank "certified pattern" := Text.nonblank_literal rfl

theorem review_nonblank : Text.Nonblank "manual review" := Text.nonblank_literal rfl

theorem check_verified :
    (answerFields [answerEdge "certified pattern" pattern_nonblank]).check = .ok () := by rfl

/-- A draft with one handoff. -/
def verifiedDraft : CompositionCandidateDraft :=
  ⟨(answerFields [answerEdge "certified pattern" pattern_nonblank]).normalized,
    DraftFields.check_eq_ok_iff.mp check_verified⟩

theorem check_reviewed :
    (answerFields [answerEdge "manual review" review_nonblank]).check = .ok () := by rfl

/-- The draft with other evidence for its handoff. -/
def reviewedDraft : CompositionCandidateDraft :=
  ⟨(answerFields [answerEdge "manual review" review_nonblank]).normalized,
    DraftFields.check_eq_ok_iff.mp check_reviewed⟩

theorem kind_reviewed : verifiedDraft.kind = reviewedDraft.kind := rfl

theorem duplicates_reviewed (digest : Digest) : Duplicates digest verifiedDraft reviewedDraft where
  signature := by
    rw [semanticCandidateSignature, semanticCandidateSignature,
      signaturePayload_of_kind kind_reviewed]
  compositionId := rfl
  records := (Duplicates.refl digest verifiedDraft).records

theorem duplicates_verified (digest : Digest) : Duplicates digest reviewedDraft verifiedDraft where
  signature := (duplicates_reviewed digest).signature.symm
  compositionId := rfl
  records := (Duplicates.refl digest verifiedDraft).records

theorem told_verified : HandoffsTold verifiedDraft := List.nodup_singleton _

/-- All that merging the two drafts is about has one signature and one content. -/
theorem uncollided_reviewed (digest : Digest) :
    Uncollided digest verifiedDraft reviewedDraft verifiedDraft := by
  have united {draft : CompositionCandidateDraft}
      (member : draft ∈ concerned digest verifiedDraft reviewedDraft verifiedDraft) :
      draft.kind = verifiedDraft.kind ∧ compositionPayload draft.toDraftFields =
        compositionPayload verifiedDraft.toDraftFields := by
    simp only [concerned, List.mem_append, List.mem_cons, List.not_mem_nil, or_false,
      Option.mem_toList, Except.toOption] at member
    rcases member with (rfl | rfl | rfl) | made
    · exact ⟨rfl, rfl⟩
    · exact ⟨rfl, rfl⟩
    · exact ⟨rfl, rfl⟩
    · cases outcome : mergeDuplicateDrafts digest verifiedDraft reviewedDraft with
      | error _ => simp [outcome] at made
      | ok merged =>
          obtain rfl : merged = draft := by simpa [outcome] using made
          have unites := unites_of_merge kind_reviewed told_verified outcome
          exact ⟨unites.kind, unites.compositionPayload_eq rfl⟩
  constructor
  case signatures =>
    have alike : ∀ payload ∈ (concerned digest verifiedDraft reviewedDraft verifiedDraft).map
        fun draft => signaturePayload draft.toDraftFields,
        payload.dumps = (signaturePayload verifiedDraft.toDraftFields).dumps := by
      intro payload inside
      obtain ⟨draft, member, rfl⟩ := List.mem_map.mp inside
      exact congrArg Json.dumps (signaturePayload_of_kind (united member).1)
    exact Digest.collisionFreeOn_of_dumps_eq alike
  case compositionIds =>
    intro left leftIn right rightIn _
    obtain ⟨draft, member, given⟩ := List.mem_filterMap.mp leftIn
    obtain ⟨other, otherMember, otherGiven⟩ := List.mem_filterMap.mp rightIn
    rw [(united member).2] at given
    rw [(united otherMember).2, given] at otherGiven
    rw [Option.some_inj.mp otherGiven]

/-- The draft and its duplicate merge as a join. -/
theorem reviewedDraft_merges :
    MergesAsJoin Digest.sha256 verifiedDraft reviewedDraft verifiedDraft :=
  (mergesAsJoin_iff (uncollided_reviewed _) (duplicates_reviewed _) (duplicates_verified _)).mpr
    { told := told_verified
      origin := rfl
      justified := fun _ _ _ => .refl verifiedDraft }

theorem check_doubled : (answerFields [answerEdge "certified pattern" pattern_nonblank,
    answerEdge "manual review" review_nonblank]).check = .ok () := by rfl

/-- A draft that hands the same answer over twice, on different evidence. -/
def doubledDraft : CompositionCandidateDraft :=
  ⟨(answerFields [answerEdge "certified pattern" pattern_nonblank,
    answerEdge "manual review" review_nonblank]).normalized,
    DraftFields.check_eq_ok_iff.mp check_doubled⟩

/-- Merged with itself, a draft with two handoffs of one artifact loses one of them. -/
theorem doubledDraft_not_absorbed : Duplicates Digest.sha256 doubledDraft doubledDraft ∧
    ¬ MergesAsJoin Digest.sha256 doubledDraft doubledDraft doubledDraft := by
  refine ⟨.refl _ _, fun laws => ?_⟩
  have told := handoffsTold_of_merge laws.absorbs
  have repeated : ¬ (doubledDraft.edges.map CompositionEdge.semanticKey).Nodup := by decide
  exact repeated told

end Composition
end MercuryX
