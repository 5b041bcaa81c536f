import MercuryX.Contracts

/-!
# Negotiation contracts

Offers, approvals and agreements are content-addressed: each carries the digest of its terms as its
fingerprint, and an identity derived from that fingerprint. The validators verify both again.
-/

namespace MercuryX
namespace ComputeNegotiator

open Foundation

variable (digest : Digest)

/-- The constraints that no offer may give up or change. -/
def allProtectedConstraints : List String :=
  ["quality", "verification", "safety", "privacy", "authorization", "residency"]

/-- The check that a text of a contract is nonblank. -/
def text (contract name value : String) : Except Fault Unit :=
  rule contract "" (Text.Nonblank value) s!"{name} must be nonblank"

@[simp] theorem text_eq_ok {contract name value : String} {done : Unit} :
    text contract name value = .ok done ↔ Text.Nonblank value := by
  simp [text]

/-! ## Offers -/

/-- The fields of an offer. -/
structure OfferFields where
  offerId : String
  requestId : String
  requestedQualityFloor : ℚ
  proposedQualityFloor : ℚ
  proposedLatencyMs : Int
  proposedResourceUnits : ℚ
  placementCandidateIds : List String
  speculationWidth : Int
  protectedConstraints : List String
  changedSoftConstraints : List String := []
  resourceSnapshotGeneration : Int
  leaseUntilGeneration : Int
  reasonCodes : List String := []
  fingerprint : String
  deriving DecidableEq

namespace OfferFields

/-- The terms that the fingerprint of an offer covers. -/
def payload (offer : OfferFields) : Json := .obj [
  ("request_id", .str offer.requestId), ("q", .float offer.proposedQualityFloor),
  ("requested_q", .float offer.requestedQualityFloor), ("latency", .int offer.proposedLatencyMs),
  ("resource", .float offer.proposedResourceUnits),
  ("placements", Json.strs offer.placementCandidateIds), ("spec", .int offer.speculationWidth),
  ("protected", Json.strs offer.protectedConstraints),
  ("changes", Json.strs offer.changedSoftConstraints),
  ("snapshot", .int offer.resourceSnapshotGeneration), ("lease", .int offer.leaseUntilGeneration)]

/-- The constraints on an offer. -/
def validate (offer : OfferFields) : Except Fault Unit := do
  let contract := "ComputeOffer"
  fieldGe contract "proposed_latency_ms" 1 offer.proposedLatencyMs
  fieldPositive contract "proposed_resource_units" offer.proposedResourceUnits
  fieldGe contract "speculation_width" 1 offer.speculationWidth
  fieldGe contract "resource_snapshot_generation" 1 offer.resourceSnapshotGeneration
  fieldGe contract "lease_until_generation" 1 offer.leaseUntilGeneration
  rule contract "" (offer.requestedQualityFloor ≤ offer.proposedQualityFloor)
    "quality reduction forbidden"
  rule contract "" (offer.resourceSnapshotGeneration ≤ offer.leaseUntilGeneration)
    "invalid offer lease"
  forEach (fun field => text contract field.1 field.2) [("offer_id", offer.offerId),
    ("request_id", offer.requestId), ("fingerprint", offer.fingerprint)]
  rule contract "" (∀ constraint ∈ allProtectedConstraints, constraint ∈ offer.protectedConstraints)
    "all protected constraints must be preserved"
  rule contract "" (∀ constraint ∈ allProtectedConstraints,
    constraint ∉ offer.changedSoftConstraints) "protected constraint change forbidden"
  rule contract "" (Addressed digest "offer" offer.payload offer.offerId offer.fingerprint)
    "offer fingerprint mismatch"

/-- What the validation of an offer establishes. -/
structure Valid (offer : OfferFields) : Prop where
  /-- The latency is positive. -/
  latency_pos : 1 ≤ offer.proposedLatencyMs
  /-- Some resources are proposed. -/
  resources_pos : 0 < offer.proposedResourceUnits
  /-- There is a branch to run. -/
  speculation_pos : 1 ≤ offer.speculationWidth
  /-- Generations start at one. -/
  generations_pos : 1 ≤ offer.resourceSnapshotGeneration ∧ 1 ≤ offer.leaseUntilGeneration
  /-- The offer meets the requested quality. -/
  quality_kept : offer.requestedQualityFloor ≤ offer.proposedQualityFloor
  /-- The lease does not end before the snapshot. -/
  lease_valid : offer.resourceSnapshotGeneration ≤ offer.leaseUntilGeneration
  /-- Identity fields are nonblank. -/
  texts_nonblank : ∀ value ∈ [offer.offerId, offer.requestId, offer.fingerprint],
    Text.Nonblank value
  /-- Every protected constraint is preserved. -/
  protected_kept : ∀ constraint ∈ allProtectedConstraints, constraint ∈ offer.protectedConstraints
  /-- No protected constraint is changed. -/
  protected_unchanged : ∀ constraint ∈ allProtectedConstraints,
    constraint ∉ offer.changedSoftConstraints
  /-- The offer is content-addressed. -/
  addressed : Addressed digest "offer" offer.payload offer.offerId offer.fingerprint

variable {digest}

theorem validate_eq_ok_iff {offer : OfferFields} {done : Unit} :
    offer.validate digest = .ok done ↔ offer.Valid digest := by
  simp only [validate, bind_eq_ok, fieldGe_eq_ok, fieldPositive_eq_ok, rule_eq_ok, forEach_eq_ok,
    text_eq_ok, exists_const]
  constructor
  · rintro ⟨latency, resources, speculation, snapshot, lease, quality, order, texts, kept,
      unchanged, addressed⟩
    exact ⟨latency, resources, speculation, ⟨snapshot, lease⟩, quality, order,
      by simpa using texts, kept, unchanged, addressed⟩
  · rintro ⟨latency, resources, speculation, ⟨snapshot, lease⟩, quality, order, texts, kept,
      unchanged, addressed⟩
    exact ⟨latency, resources, speculation, snapshot, lease, quality, order,
      by simpa using texts, kept, unchanged, addressed⟩

end OfferFields

/-- A validated offer. -/
structure ComputeOffer extends OfferFields where
  /-- The offer passed its validator. -/
  valid : toOfferFields.Valid digest

/-! ## Approvals -/

/-- The fields of an approval. -/
structure ApprovalFields where
  approvalId : String
  offerId : String
  approverAuthorityRef : String
  acceptedChangedConstraints : List String
  approvalGeneration : Int
  fingerprint : String
  deriving DecidableEq

namespace ApprovalFields

/-- The terms that the fingerprint of an approval covers. -/
def body (approval : ApprovalFields) : Json := .obj [
  ("offer", .str approval.offerId), ("authority", .str approval.approverAuthorityRef),
  ("changes", Json.strs approval.acceptedChangedConstraints),
  ("generation", .int approval.approvalGeneration)]

/-- The constraints on an approval. -/
def validate (approval : ApprovalFields) : Except Fault Unit := do
  let contract := "ApprovalArtifact"
  fieldGe contract "approval_generation" 1 approval.approvalGeneration
  forEach (fun field => text contract field.1 field.2) [("approval_id", approval.approvalId),
    ("offer_id", approval.offerId), ("approver_authority_ref", approval.approverAuthorityRef),
    ("fingerprint", approval.fingerprint)]
  rule contract "" (Addressed digest "approval" approval.body approval.approvalId
    approval.fingerprint) "approval fingerprint mismatch"

/-- What the validation of an approval establishes. -/
structure Valid (approval : ApprovalFields) : Prop where
  /-- Generations start at one. -/
  generation_pos : 1 ≤ approval.approvalGeneration
  /-- Identity fields are nonblank. -/
  texts_nonblank : ∀ value ∈ [approval.approvalId, approval.offerId, approval.approverAuthorityRef,
    approval.fingerprint], Text.Nonblank value
  /-- The approval is content-addressed. -/
  addressed : Addressed digest "approval" approval.body approval.approvalId approval.fingerprint

variable {digest}

theorem validate_eq_ok_iff {approval : ApprovalFields} {done : Unit} :
    approval.validate digest = .ok done ↔ approval.Valid digest := by
  simp only [validate, bind_eq_ok, fieldGe_eq_ok, rule_eq_ok, forEach_eq_ok, text_eq_ok,
    exists_const]
  constructor
  · rintro ⟨generation, texts, addressed⟩
    exact ⟨generation, by simpa using texts, addressed⟩
  · rintro ⟨generation, texts, addressed⟩
    exact ⟨generation, by simpa using texts, addressed⟩

end ApprovalFields

/-- A validated approval. -/
structure ApprovalArtifact extends ApprovalFields where
  /-- The approval passed its validator. -/
  valid : toApprovalFields.Valid digest

/-! ## Agreements -/

/-- The fields of an agreement. -/
structure AgreementFields where
  agreementId : String
  offerId : String
  approvalId : Option String := none
  resourceSnapshotGeneration : Int
  committed : Bool
  fingerprint : String
  deriving DecidableEq

namespace AgreementFields

/-- The terms that the fingerprint of an agreement covers. -/
def body (agreement : AgreementFields) : Json := .obj [
  ("offer", .str agreement.offerId), ("approval", Json.optStr agreement.approvalId),
  ("snapshot", .int agreement.resourceSnapshotGeneration)]

/-- What the validation of an agreement establishes: it is committed and content-addressed. -/
def Valid (agreement : AgreementFields) : Prop :=
  agreement.committed = true ∧
    Addressed digest "agreement" agreement.body agreement.agreementId agreement.fingerprint

instance (agreement : AgreementFields) : Decidable (agreement.Valid digest) :=
  inferInstanceAs (Decidable (_ ∧ _))

end AgreementFields

/-- A validated agreement. -/
structure ComputeAgreement extends AgreementFields where
  /-- The agreement passed its validator. -/
  valid : toAgreementFields.Valid digest

namespace ComputeAgreement

/-- Validate the fields of an agreement. -/
def construct (fields : AgreementFields) : Except Fault (ComputeAgreement digest) :=
  if valid : fields.Valid digest then .ok ⟨fields, valid⟩
  else .error (.validation "ComputeAgreement" "" "Value error, agreement fingerprint mismatch")

variable {digest}

theorem construct_eq_ok_iff {fields : AgreementFields} {agreement : ComputeAgreement digest} :
    construct digest fields = .ok agreement ↔ agreement.toAgreementFields = fields := by
  obtain ⟨given, valid⟩ := agreement
  unfold construct
  constructor
  · intro constructed
    split at constructed
    · exact congrArg ComputeAgreement.toAgreementFields (Except.ok.inj constructed).symm
    · nomatch constructed
  · rintro rfl
    exact dif_pos valid

end ComputeAgreement
end ComputeNegotiator
end MercuryX
