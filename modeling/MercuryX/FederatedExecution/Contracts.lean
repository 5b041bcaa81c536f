import MercuryX.Contracts

/-!
# Federation contracts

The identity that a placement is planned for, the capability of the domain that it is planned in,
and the decision. Artifacts are sealed: their fingerprint covers their content.
-/

namespace MercuryX
namespace FederatedExecution

open Foundation

/-! ## Domain classes -/

/-- The class of a domain. -/
inductive DomainClass where
  | edge
  | region
  | cloud
  deriving DecidableEq, Repr

namespace DomainClass

/-- The text of a domain class. -/
def value : DomainClass → String
  | edge => "EDGE"
  | region => "REGION"
  | cloud => "CLOUD"

/-- The domain class of a text. -/
def ofText? (text : String) : Option DomainClass :=
  [edge, region, cloud].find? fun domainClass => domainClass.value = text

/-- The domain class of a text, or an error. -/
def ofText (text : String) : Except Fault DomainClass :=
  (ofText? text).elim (.error (.value s!"'{text}' is not a valid DomainClass")) .ok

@[simp] theorem ofText?_value (domainClass : DomainClass) :
    ofText? domainClass.value = some domainClass := by
  cases domainClass <;> rfl

@[simp] theorem ofText_eq_ok {text : String} {domainClass : DomainClass} :
    ofText text = .ok domainClass ↔ ofText? text = some domainClass := by
  rw [ofText]
  cases ofText? text <;> simp

end DomainClass

variable (digest : Digest)

/-! ## Identities -/

/-- The content of an identity. -/
structure IdentityFields where
  identityId : String
  domainId : String
  domainClass : DomainClass
  generation : Int
  authorizationContextId : String
  authorizationGeneration : Int
  provenanceIds : List String

namespace IdentityFields

/-- The fingerprint of an identity. -/
def expectedFingerprint (fields : IdentityFields) : String :=
  digest.hexdigest (.obj [("identity_id", .str fields.identityId),
    ("domain_id", .str fields.domainId), ("domain_class", .str fields.domainClass.value),
    ("generation", .int fields.generation),
    ("authorization_context_id", .str fields.authorizationContextId),
    ("authorization_generation", .int fields.authorizationGeneration),
    ("provenance_ids", Json.strs fields.provenanceIds)])

/-- Identity texts are nonblank, and generations are not negative. -/
def Valid (fields : IdentityFields) : Prop :=
  (∀ text ∈ [fields.identityId, fields.domainId, fields.authorizationContextId],
    Text.Nonblank text) ∧ 0 ≤ fields.generation ∧ 0 ≤ fields.authorizationGeneration

/-- The checks of an identity. -/
def validate (fields : IdentityFields) : Except Fault Unit := do
  let contract := "FederationIdentity"
  let blank := "identity fields must be non-blank"
  rule contract "identity_id" (Text.Nonblank fields.identityId) blank
  rule contract "domain_id" (Text.Nonblank fields.domainId) blank
  fieldGe contract "generation" 0 fields.generation
  rule contract "authorization_context_id" (Text.Nonblank fields.authorizationContextId) blank
  fieldGe contract "authorization_generation" 0 fields.authorizationGeneration

theorem validate_eq_ok_iff {fields : IdentityFields} {done : Unit} :
    fields.validate = .ok done ↔ fields.Valid := by
  simp only [validate, Valid, bind_eq_ok, rule_eq_ok, fieldGe_eq_ok, exists_const,
    List.forall_mem_cons, List.not_mem_nil, false_implies, implies_true, and_true]
  constructor
  · rintro ⟨identity, domain, generation, context, authorization⟩
    exact ⟨⟨identity, domain, context⟩, generation, authorization⟩
  · rintro ⟨⟨identity, domain, context⟩, generation, authorization⟩
    exact ⟨identity, domain, generation, context, authorization⟩

end IdentityFields

/-- Who a placement is planned for. -/
structure FederationIdentity extends IdentityFields where
  fingerprint : String
  /-- The content is valid. -/
  valid : toIdentityFields.Valid
  /-- The fingerprint covers the content. -/
  fingerprint_verified : fingerprint = toIdentityFields.expectedFingerprint digest

/-- Construct an identity, and seal it. -/
def FederationIdentity.construct (fields : IdentityFields) :
    Except Fault (FederationIdentity digest) :=
  match checked : fields.validate with
  | .error fault => .error fault
  | .ok _ => .ok ⟨fields, fields.expectedFingerprint digest,
      IdentityFields.validate_eq_ok_iff.mp checked, rfl⟩

/-! ## Capabilities -/

/-- The content of a capability. -/
structure CapabilityFields where
  capabilityId : String
  domainId : String
  domainClass : DomainClass
  generation : Int
  residencyAllowed : Bool
  supportsModel : Bool
  supportsPrecision : Bool
  capacityAvailable : Bool
  latencyMs : Int
  qualityPreserving : Bool
  authorizationContextId : String
  authorizationGeneration : Int
  provenanceIds : List String

namespace CapabilityFields

/-- The fingerprint of a capability. -/
def expectedFingerprint (fields : CapabilityFields) : String :=
  digest.hexdigest (.obj [("capability_id", .str fields.capabilityId),
    ("domain_id", .str fields.domainId), ("domain_class", .str fields.domainClass.value),
    ("generation", .int fields.generation), ("residency_allowed", .bool fields.residencyAllowed),
    ("supports_model", .bool fields.supportsModel),
    ("supports_precision", .bool fields.supportsPrecision),
    ("capacity_available", .bool fields.capacityAvailable),
    ("latency_ms", .int fields.latencyMs),
    ("quality_preserving", .bool fields.qualityPreserving),
    ("authorization_context_id", .str fields.authorizationContextId),
    ("authorization_generation", .int fields.authorizationGeneration),
    ("provenance_ids", Json.strs fields.provenanceIds)])

/-- Generations and latency are not negative. -/
def Valid (fields : CapabilityFields) : Prop :=
  0 ≤ fields.generation ∧ 0 ≤ fields.latencyMs ∧ 0 ≤ fields.authorizationGeneration

/-- The checks of a capability. -/
def validate (fields : CapabilityFields) : Except Fault Unit := do
  let contract := "FederationCapability"
  fieldGe contract "generation" 0 fields.generation
  fieldGe contract "latency_ms" 0 fields.latencyMs
  fieldGe contract "authorization_generation" 0 fields.authorizationGeneration

theorem validate_eq_ok_iff {fields : CapabilityFields} {done : Unit} :
    fields.validate = .ok done ↔ fields.Valid := by
  simp [validate, Valid]

end CapabilityFields

/-- What a domain can do, and under which authorization. -/
structure FederationCapability extends CapabilityFields where
  fingerprint : String
  /-- The content is valid. -/
  valid : toCapabilityFields.Valid
  /-- The fingerprint covers the content. -/
  fingerprint_verified : fingerprint = toCapabilityFields.expectedFingerprint digest

/-- Construct a capability, and seal it. -/
def FederationCapability.construct (fields : CapabilityFields) :
    Except Fault (FederationCapability digest) :=
  match checked : fields.validate with
  | .error fault => .error fault
  | .ok _ => .ok ⟨fields, fields.expectedFingerprint digest,
      CapabilityFields.validate_eq_ok_iff.mp checked, rfl⟩

/-! ## Decisions -/

/-- The content of a decision. -/
structure DecisionFields where
  decisionId : String
  workloadId : String
  destinationDomainId : String
  destinationDomainClass : DomainClass
  residencyOk : Bool
  authPreserved : Bool
  qualityPreserved : Bool
  generation : Int
  evidenceIds : List String := []

/-- The fingerprint of a decision. -/
def DecisionFields.expectedFingerprint (fields : DecisionFields) : String :=
  digest.hexdigest (.obj [("decision_id", .str fields.decisionId),
    ("workload_id", .str fields.workloadId),
    ("destination_domain_id", .str fields.destinationDomainId),
    ("destination_domain_class", .str fields.destinationDomainClass.value),
    ("residency_ok", .bool fields.residencyOk), ("auth_preserved", .bool fields.authPreserved),
    ("quality_preserved", .bool fields.qualityPreserved), ("generation", .int fields.generation),
    ("evidence_ids", Json.strs fields.evidenceIds)])

/-- Where a workload is placed. -/
structure FederatedPlacementDecision extends DecisionFields where
  fingerprint : String
  /-- Generations are not negative. -/
  generation_nonneg : 0 ≤ generation
  /-- The fingerprint covers the content. -/
  fingerprint_verified : fingerprint = toDecisionFields.expectedFingerprint digest

/-- Construct a decision, and seal it. -/
def FederatedPlacementDecision.construct (fields : DecisionFields) :
    Except Fault (FederatedPlacementDecision digest) :=
  match checked : fieldGe "FederatedPlacementDecision" "generation" 0 fields.generation with
  | .error fault => .error fault
  | .ok _ => .ok ⟨fields, fields.expectedFingerprint digest, fieldGe_eq_ok.mp checked, rfl⟩

/-- Whether a decision keeps residency, authorization and quality. -/
def validateFederatedPlacement (decision : DecisionFields) : Bool :=
  decision.residencyOk && decision.authPreserved && decision.qualityPreserved

variable {digest}

theorem FederatedPlacementDecision.construct_eq_ok_iff {fields : DecisionFields}
    {decision : FederatedPlacementDecision digest} :
    FederatedPlacementDecision.construct digest fields = .ok decision ↔
      0 ≤ fields.generation ∧ decision.toDecisionFields = fields := by
  unfold FederatedPlacementDecision.construct
  split
  next fault checked =>
    refine iff_of_false (by simp) ?_
    rintro ⟨nonneg, _⟩
    have passed : fieldGe "FederatedPlacementDecision" "generation" 0 fields.generation = .ok () :=
      fieldGe_eq_ok.mpr nonneg
    rw [passed] at checked
    nomatch checked
  next checked =>
    have nonneg := fieldGe_eq_ok.mp checked
    obtain ⟨content, fingerprint, contentNonneg, rfl⟩ := decision
    constructor
    · intro same
      obtain ⟨rfl, _⟩ := FederatedPlacementDecision.mk.inj (Except.ok.inj same)
      exact ⟨nonneg, rfl⟩
    · rintro ⟨_, rfl⟩
      rfl

end FederatedExecution
end MercuryX
