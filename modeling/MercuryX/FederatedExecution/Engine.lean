import MercuryX.FederatedExecution.Contracts

/-!
# Federated placement

The planner turns an identity, a capability and the arguments of the call into a decision. It reads
residency, authorization and quality from the arguments of the call alone, never from the
capability that it is given, and it takes the destination from the arguments where they name one.
-/

namespace MercuryX
namespace FederatedExecution

open Foundation

/-! ## Arguments -/

/-- A text that counts as given. -/
def truthy (text : Option String) : Option String := text.filter fun given => given ≠ ""

/-- An integer that counts as given. -/
def truthyInt (value : Option Int) : Option Int := value.filter fun given => given ≠ 0

/-- Texts, or others where there are none. -/
def textsOr (texts others : List String) : List String := if texts = [] then others else texts

/-- The identity that a call supplies: none, its text, or the identity itself. -/
inductive IdentityArgument (digest : Digest) where
  | absent
  | text (identityId : String)
  | object (identity : FederationIdentity digest)

/-- The keyword arguments of a call. Domain classes are given by their texts. -/
structure PlanArguments where
  identityId : Option String := none
  domainId : Option String := none
  domainClass : Option String := none
  generation : Option Int := none
  authorizationContextId : Option String := none
  authorizationGeneration : Option Int := none
  capabilityId : Option String := none
  destinationDomainId : Option String := none
  destinationDomainClass : Option String := none
  destinationClass : Option String := none
  workloadId : Option String := none
  residencyOk : Bool := true
  authPreserved : Bool := true
  qualityPreserved : Bool := true
  provenanceIds : List String := []

variable (digest : Digest)

/-- The identity with an id that the arguments describe. -/
def describedIdentity (identityId : String) (arguments : PlanArguments) :
    Except Fault (FederationIdentity digest) := do
  let domainClass ←
    DomainClass.ofText ((truthy arguments.domainClass).getD DomainClass.edge.value)
  FederationIdentity.construct digest
    { identityId := identityId
      domainId :=
        (truthy arguments.domainId <|> truthy arguments.destinationDomainId).getD "local"
      domainClass := domainClass
      generation := (truthyInt arguments.generation).getD 0
      authorizationContextId := (truthy arguments.authorizationContextId).getD "default-auth"
      authorizationGeneration := (truthyInt arguments.authorizationGeneration).getD 0
      provenanceIds := textsOr arguments.provenanceIds ["default"] }

/-- The identity that a call plans for. -/
def identityOf (identity : IdentityArgument digest) (arguments : PlanArguments) :
    Except Fault (FederationIdentity digest) :=
  match identity with
  | .absent => describedIdentity digest
      ((truthy arguments.identityId).getD "default-identity") arguments
  | .text identityId => describedIdentity digest identityId arguments
  | .object identity => .ok identity

variable {digest}

/-- The class of the destination that the arguments name, or another class. -/
def destinationClassOr (arguments : PlanArguments) (other : DomainClass) :
    Except Fault DomainClass :=
  DomainClass.ofText ((truthy arguments.destinationClass <|>
    truthy arguments.destinationDomainClass).getD other.value)

/-- The generation that the arguments give, or that of the identity. -/
def effectiveGeneration (identity : FederationIdentity digest) (arguments : PlanArguments) : Int :=
  (truthyInt arguments.generation).getD identity.generation

/-- The capability that a call plans with. -/
def capabilityOf (identity : FederationIdentity digest)
    (capability : Option (FederationCapability digest)) (arguments : PlanArguments) :
    Except Fault (FederationCapability digest) :=
  match capability with
  | some capability => .ok capability
  | none => do
      let domainClass ← destinationClassOr arguments .cloud
      FederationCapability.construct digest
        { capabilityId := (truthy arguments.capabilityId).getD "default-capability"
          domainId := (truthy arguments.destinationDomainId).getD identity.domainId
          domainClass := domainClass
          generation := effectiveGeneration identity arguments
          residencyAllowed := arguments.residencyOk
          supportsModel := true
          supportsPrecision := true
          capacityAvailable := true
          latencyMs := 25
          qualityPreserving := arguments.qualityPreserved
          authorizationContextId := identity.authorizationContextId
          authorizationGeneration := identity.authorizationGeneration
          provenanceIds := textsOr arguments.provenanceIds ["default"] }

/-- The content of the decision of a call. -/
def decisionFields (identity : FederationIdentity digest) (capability : FederationCapability digest)
    (destinationDomainClass : DomainClass) (arguments : PlanArguments) : DecisionFields :=
  let workloadId := (truthy arguments.workloadId).getD identity.identityId
  let generation := effectiveGeneration identity arguments
  { decisionId := s!"fed-placement:{workloadId}:{generation}"
    workloadId := workloadId
    destinationDomainId := (truthy arguments.destinationDomainId).getD capability.domainId
    destinationDomainClass := destinationDomainClass
    residencyOk := arguments.residencyOk
    authPreserved := arguments.authPreserved
    qualityPreserved := arguments.qualityPreserved
    generation := generation
    evidenceIds := textsOr arguments.provenanceIds capability.provenanceIds }

/-- Plan a placement. -/
def plan (identity : IdentityArgument digest) (capability : Option (FederationCapability digest))
    (arguments : PlanArguments) : Except Fault (FederatedPlacementDecision digest) := do
  let identityObj ← identityOf digest identity arguments
  let capabilityObj ← capabilityOf identityObj capability arguments
  require (arguments.residencyOk ∧ arguments.authPreserved ∧ arguments.qualityPreserved)
    (.value "federated placement failed closed")
  let destinationDomainClass ← destinationClassOr arguments capabilityObj.domainClass
  let decision ← FederatedPlacementDecision.construct digest
    (decisionFields identityObj capabilityObj destinationDomainClass arguments)
  require (validateFederatedPlacement decision.toDecisionFields)
    (.value "federated placement rejected")
  return decision

/-! ## What a capability permits -/

/-- A capability permits a decision for an identity. -/
structure Permits (identity : FederationIdentity digest) (capability : FederationCapability digest)
    (decision : DecisionFields) : Prop where
  /-- The data may reside there. -/
  residency : capability.residencyAllowed = true
  /-- The model runs there. -/
  model : capability.supportsModel = true
  /-- The precision is supported there. -/
  precision : capability.supportsPrecision = true
  /-- There is capacity. -/
  capacity : capability.capacityAvailable = true
  /-- The quality is kept. -/
  quality : capability.qualityPreserving = true
  /-- The authorization is that of the identity. -/
  authorization : capability.authorizationContextId = identity.authorizationContextId
  /-- The authorization is of the same generation. -/
  authorizationGeneration :
    capability.authorizationGeneration = identity.authorizationGeneration
  /-- The capability is of the generation of the identity. -/
  generation : capability.generation = identity.generation
  /-- The destination is the domain of the capability. -/
  destination : decision.destinationDomainId = capability.domainId
  /-- The destination is of the class of that domain. -/
  destinationClass : decision.destinationDomainClass = capability.domainClass

/-- The arguments of a call let it return a decision. -/
structure Proceeds (identity : FederationIdentity digest) (capability : FederationCapability digest)
    (arguments : PlanArguments) (destinationDomainClass : DomainClass) : Prop where
  /-- The caller vouches for residency, authorization and quality. -/
  vouched : arguments.residencyOk ∧ arguments.authPreserved ∧ arguments.qualityPreserved
  /-- The class named for the destination is a class. -/
  named : DomainClass.ofText? ((truthy arguments.destinationClass <|>
    truthy arguments.destinationDomainClass).getD capability.domainClass.value) =
      some destinationDomainClass
  /-- The generation is not negative. -/
  generation_nonneg : 0 ≤ effectiveGeneration identity arguments

variable {identity : IdentityArgument digest} {capability : FederationCapability digest}
  {arguments : PlanArguments}

/-- A call with a capability returns a decision exactly when its arguments let it. -/
theorem plan_eq_ok_iff {decision : FederatedPlacementDecision digest} :
    plan identity (some capability) arguments = .ok decision ↔
      ∃ used, identityOf digest identity arguments = .ok used ∧ ∃ destinationDomainClass,
        Proceeds used capability arguments destinationDomainClass ∧
        decision.toDecisionFields =
          decisionFields used capability destinationDomainClass arguments := by
  simp only [plan, capabilityOf, bind_eq_ok, require_eq_ok, pure_eq_ok, destinationClassOr,
    DomainClass.ofText_eq_ok, FederatedPlacementDecision.construct_eq_ok_iff, exists_const,
    Except.ok.injEq, exists_eq_left']
  constructor
  · rintro ⟨used, found, vouched, destinationDomainClass, named, made, ⟨nonneg, same⟩, _, rfl⟩
    exact ⟨used, found, destinationDomainClass, ⟨vouched, named, nonneg⟩, same⟩
  · rintro ⟨used, found, destinationDomainClass, ⟨vouched, named, nonneg⟩, same⟩
    refine ⟨used, found, vouched, destinationDomainClass, named, decision, ⟨nonneg, same⟩, ?_, rfl⟩
    rw [same]
    obtain ⟨residency, authorization, quality⟩ := vouched
    change (arguments.residencyOk && arguments.authPreserved && arguments.qualityPreserved) = true
    rw [residency, authorization, quality]
    rfl

/-- The capability grants what the call takes for granted. -/
structure Grants (identity : FederationIdentity digest) (capability : FederationCapability digest)
    (arguments : PlanArguments) (destinationDomainClass : DomainClass) : Prop where
  /-- Every flag of the capability is set. -/
  flags : ∀ flag ∈ [capability.residencyAllowed, capability.supportsModel,
    capability.supportsPrecision, capability.capacityAvailable, capability.qualityPreserving],
    flag = true
  /-- The authorization is that of the identity. -/
  authorization : capability.authorizationContextId = identity.authorizationContextId
  /-- The authorization is of the same generation. -/
  authorizationGeneration :
    capability.authorizationGeneration = identity.authorizationGeneration
  /-- The capability is of the generation of the identity. -/
  generation : capability.generation = identity.generation
  /-- A destination that the arguments name is the domain of the capability. -/
  destination : ∀ domainId ∈ truthy arguments.destinationDomainId, domainId = capability.domainId
  /-- The class of the destination is that of the domain. -/
  destinationClass : destinationDomainClass = capability.domainClass

theorem permits_decisionFields_iff {used : FederationIdentity digest}
    {destinationDomainClass : DomainClass} :
    Permits used capability (decisionFields used capability destinationDomainClass arguments) ↔
      Grants used capability arguments destinationDomainClass := by
  have destination : (truthy arguments.destinationDomainId).getD capability.domainId =
      capability.domainId ↔
      ∀ domainId ∈ truthy arguments.destinationDomainId, domainId = capability.domainId := by
    cases truthy arguments.destinationDomainId <;> simp
  constructor
  · intro permits
    constructor
    case flags => simp [permits.residency, permits.model, permits.precision, permits.capacity,
      permits.quality]
    case authorization => exact permits.authorization
    case authorizationGeneration => exact permits.authorizationGeneration
    case generation => exact permits.generation
    case destination => exact destination.mp permits.destination
    case destinationClass => exact permits.destinationClass
  · intro grants
    have flags := grants.flags
    simp only [List.forall_mem_cons] at flags
    obtain ⟨residency, model, precision, capacity, quality, _⟩ := flags
    exact ⟨residency, model, precision, capacity, quality, grants.authorization,
      grants.authorizationGeneration, grants.generation, destination.mpr grants.destination,
      grants.destinationClass⟩

/-- Every decision of a call is permitted by the capability that it is given if and only if that
capability grants what the call takes for granted, wherever the arguments let a decision be
returned. -/
theorem plan_permitted_iff (identity : IdentityArgument digest)
    (capability : FederationCapability digest) (arguments : PlanArguments) :
    (∀ decision, plan identity (some capability) arguments = .ok decision →
      ∃ used, identityOf digest identity arguments = .ok used ∧
        Permits used capability decision.toDecisionFields) ↔
      ∀ used, identityOf digest identity arguments = .ok used →
        ∀ destinationDomainClass, Proceeds used capability arguments destinationDomainClass →
          Grants used capability arguments destinationDomainClass := by
  constructor
  · intro permitted used found destinationDomainClass proceeds
    let fields := decisionFields used capability destinationDomainClass arguments
    obtain ⟨other, same, permits⟩ := permitted
      ⟨fields, fields.expectedFingerprint digest, proceeds.generation_nonneg, rfl⟩
      (plan_eq_ok_iff.mpr ⟨used, found, destinationDomainClass, proceeds, rfl⟩)
    obtain rfl := Except.ok.inj (found.symm.trans same)
    exact permits_decisionFields_iff.mp permits
  · intro granted decision planned
    obtain ⟨used, found, destinationDomainClass, proceeds, same⟩ := plan_eq_ok_iff.mp planned
    refine ⟨used, found, ?_⟩
    rw [same]
    exact permits_decisionFields_iff.mpr (granted used found destinationDomainClass proceeds)

/-! ## A capability that forbids residency -/

/-- An identity at the edge. -/
def edgeFields : IdentityFields where
  identityId := "fed-1"
  domainId := "edge-a"
  domainClass := .edge
  generation := 3
  authorizationContextId := "auth-edge"
  authorizationGeneration := 2
  provenanceIds := ["p1"]

theorem edgeFields_valid : edgeFields.Valid := by
  refine ⟨?_, ?_, ?_⟩ <;> decide

/-- The sealed identity. -/
def edgeIdentity : FederationIdentity Digest.sha256 :=
  ⟨edgeFields, edgeFields.expectedFingerprint Digest.sha256, edgeFields_valid, rfl⟩

/-- A capability in the cloud that the data must not be moved to. -/
def forbiddenFields : CapabilityFields where
  capabilityId := "cap-1"
  domainId := "cloud-b"
  domainClass := .cloud
  generation := 3
  residencyAllowed := false
  supportsModel := true
  supportsPrecision := true
  capacityAvailable := true
  latencyMs := 25
  qualityPreserving := true
  authorizationContextId := "auth-edge"
  authorizationGeneration := 2
  provenanceIds := ["p2"]

theorem forbiddenFields_valid : forbiddenFields.Valid := by
  refine ⟨?_, ?_, ?_⟩ <;> decide

/-- The sealed capability. -/
def forbiddenCapability : FederationCapability Digest.sha256 :=
  ⟨forbiddenFields, forbiddenFields.expectedFingerprint Digest.sha256, forbiddenFields_valid, rfl⟩

/-- A decision is returned for a capability that does not allow residency. -/
theorem plan_ignores_residency :
    ¬ ∀ (identity : IdentityArgument Digest.sha256)
        (capability : FederationCapability Digest.sha256) (arguments : PlanArguments)
        (decision : FederatedPlacementDecision Digest.sha256),
      plan identity (some capability) arguments = .ok decision →
      ∃ used, identityOf Digest.sha256 identity arguments = .ok used ∧
        Permits used capability decision.toDecisionFields := by
  intro permitted
  let fields := decisionFields edgeIdentity forbiddenCapability .cloud {}
  have proceeds : Proceeds edgeIdentity forbiddenCapability {} .cloud :=
    ⟨by decide, rfl, by decide⟩
  obtain ⟨used, _, permits⟩ := permitted (.object edgeIdentity) forbiddenCapability {}
    ⟨fields, fields.expectedFingerprint Digest.sha256, proceeds.generation_nonneg, rfl⟩
    (plan_eq_ok_iff.mpr ⟨edgeIdentity, rfl, .cloud, proceeds, rfl⟩)
  exact absurd permits.residency (by decide)

end FederatedExecution
end MercuryX
