import MercuryX.ComputeNegotiator.Commit
import MercuryX.ComputeNegotiator.Negotiator

/-!
# Bargains

A negotiation from the evidence to the agreement. The evidence says whether the request can be run,
offers are made on the terms of the request, the decision names one of them, an approval
acknowledges the constraints that it changes, and the commit checks it all once more. An approval
that was created for the offer and the generation is never what a commit fails on, and a commit
without one fails exactly where the offer changes something.
-/

namespace MercuryX
namespace ComputeNegotiator

open Foundation

variable {digest : Digest}

/-! ## Feasibility -/

/-- What the feasibility of a request is judged by. -/
structure FeasibilityEvidence where
  qualityPossible : Bool
  verificationPossible : Bool
  privacyOk : Bool
  residencyOk : Bool
  eligiblePlacements : Int
  evidenceSufficient : Bool
  temporaryCapacityShortage : Bool := false

/-- Judge a request, with the reason. -/
def evaluateFeasibility (evidence : FeasibilityEvidence) : FeasibilityState × List String :=
  if ¬ evidence.evidenceSufficient then (.unknown, ["INSUFFICIENT_EVIDENCE"])
  else if ¬ (evidence.qualityPossible ∧ evidence.verificationPossible ∧ evidence.privacyOk ∧
      evidence.residencyOk) ∨ evidence.eligiblePlacements ≤ 0 then
    (.infeasible, ["HARD_CONSTRAINT_INFEASIBLE"])
  else if evidence.temporaryCapacityShortage then
    (.temporarilyInfeasible, ["TEMPORARY_CAPACITY_SHORTAGE"])
  else (.feasible, ["CERTIFIED_EXECUTION_ENVELOPE_AVAILABLE"])

/-- The evidence suffices and no hard constraint stands in the way. -/
structure FeasibilityEvidence.Possible (evidence : FeasibilityEvidence) : Prop where
  sufficient : evidence.evidenceSufficient = true
  quality : evidence.qualityPossible = true
  verification : evidence.verificationPossible = true
  privacy : evidence.privacyOk = true
  residency : evidence.residencyOk = true
  placed : 0 < evidence.eligiblePlacements

/-- A request that is possible is feasible, unless capacity is short for now. -/
theorem evaluateFeasibility_of_possible {evidence : FeasibilityEvidence}
    (possible : evidence.Possible) : (evaluateFeasibility evidence).1 =
      if evidence.temporaryCapacityShortage then .temporarilyInfeasible else .feasible := by
  obtain ⟨sufficient, quality, verification, privacy, residency, placed⟩ := possible
  simp only [evaluateFeasibility, sufficient, quality, verification, privacy, residency,
    placed.not_ge]
  cases evidence.temporaryCapacityShortage <;> rfl

theorem evaluateFeasibility_of_not_possible {evidence : FeasibilityEvidence}
    (impossible : ¬ evidence.Possible) : (evaluateFeasibility evidence).1 = .unknown ∨
      (evaluateFeasibility evidence).1 = .infeasible := by
  unfold evaluateFeasibility
  split
  case isTrue => exact .inl rfl
  case isFalse sufficient =>
    split
    case isTrue => exact .inr rfl
    case isFalse hard =>
      obtain ⟨constraints, placed⟩ := not_or.mp hard
      obtain ⟨quality, verification, privacy, residency⟩ := not_not.mp constraints
      exact absurd ⟨not_not.mp sufficient, quality, verification, privacy, residency,
        not_le.mp placed⟩ impossible

/-! ## Approvals -/

/-- The approval of some changes of an offer. -/
def approvalOf (offer : ComputeOffer digest) (approverAuthorityRef : String)
    (acceptedChangedConstraints : List String) (approvalGeneration : Int) : ApprovalFields :=
  let changes := sortOn id acceptedChangedConstraints
  let fp := digest.hexdigest (.obj [("offer", .str offer.offerId),
    ("authority", .str approverAuthorityRef), ("changes", Json.strs changes),
    ("generation", .int approvalGeneration)])
  { approvalId := addressOf digest "approval" fp
    offerId := offer.offerId
    approverAuthorityRef := approverAuthorityRef
    acceptedChangedConstraints := changes
    approvalGeneration := approvalGeneration
    fingerprint := fp }

/-- Validate the fields of an approval. -/
def ApprovalArtifact.construct (fields : ApprovalFields) : Except Fault (ApprovalArtifact digest) :=
  checked (ApprovalFields.validate digest) ApprovalFields.validate_eq_ok_iff ApprovalArtifact.mk
    fields

/-- Approve exactly the constraints that an offer changes. -/
def createApproval (offer : ComputeOffer digest) (approverAuthorityRef : String)
    (acceptedChangedConstraints : List String) (approvalGeneration : Int) :
    Except Fault (ApprovalArtifact digest) := do
  require (acceptedChangedConstraints.toFinset = offer.changedSoftConstraints.toFinset)
    (.value "approval must exactly acknowledge changed constraints")
  ApprovalArtifact.construct
    (approvalOf offer approverAuthorityRef acceptedChangedConstraints approvalGeneration)

theorem ApprovalArtifact.construct_eq_ok_iff {fields : ApprovalFields}
    {approval : ApprovalArtifact digest} :
    construct fields = .ok approval ↔
      fields.Valid digest ∧ approval.toApprovalFields = fields := by
  rw [construct, checked_eq_ok_iff]
  constructor
  · rintro ⟨valid, rfl⟩
    exact ⟨valid, rfl⟩
  · rintro ⟨valid, rfl⟩
    exact ⟨valid, rfl⟩

section Approvals

variable {offer : ComputeOffer digest} {authority : String} {changes : List String}
  {generation : Int} {approval : ApprovalArtifact digest}

theorem approvalOf_valid_iff : (approvalOf offer authority changes generation).Valid digest ↔
    1 ≤ generation ∧ Text.Nonblank authority := by
  constructor
  · intro valid
    refine ⟨valid.generation_pos, valid.texts_nonblank authority ?_⟩
    simp [approvalOf]
  · rintro ⟨generation_pos, visible⟩
    have offered : Text.Nonblank offer.offerId :=
      offer.valid.texts_nonblank offer.offerId List.mem_cons_self
    constructor
    case generation_pos => exact generation_pos
    case texts_nonblank => simp [approvalOf, addressOf, digest.nonblank, offered, visible]
    case addressed => exact ⟨rfl, rfl⟩

/-- An approval is created exactly for the changes of the offer, however they are listed, by a
named authority. -/
theorem createApproval_eq_ok_iff :
    createApproval offer authority changes generation = .ok approval ↔
      (∀ constraint, constraint ∈ changes ↔ constraint ∈ offer.changedSoftConstraints) ∧
        (1 ≤ generation ∧ Text.Nonblank authority) ∧
        approval.toApprovalFields = approvalOf offer authority changes generation := by
  rw [← @approvalOf_valid_iff digest offer authority changes generation,
    ← ApprovalArtifact.construct_eq_ok_iff]
  simp [createApproval, Finset.ext_iff]

end Approvals

/-! ## Commits -/

namespace CommitCall

/-- The offer stands and its commit is authorized, whatever was approved. -/
structure Standing (call : CommitCall digest) : Prop where
  lease : call.currentGeneration ≤ call.offer.leaseUntilGeneration
  snapshot : call.currentResourceSnapshotGeneration = call.offer.resourceSnapshotGeneration
  authorized : call.authorizationValid = true
  constrained : call.hardConstraintsStillHold = true

variable {call : CommitCall digest}

/-- With an approval that was created for the offer and the generation, a commit depends on the
offer alone. -/
theorem permitted_iff_of_created {authority : String} {changes : List String}
    {approval : ApprovalArtifact digest} (given : call.approval = some approval)
    (created : createApproval call.offer authority changes call.currentGeneration =
      .ok approval) : call.Permitted ↔ call.Standing := by
  obtain ⟨exact, -, fields⟩ := createApproval_eq_ok_iff.mp created
  constructor
  · intro permitted
    exact ⟨permitted.lease, permitted.snapshot, permitted.authorized, permitted.constrained⟩
  · intro standing
    constructor
    case lease => exact standing.lease
    case snapshot => exact standing.snapshot
    case authorized => exact standing.authorized
    case constrained => exact standing.constrained
    case approved => exact fun _ => ⟨approval, given⟩
    case matching =>
      intro other same
      obtain rfl : approval = other := Option.some.inj (given.symm.trans same)
      refine ⟨by rw [fields, approvalOf], by rw [fields, approvalOf], fun constraint => ?_⟩
      rw [← exact constraint, fields, approvalOf]
      exact mem_sortOn id

/-- Without an approval, a commit is for an offer that changes nothing. -/
theorem permitted_iff_of_unapproved (none_given : call.approval = none) :
    call.Permitted ↔ call.Standing ∧ call.offer.Exact := by
  constructor
  · intro permitted
    refine ⟨⟨permitted.lease, permitted.snapshot, permitted.authorized, permitted.constrained⟩, ?_⟩
    by_contra changed
    obtain ⟨approval, given⟩ := permitted.approved changed
    simp [none_given] at given
  · rintro ⟨standing, unchanged⟩
    constructor
    case lease => exact standing.lease
    case snapshot => exact standing.snapshot
    case authorized => exact standing.authorized
    case constrained => exact standing.constrained
    case approved => exact fun changed => absurd unchanged changed
    case matching => simp [none_given]

end CommitCall

/-! ## From the evidence to the agreement -/

section Law

variable (request : ComputeNegotiationRequest) (evidence : FeasibilityEvidence)
  (protectedConstraints : List String) (leaseGenerations : Int) (options : List OfferOption)
  (offers : List (ComputeOffer digest))

/-- The terms of a request. -/
def termsOf : OfferTerms where
  requestedQualityFloor := request.requestedQualityFloor
  protectedConstraints := protectedConstraints
  resourceSnapshotGeneration := request.resourceSnapshotGeneration
  leaseGenerations := leaseGenerations
  requestId := request.requestId

/-- The decision about a request that is judged by its evidence. -/
def decisionOn : NegotiationDecision :=
  decideNegotiation request (evaluateFeasibility evidence).1 offers

/-- The offer that the decision names. -/
def Named (offer : ComputeOffer digest) : Prop :=
  Foremost (evaluateFeasibility evidence).1 offers offer

/-- A commit comes with an approval that was created for its offer and its generation, or the offer
changes nothing and there is none. -/
def Acknowledged (call : CommitCall digest) : Prop :=
  call.approval = none ∧ call.offer.Exact ∨
    ∃ approval authority changes, call.approval = some approval ∧
      createApproval call.offer authority changes call.currentGeneration = .ok approval

variable {request evidence protectedConstraints leaseGenerations options offers}

theorem Named.mem {offer : ComputeOffer digest} (named : Named evidence offers offer) :
    offer ∈ offers := by
  unfold Named at named
  cases judged : (evaluateFeasibility evidence).1 with
  | feasible =>
      rw [judged] at named
      rcases named with found | ⟨-, first⟩
      · exact List.mem_of_find?_eq_some found
      · exact List.mem_of_mem_head? first
  | temporarilyInfeasible =>
      rw [judged] at named
      exact List.mem_of_mem_head? named
  | infeasible => simp [judged, Foremost] at named
  | unknown => simp [judged, Foremost] at named

theorem exists_named_iff : (∃ offer, Named evidence offers offer) ↔
    evidence.Possible ∧ offers ≠ [] := by
  constructor
  · rintro ⟨offer, named⟩
    refine ⟨?_, List.ne_nil_of_mem named.mem⟩
    by_contra impossible
    rcases evaluateFeasibility_of_not_possible impossible with judged | judged
    · simp [Named, judged, Foremost] at named
    · simp [Named, judged, Foremost] at named
  · rintro ⟨possible, given⟩
    obtain ⟨first, rest, rfl⟩ := List.exists_cons_of_ne_nil given
    rw [show (fun offer => Named evidence (first :: rest) offer) =
      Foremost _ (first :: rest) from rfl, evaluateFeasibility_of_possible possible]
    split
    case isTrue => exact ⟨first, rfl⟩
    case isFalse =>
      cases found : (first :: rest).find? fun offer => offer.Exact with
      | some exact => exact ⟨exact, .inl found⟩
      | none =>
          refine ⟨first, .inr ⟨fun other member => ?_, rfl⟩⟩
          simpa using List.find?_eq_none.mp found other member

theorem belongs_of_generated
    (generated : generateOffers digest (termsOf request protectedConstraints leaseGenerations)
      options = .ok offers) {offer : ComputeOffer digest} (member : offer ∈ offers) :
    ∃ option ∈ options, request.requestedQualityFloor ≤ option.qualityFloor ∧
      offer.toOfferFields =
        offerOf digest (termsOf request protectedConstraints leaseGenerations) option := by
  have fields := (generateOffers_eq_ok_iff.mp generated).2
  have kept : offer.toOfferFields ∈ offers.map ComputeOffer.toOfferFields :=
    List.mem_map_of_mem member
  rw [fields] at kept
  have drafted := (mem_sortOn OfferFields.offerId).mp (List.mem_of_mem_filter kept)
  obtain ⟨option, inside, meets, same⟩ := mem_draftsOf.mp drafted
  exact ⟨option, inside, meets, same.symm⟩

theorem approvalRequired_iff {offer : ComputeOffer digest} (named : Named evidence offers offer) :
    (decisionOn request evidence offers).explicitApprovalRequired = true ↔
      evidence.temporaryCapacityShortage = true ∨ ¬ offer.Exact := by
  have possible : evidence.Possible := (exists_named_iff.mp ⟨offer, named⟩).1
  obtain ⟨first, rest, rfl⟩ := List.exists_cons_of_ne_nil (List.ne_nil_of_mem named.mem)
  have judged := evaluateFeasibility_of_possible possible
  rw [Named, judged] at named
  rw [decisionOn, judged]
  cases shortage : evidence.temporaryCapacityShortage with
  | true => simp [decideNegotiation, verdict]
  | false =>
      rw [shortage] at named
      rcases named with found | ⟨noExact, first_eq⟩
      · have isExact := List.find?_some found
        have exact : offer.Exact := of_decide_eq_true isExact
        have outcome :
            (decideNegotiation request .feasible (first :: rest)).explicitApprovalRequired =
              false := by
          simp only [decideNegotiation, verdict, List.head?_filter, found]
        simp [outcome, exact]
      · obtain rfl : first = offer := by simpa using first_eq
        have missing : (first :: rest).find? (fun offer => offer.Exact) = none := by
          simpa [List.find?_eq_none] using noExact
        have outcome : (decideNegotiation request .feasible
            (first :: rest)).explicitApprovalRequired = true := by
          simp only [decideNegotiation, verdict, List.head?_filter, missing]
        simp [outcome, noExact first List.mem_cons_self]

/-- A request is accepted exactly where it can be run now and an offer changes nothing. -/
theorem accepted_iff : (decisionOn request evidence offers).outcome = .accept ↔
    evidence.Possible ∧ evidence.temporaryCapacityShortage = false ∧
      ∃ offer ∈ offers, offer.Exact := by
  by_cases possible : evidence.Possible
  · rw [decisionOn, evaluateFeasibility_of_possible possible]
    cases evidence.temporaryCapacityShortage with
    | true => cases offers <;> simp [decideNegotiation, verdict]
    | false =>
        simp only [possible, true_and]
        refine ⟨fun outcome => ?_, fun satisfiable => ?_⟩
        · by_contra noExact
          have missing : offers.filter (fun offer => offer.Exact) = [] := by
            simpa [List.filter_eq_nil_iff] using noExact
          cases offers with
          | nil => simp [decideNegotiation, verdict] at outcome
          | cons first rest => simp [decideNegotiation, verdict, missing] at outcome
        · obtain ⟨exact, -, -, outcome, -⟩ := decideNegotiation_of_exact satisfiable
          exact outcome
  · simp only [possible, false_and, iff_false]
    rcases evaluateFeasibility_of_not_possible possible with judged | judged
    · simp [decisionOn, judged, decideNegotiation, verdict]
    · simp [decisionOn, judged, decideNegotiation, verdict]

variable (request evidence protectedConstraints leaseGenerations options offers)

/-- What a negotiation comes to when the offers are made on the terms of its request. -/
structure BargainLaw : Prop where
  /-- An offer is named exactly when the request is possible and there is one, and the request is
  accepted as asked exactly when it can also be run now and an offer changes nothing. -/
  names_iff : (∃ offerId, (decisionOn request evidence offers).offerId = some offerId) ↔
    evidence.Possible ∧ offers ≠ []
  accepts_iff : (decisionOn request evidence offers).outcome = .accept ↔
    evidence.Possible ∧ evidence.temporaryCapacityShortage = false ∧
      ∃ offer ∈ offers, offer.Exact
  /-- What is named is an offer for the request, which keeps its floor and all that is protected. -/
  belongs : ∀ offerId, (decisionOn request evidence offers).offerId = some offerId →
    ∃ offer ∈ offers, offer.offerId = offerId ∧ Named evidence offers offer ∧
      Belongs request offer ∧ ∀ constraint ∈ allProtectedConstraints,
        constraint ∈ offer.protectedConstraints ∧ constraint ∉ offer.changedSoftConstraints
  /-- An acknowledged commit of the named offer answers exactly when the offer is not yet consumed,
  the lease that follows the snapshot of the request has not run out, the resources are still those
  of the request, and the commit is authorized under its hard constraints. -/
  commits : ∀ offer, Named evidence offers offer → ∀ (ledger : AgreementCommitLedger) call,
    call.offer = offer → Acknowledged call →
      ((∃ agreement next, commitAgreement digest (some ledger) call = (.ok agreement, next)) ↔
        offer.offerId ∉ ledger.committed ∧
        call.currentGeneration ≤ request.resourceSnapshotGeneration + leaseGenerations ∧
        call.currentResourceSnapshotGeneration = request.resourceSnapshotGeneration ∧
        call.authorizationValid = true ∧ call.hardConstraintsStillHold = true)
  /-- The decision asks for no approval only where a commit without one is acknowledged; where the
  offer changes something, none without one answers. -/
  unasked : ∀ offer, Named evidence offers offer →
    (decisionOn request evidence offers).explicitApprovalRequired = false → offer.Exact
  unapproved : ∀ offer, Named evidence offers offer → ¬ offer.Exact →
    ∀ (ledger : AgreementCommitLedger) call, call.offer = offer → call.approval = none →
      ∀ agreement next, commitAgreement digest (some ledger) call ≠ (.ok agreement, next)

variable {request evidence protectedConstraints leaseGenerations options offers}

theorem terms_of_generated
    (generated : generateOffers digest (termsOf request protectedConstraints leaseGenerations)
      options = .ok offers) {offer : ComputeOffer digest} (member : offer ∈ offers) :
    Belongs request offer ∧ offer.leaseUntilGeneration =
      request.resourceSnapshotGeneration + leaseGenerations := by
  obtain ⟨option, -, floor, fields⟩ := belongs_of_generated generated member
  constructor
  · constructor
    case request_same => rw [fields, offerOf, offerTerms, termsOf]
    case snapshot_same => rw [fields, offerOf, offerTerms, termsOf]
    case floor_kept => rwa [fields, offerOf, offerTerms]
  · rw [fields, offerOf, offerTerms, termsOf]

theorem acknowledged_permitted_iff {call : CommitCall digest} (acknowledged : Acknowledged call) :
    call.Permitted ↔ call.Standing := by
  rcases acknowledged with ⟨none_given, unchanged⟩ | ⟨approval, authority, changes, given, created⟩
  · rw [CommitCall.permitted_iff_of_unapproved none_given, and_iff_left unchanged]
  · exact CommitCall.permitted_iff_of_created given created

theorem exists_commit_iff {ledger : AgreementCommitLedger} {call : CommitCall digest} :
    (∃ agreement next, commitAgreement digest (some ledger) call = (.ok agreement, next)) ↔
      call.Permitted ∧ call.offer.offerId ∉ ledger.committed := by
  constructor
  · rintro ⟨agreement, next, answered⟩
    obtain ⟨⟨permitted, fresh, -⟩, -⟩ := commitAgreement_eq_ok_iff.mp answered
    exact ⟨permitted, fresh⟩
  · rintro ⟨permitted, fresh⟩
    have built : (⟨call.agreementFields, call.agreementFields_valid⟩ :
        ComputeAgreement digest).toAgreementFields = call.agreementFields := rfl
    exact ⟨_, _, commitAgreement_eq_ok_iff.mpr ⟨⟨permitted, fresh, built⟩, rfl⟩⟩

theorem bargainLaw
    (generated : generateOffers digest (termsOf request protectedConstraints leaseGenerations)
      options = .ok offers) : BargainLaw request evidence leaseGenerations offers where
  names_iff := by
    simp only [decisionOn, decideNegotiation_offerId_iff]
    rw [← exists_named_iff]
    constructor
    · rintro ⟨-, offer, named, rfl⟩
      exact ⟨offer, named⟩
    · rintro ⟨offer, named⟩
      exact ⟨offer.offerId, offer, named, rfl⟩
  accepts_iff := accepted_iff
  belongs offerId named := by
    obtain ⟨offer, foremost, rfl⟩ := decideNegotiation_offerId_iff.mp named
    have member : offer ∈ offers := Named.mem foremost
    refine ⟨offer, member, rfl, foremost, (terms_of_generated generated member).1, ?_⟩
    exact fun constraint isProtected => ⟨offer.valid.protected_kept constraint isProtected,
      offer.valid.protected_unchanged constraint isProtected⟩
  commits offer named ledger call same acknowledged := by
    obtain ⟨belongs, leased⟩ := terms_of_generated generated named.mem
    rw [exists_commit_iff, acknowledged_permitted_iff acknowledged]
    subst same
    rw [← leased, ← belongs.snapshot_same, and_comm]
    refine and_congr_right fun _ => ?_
    constructor
    · rintro ⟨lease, snapshot, authorized, constrained⟩
      exact ⟨lease, snapshot, authorized, constrained⟩
    · rintro ⟨lease, snapshot, authorized, constrained⟩
      exact ⟨lease, snapshot, authorized, constrained⟩
  unasked offer named unasked := by
    have asked : (decisionOn request evidence offers).explicitApprovalRequired = true ↔ _ :=
      approvalRequired_iff named
    rw [unasked] at asked
    exact not_not.mp (not_or.mp (asked.not.mp (by simp))).2
  unapproved offer named changed ledger call same none_given agreement next answered := by
    subst same
    have permitted := (commitAgreement_eq_ok_iff.mp answered).1.1
    exact changed ((CommitCall.permitted_iff_of_unapproved none_given).mp permitted).2

/-- Evidence on which the request can be run now. -/
def runnable : FeasibilityEvidence where
  qualityPossible := true
  verificationPossible := true
  privacyOk := true
  residencyOk := true
  eligiblePlacements := 1
  evidenceSufficient := true

theorem bargainLaw_request : ∃ offers : List (ComputeOffer .sha256),
    generateOffers .sha256 requestTerms [asAsked, relaxed] = .ok offers ∧
      BargainLaw qualityRequest runnable 2 offers := by
  have admissible : ∀ option ∈ [asAsked, relaxed], requestTerms.Meets option →
      Admissible requestTerms option := fun _ member _ => admissible_request member
  obtain ⟨offers, generated⟩ := @exists_generateOffers .sha256 _ _ admissible
  have own : requestTerms = termsOf qualityRequest ["quality"] 2 := rfl
  exact ⟨offers, generated, bargainLaw (own ▸ generated)⟩

end Law

end ComputeNegotiator
end MercuryX
