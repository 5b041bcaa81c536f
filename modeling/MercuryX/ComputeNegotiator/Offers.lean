import MercuryX.ComputeNegotiator.Contracts
import MercuryX.Foundation.Frontier
import MercuryX.Foundation.Numerals

/-!
# Generating offers

Every option that meets the requested quality floor becomes a content-addressed offer. An offer is
then dropped when another one dominates it in quality, latency and resources, so that the offers
left are the Pareto front of the options, in the order of their ids. Which soft constraints an
offer changes is not compared.
-/

namespace MercuryX
namespace ComputeNegotiator

open Foundation

/-! ## Options and their offers -/

/-- A way to run a workload. -/
structure OfferOption where
  qualityFloor : ℚ
  latencyMs : Int
  resourceUnits : ℚ
  placementCandidateIds : List String
  speculationWidth : Int
  changedSoftConstraints : List String := []

/-- What the offers of one generation share. -/
structure OfferTerms where
  requestedQualityFloor : ℚ
  protectedConstraints : List String
  resourceSnapshotGeneration : Int
  leaseGenerations : Int := 2
  requestId : String := "legacy-request"

/-- An option meets the requested quality floor. -/
def OfferTerms.Meets (terms : OfferTerms) (option : OfferOption) : Prop :=
  terms.requestedQualityFloor ≤ option.qualityFloor

instance (terms : OfferTerms) : DecidablePred terms.Meets := fun _ =>
  inferInstanceAs (Decidable (_ ≤ _))

variable (digest : Digest)

/-- The offer of an option, before it is addressed. -/
def offerTerms (terms : OfferTerms) (option : OfferOption) : OfferFields where
  offerId := ""
  requestId := terms.requestId
  requestedQualityFloor := terms.requestedQualityFloor
  proposedQualityFloor := option.qualityFloor
  proposedLatencyMs := option.latencyMs
  proposedResourceUnits := option.resourceUnits
  placementCandidateIds := sortOn id option.placementCandidateIds
  speculationWidth := option.speculationWidth
  protectedConstraints := canonical id (terms.protectedConstraints ++ allProtectedConstraints)
  changedSoftConstraints := sortOn id option.changedSoftConstraints
  resourceSnapshotGeneration := terms.resourceSnapshotGeneration
  leaseUntilGeneration := terms.resourceSnapshotGeneration + terms.leaseGenerations
  reasonCodes := ["PARETO_FEASIBLE_OFFER"]
  fingerprint := ""

/-- The offer of an option. -/
def offerOf (terms : OfferTerms) (option : OfferOption) : OfferFields :=
  let fp := digest.hexdigest (offerTerms terms option).payload
  { offerTerms terms option with
    offerId := addressOf digest "offer" fp
    fingerprint := fp }

/-- Validate the fields of an offer. -/
def ComputeOffer.construct (fields : OfferFields) : Except Fault (ComputeOffer digest) :=
  checked (OfferFields.validate digest) OfferFields.validate_eq_ok_iff ComputeOffer.mk fields

variable {digest}

theorem ComputeOffer.construct_eq_ok_iff {fields : OfferFields} {offer : ComputeOffer digest} :
    construct digest fields = .ok offer ↔
      fields.Valid digest ∧ offer.toOfferFields = fields := by
  rw [construct, checked_eq_ok_iff]
  constructor
  · rintro ⟨valid, rfl⟩
    exact ⟨valid, rfl⟩
  · rintro ⟨valid, rfl⟩
    exact ⟨valid, rfl⟩

theorem ComputeOffer.toOfferFields_injective :
    Function.Injective (@ComputeOffer.toOfferFields digest) := by
  rintro ⟨left, _⟩ ⟨right, _⟩ rfl
  rfl

/-! ## Dominance -/

/-- What offers are compared by. -/
structure Envelope where
  quality : ℚ
  latencyMs : Int
  resourceUnits : ℚ

namespace Envelope

/-- An envelope dominates another: no figure is worse and one is better. -/
def Dominates (left right : Envelope) : Prop :=
  right.quality ≤ left.quality ∧ left.latencyMs ≤ right.latencyMs ∧
    left.resourceUnits ≤ right.resourceUnits ∧
    (right.quality < left.quality ∨ left.latencyMs < right.latencyMs ∨
      left.resourceUnits < right.resourceUnits)

instance : DecidableRel Dominates := fun _ _ => inferInstanceAs (Decidable (_ ∧ _))

/-- The figures of an envelope, less being better. -/
def figures (envelope : Envelope) : ℚᵒᵈ × Int × ℚ :=
  (OrderDual.toDual envelope.quality, envelope.latencyMs, envelope.resourceUnits)

theorem dominates_iff {left right : Envelope} :
    left.Dominates right ↔ left.figures < right.figures := by
  simp only [Dominates, figures, lt_iff_le_not_ge, Prod.mk_le_mk, OrderDual.toDual_le_toDual]
  simp only [not_and_or, not_le]
  tauto

instance : IsStrictOrder Envelope Dominates where
  irrefl envelope := by simp [dominates_iff]
  trans first second third := by
    simp only [dominates_iff]
    exact lt_trans

end Envelope

/-- The figures that an option proposes. -/
def OfferOption.envelope (option : OfferOption) : Envelope :=
  ⟨option.qualityFloor, option.latencyMs, option.resourceUnits⟩

/-- The figures that an offer proposes. -/
def OfferFields.envelope (offer : OfferFields) : Envelope :=
  ⟨offer.proposedQualityFloor, offer.proposedLatencyMs, offer.proposedResourceUnits⟩

/-- One option dominates another. -/
def OfferOption.Dominates (left right : OfferOption) : Prop :=
  left.envelope.Dominates right.envelope

instance : DecidableRel OfferOption.Dominates := fun _ _ =>
  inferInstanceAs (Decidable (Envelope.Dominates _ _))

instance : IsStrictOrder OfferOption OfferOption.Dominates where
  irrefl option := irrefl_of Envelope.Dominates option.envelope
  trans _ _ _ := trans_of Envelope.Dominates

@[simp] theorem envelope_offerOf (terms : OfferTerms) (option : OfferOption) :
    (offerOf digest terms option).envelope = option.envelope := rfl

/-! ## Generation -/

/-- Another of some offers, of another id, dominates an offer. -/
def Dominated (offers : List OfferFields) (offer : OfferFields) : Prop :=
  ∃ other ∈ offers, other.offerId ≠ offer.offerId ∧ other.envelope.Dominates offer.envelope

instance (offers : List OfferFields) : DecidablePred (Dominated offers) := fun _ =>
  inferInstanceAs (Decidable (∃ _ ∈ _, _))

variable (digest)

/-- The offers that are not dominated, in the order of their ids. -/
def generateOffers (terms : OfferTerms) (options : List OfferOption) :
    Except Fault (List (ComputeOffer digest)) := do
  let offers ← (options.filter terms.Meets).mapM fun option =>
    ComputeOffer.construct digest (offerOf digest terms option)
  return (sortOn (fun offer => offer.offerId) offers).filter fun offer =>
    ¬ Dominated (offers.map ComputeOffer.toOfferFields) offer.toOfferFields

/-- An option that an offer can be made of. -/
structure Admissible (terms : OfferTerms) (option : OfferOption) : Prop where
  /-- The latency is positive. -/
  latency_pos : 1 ≤ option.latencyMs
  /-- Some resources are proposed. -/
  resources_pos : 0 < option.resourceUnits
  /-- There is a branch to run. -/
  speculation_pos : 1 ≤ option.speculationWidth
  /-- Generations start at one. -/
  generations_pos : 1 ≤ terms.resourceSnapshotGeneration ∧
    1 ≤ terms.resourceSnapshotGeneration + terms.leaseGenerations
  /-- The lease does not end before the snapshot. -/
  lease_valid : 0 ≤ terms.leaseGenerations
  /-- The request has a name. -/
  request_named : Text.Nonblank terms.requestId
  /-- No protected constraint is changed. -/
  protected_unchanged : ∀ constraint ∈ allProtectedConstraints,
    constraint ∉ option.changedSoftConstraints

variable {digest} {terms : OfferTerms} {options : List OfferOption}

theorem valid_offerOf_iff {option : OfferOption} (meets : terms.Meets option) :
    (offerOf digest terms option).Valid digest ↔ Admissible terms option := by
  constructor
  · intro valid
    constructor
    case latency_pos => exact valid.latency_pos
    case resources_pos => exact valid.resources_pos
    case speculation_pos => exact valid.speculation_pos
    case generations_pos => exact valid.generations_pos
    case lease_valid => exact (le_add_iff_nonneg_right _).mp valid.lease_valid
    case request_named => exact valid.texts_nonblank terms.requestId (by simp [offerOf, offerTerms])
    case protected_unchanged =>
      intro constraint isProtected changed
      exact valid.protected_unchanged constraint isProtected ((mem_sortOn id).mpr changed)
  · intro admissible
    constructor
    case latency_pos => exact admissible.latency_pos
    case resources_pos => exact admissible.resources_pos
    case speculation_pos => exact admissible.speculation_pos
    case generations_pos => exact admissible.generations_pos
    case quality_kept => exact meets
    case lease_valid => exact (le_add_iff_nonneg_right _).mpr admissible.lease_valid
    case texts_nonblank =>
      simpa [offerOf, offerTerms, addressOf, digest.nonblank] using admissible.request_named
    case protected_kept =>
      intro constraint isProtected
      exact (mem_canonical id).mpr (List.mem_append_right _ isProtected)
    case protected_unchanged =>
      intro constraint isProtected changed
      exact admissible.protected_unchanged constraint isProtected ((mem_sortOn id).mp changed)
    case addressed => exact ⟨rfl, rfl⟩

/-- The offers of the options that meet the floor. -/
def draftsOf (digest : Digest) (terms : OfferTerms) (options : List OfferOption) :
    List OfferFields :=
  (options.filter terms.Meets).map (offerOf digest terms)

theorem mem_draftsOf {offer : OfferFields} : offer ∈ draftsOf digest terms options ↔
    ∃ option ∈ options, terms.Meets option ∧ offerOf digest terms option = offer := by
  simp [draftsOf, and_assoc]

theorem exists_drafts (admissible : ∀ option ∈ options, terms.Meets option →
    Admissible terms option) : ∃ made, (options.filter terms.Meets).mapM (fun option =>
      ComputeOffer.construct digest (offerOf digest terms option)) = .ok made := by
  refine exists_mapM_eq_ok fun option member => ?_
  obtain ⟨member, meets⟩ := List.mem_filter.mp member
  have meets := of_decide_eq_true meets
  have valid := (@valid_offerOf_iff digest _ _ meets).mpr (admissible option member meets)
  exact ⟨⟨_, valid⟩, ComputeOffer.construct_eq_ok_iff.mpr ⟨valid, rfl⟩⟩

theorem exists_generateOffers (admissible : ∀ option ∈ options, terms.Meets option →
    Admissible terms option) : ∃ offers, generateOffers digest terms options = .ok offers := by
  obtain ⟨made, built⟩ := @exists_drafts digest _ _ admissible
  exact ⟨_, bind_eq_ok.mpr ⟨made, built, rfl⟩⟩

/-- Generation succeeds exactly when the options that meet the floor are admissible, with the
undominated of their offers. -/
theorem generateOffers_eq_ok_iff {offers : List (ComputeOffer digest)} :
    generateOffers digest terms options = .ok offers ↔
      (∀ option ∈ options, terms.Meets option → Admissible terms option) ∧
        offers.map ComputeOffer.toOfferFields =
          (sortOn OfferFields.offerId (draftsOf digest terms options)).filter fun offer =>
            ¬ Dominated (draftsOf digest terms options) offer := by
  have fields : ∀ made : List (ComputeOffer digest),
      ((sortOn (fun offer => offer.offerId) made).filter fun offer =>
        ¬ Dominated (made.map ComputeOffer.toOfferFields) offer.toOfferFields).map
          ComputeOffer.toOfferFields =
        (sortOn OfferFields.offerId (made.map ComputeOffer.toOfferFields)).filter fun offer =>
          ¬ Dominated (made.map ComputeOffer.toOfferFields) offer := by
    intro made
    rw [← map_sortOn (fun offer : ComputeOffer digest => offer.offerId)
      ComputeOffer.toOfferFields OfferFields.offerId (fun _ => rfl), List.filter_map]
    rfl
  have drafts : ∀ made, (options.filter terms.Meets).mapM (fun option =>
      ComputeOffer.construct digest (offerOf digest terms option)) = .ok made →
        made.map ComputeOffer.toOfferFields = draftsOf digest terms options := fun made built =>
    map_of_mapM_eq_ok (fun _ _ built => (ComputeOffer.construct_eq_ok_iff.mp built).2) built
  simp only [generateOffers, bind_eq_ok, pure_eq_ok, Except.ok.injEq]
  constructor
  · rintro ⟨made, built, rfl⟩
    refine ⟨fun option member meets => ?_, by rw [fields, drafts made built]⟩
    obtain ⟨offer, _, constructed⟩ := exists_of_mapM_eq_ok built
      (List.mem_filter.mpr ⟨member, by simpa using meets⟩)
    exact (valid_offerOf_iff meets).mp (ComputeOffer.construct_eq_ok_iff.mp constructed).1
  · rintro ⟨admissible, kept⟩
    obtain ⟨made, built⟩ := @exists_drafts digest _ _ admissible
    refine ⟨made, built, ComputeOffer.toOfferFields_injective.list_map ?_⟩
    rw [fields, drafts made built, kept]

/-! ## The Pareto front -/

section Front

variable (digest terms options)

/-- The digest tells the terms and the fingerprints of the offers of some options apart. -/
def CollisionFree : Prop :=
  Set.InjOn digest.hexdigest {payload | ∃ option ∈ options, terms.Meets option ∧
      (offerTerms terms option).payload = payload} ∧
    Set.InjOn digest.hexdigest {payload | ∃ option ∈ options, terms.Meets option ∧
      .obj [("offer", .str (offerOf digest terms option).fingerprint)] = payload}

variable {digest terms options}

theorem offerTerms_eq_of_payload_eq {left right : OfferOption}
    (same : (offerTerms terms left).payload = (offerTerms terms right).payload) :
    offerTerms terms left = offerTerms terms right := by
  simp only [OfferFields.payload, offerTerms, Json.obj.injEq, List.cons.injEq, Prod.mk.injEq,
    Json.float.injEq, Json.int.injEq, true_and, and_true] at same
  obtain ⟨quality, latency, resources, placements, speculation, changes⟩ := same
  simp only [offerTerms, quality, latency, resources, Json.strs_injective placements, speculation,
    Json.strs_injective changes]

/-- Without collisions, the offers have different ids. -/
theorem CollisionFree.separates (collisionFree : CollisionFree digest terms options) :
    Separates OfferFields.offerId (draftsOf digest terms options) := by
  intro left leftMember right rightMember same
  obtain ⟨first, firstMember, firstMeets, rfl⟩ := mem_draftsOf.mp leftMember
  obtain ⟨second, secondMember, secondMeets, rfl⟩ := mem_draftsOf.mp rightMember
  have identity := collisionFree.2 ⟨first, firstMember, firstMeets, rfl⟩
    ⟨second, secondMember, secondMeets, rfl⟩ same
  have fingerprint : (offerOf digest terms first).fingerprint =
      (offerOf digest terms second).fingerprint := by
    simpa using identity
  have payload := collisionFree.1 ⟨first, firstMember, firstMeets, rfl⟩
    ⟨second, secondMember, secondMeets, rfl⟩ fingerprint
  simp only [offerOf, offerTerms_eq_of_payload_eq payload]

/-- An option that meets the floor, and that no other such option dominates. -/
def Undominated (terms : OfferTerms) (options : List OfferOption) (option : OfferOption) : Prop :=
  terms.Meets option ∧ Unbeaten OfferOption.Dominates (options.filter terms.Meets) option

theorem CollisionFree.dominated_iff (collisionFree : CollisionFree digest terms options)
    {option : OfferOption} (member : option ∈ options) (meets : terms.Meets option) :
    Dominated (draftsOf digest terms options) (offerOf digest terms option) ↔
      ∃ other ∈ options, terms.Meets other ∧ other.Dominates option := by
  constructor
  · rintro ⟨offer, inside, _, dominates⟩
    obtain ⟨other, otherMember, otherMeets, rfl⟩ := mem_draftsOf.mp inside
    exact ⟨other, otherMember, otherMeets, dominates⟩
  · rintro ⟨other, otherMember, otherMeets, dominates⟩
    have inside : offerOf digest terms other ∈ draftsOf digest terms options :=
      mem_draftsOf.mpr ⟨other, otherMember, otherMeets, rfl⟩
    refine ⟨offerOf digest terms other, inside, fun same => ?_, dominates⟩
    have equal := collisionFree.separates _ inside _
      (mem_draftsOf.mpr ⟨option, member, meets, rfl⟩) same
    have alike : other.envelope = option.envelope := congrArg OfferFields.envelope equal
    rw [OfferOption.Dominates, alike] at dominates
    exact irrefl_of Envelope.Dominates option.envelope dominates

theorem mem_generateOffers_iff (collisionFree : CollisionFree digest terms options)
    {offers : List (ComputeOffer digest)}
    (generated : generateOffers digest terms options = .ok offers) {fields : OfferFields} :
    fields ∈ offers.map ComputeOffer.toOfferFields ↔
      ∃ option ∈ options, Undominated terms options option ∧
        offerOf digest terms option = fields := by
  rw [(generateOffers_eq_ok_iff.mp generated).2, List.mem_filter, mem_sortOn, mem_draftsOf,
    decide_eq_true_eq]
  constructor
  · rintro ⟨⟨option, member, meets, rfl⟩, undominated⟩
    rw [collisionFree.dominated_iff member meets] at undominated
    refine ⟨option, member, ⟨meets, fun other inside dominates => ?_⟩, rfl⟩
    obtain ⟨otherMember, otherMeets⟩ := List.mem_filter.mp inside
    exact undominated ⟨other, otherMember, of_decide_eq_true otherMeets, dominates⟩
  · rintro ⟨option, member, ⟨meets, unbeaten⟩, rfl⟩
    refine ⟨⟨option, member, meets, rfl⟩, ?_⟩
    rw [collisionFree.dominated_iff member meets]
    rintro ⟨other, otherMember, otherMeets, dominates⟩
    exact unbeaten other (List.mem_filter.mpr ⟨otherMember, decide_eq_true otherMeets⟩) dominates

/-- The Pareto front of some options, as offers. -/
structure ParetoFront (terms : OfferTerms) (options : List OfferOption)
    (offers : List (ComputeOffer digest)) : Prop where
  /-- Every offer is that of an undominated option. -/
  drawn : ∀ offer ∈ offers, ∃ option ∈ options, Undominated terms options option ∧
    offerOf digest terms option = offer.toOfferFields
  /-- An option that meets the floor is offered, or an offer dominates it. -/
  covered : ∀ option ∈ options, terms.Meets option →
    (∃ offer ∈ offers, offer.toOfferFields = offerOf digest terms option) ∨
      ∃ best ∈ offers, best.envelope.Dominates option.envelope
  /-- No offer dominates another. -/
  apart : ∀ offer ∈ offers, ∀ other ∈ offers, ¬ other.envelope.Dominates offer.envelope
  /-- Every offer meets the floor. -/
  floored : ∀ offer ∈ offers, terms.requestedQualityFloor ≤ offer.proposedQualityFloor
  /-- Every order of the options gives the offers. -/
  permuted : ∀ others, List.Perm others options →
    generateOffers digest terms others = .ok offers

theorem CollisionFree.of_perm {others : List OfferOption} (perm : List.Perm others options)
    (collisionFree : CollisionFree digest terms options) : CollisionFree digest terms others := by
  simpa only [CollisionFree, perm.mem_iff] using collisionFree

/-- Without collisions, the order of the options does not matter. -/
theorem generateOffers_perm (collisionFree : CollisionFree digest terms options)
    {others : List OfferOption} (perm : List.Perm others options)
    {offers : List (ComputeOffer digest)}
    (generated : generateOffers digest terms options = .ok offers) :
    generateOffers digest terms others = .ok offers := by
  obtain ⟨admissible, kept⟩ := generateOffers_eq_ok_iff.mp generated
  have drafts : List.Perm (draftsOf digest terms others) (draftsOf digest terms options) :=
    (perm.filter _).map _
  refine generateOffers_eq_ok_iff.mpr ⟨fun option member => admissible option
    (perm.mem_iff.mp member), ?_⟩
  rw [kept, sortOn_eq_of_perm (collisionFree.of_perm perm).separates drafts]
  refine List.filter_congr fun offer _ => decide_eq_decide.mpr (not_congr ?_)
  simp only [Dominated, drafts.mem_iff]

/-- Without collisions, the generated offers are the Pareto front of the options. -/
theorem paretoFront_generateOffers (collisionFree : CollisionFree digest terms options)
    {offers : List (ComputeOffer digest)}
    (generated : generateOffers digest terms options = .ok offers) :
    ParetoFront terms options offers := by
  have exact_of_mem : ∀ offer ∈ offers, ∃ option ∈ options,
      Undominated terms options option ∧ offerOf digest terms option = offer.toOfferFields :=
    fun offer member => (mem_generateOffers_iff collisionFree generated).mp
      (List.mem_map_of_mem member)
  have offered : ∀ option ∈ options, Undominated terms options option →
      ∃ offer ∈ offers, offer.toOfferFields = offerOf digest terms option :=
    fun option member undominated => List.mem_map.mp
      ((mem_generateOffers_iff collisionFree generated).mpr ⟨option, member, undominated, rfl⟩)
  constructor
  case drawn => exact exact_of_mem
  case covered =>
    intro option member meets
    have inside : option ∈ options.filter terms.Meets :=
      List.mem_filter.mpr ⟨member, decide_eq_true meets⟩
    rcases @exists_unbeaten _ OfferOption.Dominates _ _ _ inside with
      stays | ⟨best, bestInside, stays, dominates⟩
    · exact .inl (offered option member ⟨meets, stays⟩)
    · obtain ⟨bestMember, bestMeets⟩ := List.mem_filter.mp bestInside
      obtain ⟨offer, offerMember, same⟩ :=
        offered best bestMember ⟨of_decide_eq_true bestMeets, stays⟩
      exact .inr ⟨offer, offerMember, by rw [same]; exact dominates⟩
  case apart =>
    intro offer member other otherMember dominates
    obtain ⟨option, _, undominated, same⟩ := exact_of_mem offer member
    obtain ⟨better, betterMember, betterUndominated, betterSame⟩ := exact_of_mem other otherMember
    refine undominated.2 better (List.mem_filter.mpr
      ⟨betterMember, decide_eq_true betterUndominated.1⟩) ?_
    rwa [← same, ← betterSame] at dominates
  case floored =>
    intro offer member
    obtain ⟨option, _, undominated, same⟩ := exact_of_mem offer member
    rw [← same]
    exact undominated.1
  case permuted => exact fun others perm => generateOffers_perm collisionFree perm generated

/-- Generation raises exactly when some option that meets the floor is not admissible. -/
theorem exists_generateOffers_eq_error_iff :
    (∃ raised, generateOffers digest terms options = .error raised) ↔
      ∃ option ∈ options, terms.Meets option ∧ ¬ Admissible terms option := by
  cases outcome : generateOffers digest terms options with
  | error raised =>
      refine ⟨fun _ => ?_, fun _ => ⟨raised, rfl⟩⟩
      by_contra admissible
      push Not at admissible
      obtain ⟨offers, generated⟩ := @exists_generateOffers digest _ _ admissible
      nomatch outcome.symm.trans generated
  | ok offers =>
      have admissible := (generateOffers_eq_ok_iff.mp outcome).1
      constructor
      · rintro ⟨_, raised⟩
        nomatch raised
      · rintro ⟨option, member, meets, refused⟩
        exact absurd (admissible option member meets) refused

/-- Without collisions, generation gives the Pareto front of the options exactly when every option
that meets the floor is admissible, and it raises otherwise. -/
theorem exists_paretoFront_iff (digest : Digest) (terms : OfferTerms) (options : List OfferOption)
    (collisionFree : CollisionFree digest terms options) :
    ((∃ offers : List (ComputeOffer digest), ParetoFront terms options offers) ↔
      ∀ option ∈ options, terms.Meets option → Admissible terms option) ∧
    ((∃ raised, generateOffers digest terms options = .error raised) ↔
      ∃ option ∈ options, terms.Meets option ∧ ¬ Admissible terms option) := by
  refine ⟨?_, exists_generateOffers_eq_error_iff⟩
  constructor
  · rintro ⟨offers, front⟩
    exact (generateOffers_eq_ok_iff.mp (front.permuted options (.refl _))).1
  · intro admissible
    obtain ⟨offers, generated⟩ := @exists_generateOffers digest _ _ admissible
    exact ⟨offers, paretoFront_generateOffers collisionFree generated⟩

end Front

/-! ## A request and a relaxation of it -/

/-- The terms of a request for a quality of 0.9. -/
def requestTerms : OfferTerms where
  requestedQualityFloor := 0.9
  protectedConstraints := ["quality"]
  resourceSnapshotGeneration := 5
  requestId := "r"

/-- A way to run the request as it was asked. -/
def asAsked : OfferOption where
  qualityFloor := 0.9
  latencyMs := 1500
  resourceUnits := 5
  placementCandidateIds := ["p"]
  speculationWidth := 1

/-- A faster and cheaper way, with the latency constraint changed. -/
def relaxed : OfferOption where
  qualityFloor := 0.9
  latencyMs := 1000
  resourceUnits := 4
  placementCandidateIds := ["p"]
  speculationWidth := 1
  changedSoftConstraints := ["latency"]

theorem admissible_request {option : OfferOption} (member : option ∈ [asAsked, relaxed]) :
    Admissible requestTerms option := by
  simp only [List.mem_cons, List.not_mem_nil, or_false] at member
  rcases member with rfl | rfl <;> constructor <;> decide +kernel

theorem offerIds_apart : (offerOf .sha256 requestTerms asAsked).offerId ≠
    (offerOf .sha256 requestTerms relaxed).offerId := by
  rw [Digest.sha256_eq_numeric]
  decide +kernel

theorem injOn_of_apart {content : OfferOption → Json} {left right : OfferOption}
    (apart : digest.hexdigest (content left) ≠ digest.hexdigest (content right)) :
    Set.InjOn digest.hexdigest
      {payload | ∃ option ∈ [left, right], terms.Meets option ∧ content option = payload} := by
  rintro _ ⟨first, firstMember, _, rfl⟩ _ ⟨second, secondMember, _, rfl⟩ same
  simp only [List.mem_cons, List.not_mem_nil, or_false] at firstMember secondMember
  rcases firstMember with rfl | rfl <;> rcases secondMember with rfl | rfl
  · rfl
  · exact absurd same apart
  · exact absurd same.symm apart
  · rfl

/-- Two options whose offers have ids of their own do not collide. -/
theorem collisionFree_of_apart {left right : OfferOption}
    (apart : (offerOf digest terms left).offerId ≠ (offerOf digest terms right).offerId) :
    CollisionFree digest terms [left, right] :=
  ⟨injOn_of_apart fun same => apart (congrArg (addressOf digest "offer") same),
    injOn_of_apart apart⟩

theorem collisionFree_request : CollisionFree .sha256 requestTerms [asAsked, relaxed] :=
  collisionFree_of_apart offerIds_apart

/-- A request and its relaxation have a Pareto front. -/
theorem paretoFront_request :
    ∃ offers : List (ComputeOffer .sha256), ParetoFront requestTerms [asAsked, relaxed] offers :=
  (exists_paretoFront_iff .sha256 requestTerms [asAsked, relaxed] collisionFree_request).1.mpr
    fun _ member _ => admissible_request member

/-- An option without latency changes no protected constraint and has no Pareto front. -/
theorem instant_not_offered :
    (∀ option ∈ [{ asAsked with latencyMs := 0 }], ∀ constraint ∈ allProtectedConstraints,
      constraint ∉ option.changedSoftConstraints) ∧
      ¬ ∃ offers : List (ComputeOffer .sha256),
        ParetoFront requestTerms [{ asAsked with latencyMs := 0 }] offers := by
  refine ⟨by decide, ?_⟩
  rintro ⟨offers, front⟩
  have admissible := (generateOffers_eq_ok_iff.mp (front.permuted _ (.refl _))).1
  have positive := (admissible _ (List.mem_singleton_self _) (le_refl (0.9 : ℚ))).latency_pos
  exact absurd positive (by decide)

end ComputeNegotiator
end MercuryX
