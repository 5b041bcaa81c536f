import MercuryX.ComputeNegotiator.Offers

/-!
# Negotiation decisions

A decision names the first offer that changes nothing, or, where every offer changes something, the
first offer at all, which then needs an approval. It trusts the offers that it is handed: neither
the request nor the snapshot nor the floor of an offer is compared with those of the request. Nor
does an offer that changes nothing survive generation when one that changes something dominates it.
-/

namespace MercuryX
namespace ComputeNegotiator

open Foundation

/-! ## Decisions -/

/-- Whether a request can be run. -/
inductive FeasibilityState where
  | feasible
  | temporarilyInfeasible
  | infeasible
  | unknown
  deriving DecidableEq, Repr

/-- What a negotiation comes to. -/
inductive NegotiationOutcome where
  | accept
  | counteroffer
  | reject
  | unknown
  deriving DecidableEq, Repr

/-- The text of an outcome. -/
def NegotiationOutcome.value : NegotiationOutcome → String
  | accept => "ACCEPT"
  | counteroffer => "COUNTEROFFER"
  | reject => "REJECT"
  | unknown => "UNKNOWN"

/-- A request for compute. -/
structure ComputeNegotiationRequest where
  requestId : String
  intelligenceSloId : String
  reasoningBudgetId : String
  placementPredictionIds : List String
  schedulingDecisionId : String
  resourceSnapshotGeneration : Int
  requestedQualityFloor : ℚ
  /-- Generations start at one. -/
  generation_pos : 1 ≤ resourceSnapshotGeneration
  /-- The floor is a share. -/
  floor_share : 0 ≤ requestedQualityFloor ∧ requestedQualityFloor ≤ 1

/-- The decision about a request. -/
structure NegotiationDecision where
  decisionId : String
  outcome : NegotiationOutcome
  offerId : Option String := none
  explicitApprovalRequired : Bool := false
  reasonCodes : List String := []
  deriving DecidableEq

variable {digest : Digest}

/-- An offer changes no soft constraint. -/
def ComputeOffer.Exact (offer : ComputeOffer digest) : Prop := offer.changedSoftConstraints = []

instance : DecidablePred (@ComputeOffer.Exact digest) := fun _ =>
  inferInstanceAs (Decidable (_ = _))

/-- The outcome of a decision, the offer that it names, whether it needs an approval, and why. -/
def verdict (feasibility : FeasibilityState) (offers : List (ComputeOffer digest)) :
    NegotiationOutcome × Option String × Bool × List String :=
  match feasibility, offers with
  | .unknown, _ => (.unknown, none, false, ["FEASIBILITY_UNKNOWN"])
  | .infeasible, _ => (.reject, none, false, ["HARD_CONSTRAINT_INFEASIBLE"])
  | .feasible, first :: rest =>
      match ((first :: rest).filter fun offer => offer.Exact).head? with
      | some exact => (.accept, some exact.offerId, false, ["REQUEST_SATISFIABLE"])
      | none => (.counteroffer, some first.offerId, true, ["EXPLICIT_APPROVAL_REQUIRED"])
  | _, first :: _ =>
      (.counteroffer, some first.offerId, true, ["TEMPORARY_CAPACITY_COUNTEROFFER"])
  | _, [] => (.reject, none, false, ["NO_FEASIBLE_OFFER"])

/-- Decide a request, given its feasibility and the offers. -/
def decideNegotiation (request : ComputeNegotiationRequest) (feasibility : FeasibilityState)
    (offers : List (ComputeOffer digest)) : NegotiationDecision :=
  let (outcome, offerId, approval, reasons) := verdict feasibility offers
  { decisionId := digest.hexdigest (.obj [("request", .str request.requestId),
      ("outcome", .str outcome.value), ("offer", Json.optStr offerId)])
    outcome := outcome
    offerId := offerId
    explicitApprovalRequired := approval
    reasonCodes := reasons }

/-! ## The offer that is named -/

/-- The offer that comes first: under feasibility the first exact one, if there is one, and
otherwise the first of all. -/
def Foremost (feasibility : FeasibilityState) (offers : List (ComputeOffer digest))
    (offer : ComputeOffer digest) : Prop :=
  match feasibility with
  | .feasible => (offers.find? fun offer => offer.Exact) = some offer ∨
      (∀ other ∈ offers, ¬ other.Exact) ∧ offers.head? = some offer
  | .temporarilyInfeasible => offers.head? = some offer
  | .infeasible | .unknown => False

/-- A decision names the id of the offer that comes first, and no other. -/
theorem decideNegotiation_offerId_iff {request : ComputeNegotiationRequest}
    {feasibility : FeasibilityState} {offers : List (ComputeOffer digest)} {offerId : String} :
    (decideNegotiation request feasibility offers).offerId = some offerId ↔
      ∃ first, Foremost feasibility offers first ∧ first.offerId = offerId := by
  cases feasibility with
  | unknown => simp [decideNegotiation, verdict, Foremost]
  | infeasible => simp [decideNegotiation, verdict, Foremost]
  | temporarilyInfeasible => cases offers <;> simp [decideNegotiation, verdict, Foremost]
  | feasible =>
      cases offers with
      | nil => simp [decideNegotiation, verdict, Foremost]
      | cons head rest =>
          simp only [decideNegotiation, verdict, Foremost, List.head?_filter]
          cases found : (head :: rest).find? fun offer => offer.Exact with
          | some exact =>
              have isExact := List.find?_some found
              have inside := List.mem_of_find?_eq_some found
              simp only [Option.some.injEq]
              constructor
              · rintro rfl
                exact ⟨exact, .inl rfl, rfl⟩
              · rintro ⟨first, rfl | ⟨noExact, _⟩, rfl⟩
                · rfl
                · exact absurd (of_decide_eq_true isExact) (noExact exact inside)
          | none =>
              have noExact : ∀ other ∈ head :: rest, ¬ other.Exact := fun other member =>
                of_decide_eq_false
                  (Bool.eq_false_iff.mpr (List.find?_eq_none.mp found other member))
              simp only [Option.some.injEq, List.head?_cons]
              constructor
              · rintro rfl
                exact ⟨head, .inr ⟨noExact, rfl⟩, rfl⟩
              · rintro ⟨first, nothing | ⟨_, rfl⟩, rfl⟩
                · nomatch nothing
                · rfl

/-- An offer is one for the request, as its resources stand, with the quality that it asks for. -/
structure Belongs (request : ComputeNegotiationRequest) (offer : ComputeOffer digest) : Prop where
  /-- It is an offer for the request. -/
  request_same : offer.requestId = request.requestId
  /-- It was made from the snapshot of the request. -/
  snapshot_same : offer.resourceSnapshotGeneration = request.resourceSnapshotGeneration
  /-- It keeps the floor of the request. -/
  floor_kept : request.requestedQualityFloor ≤ offer.proposedQualityFloor

/-- An offer that the decision names belongs to the request. -/
def NamesOwn (request : ComputeNegotiationRequest) (feasibility : FeasibilityState)
    (offers : List (ComputeOffer digest)) : Prop :=
  ∀ offer ∈ offers,
    (decideNegotiation request feasibility offers).offerId = some offer.offerId →
      Belongs request offer

/-- The offer that a decision names belongs to the request exactly when the one that comes first
does, with those that share its id. -/
theorem namesOwn_iff (request : ComputeNegotiationRequest) (feasibility : FeasibilityState)
    (offers : List (ComputeOffer digest)) :
    NamesOwn request feasibility offers ↔ ∀ first, Foremost feasibility offers first →
      ∀ offer ∈ offers, offer.offerId = first.offerId → Belongs request offer := by
  simp only [NamesOwn, decideNegotiation_offerId_iff]
  constructor
  · intro own first foremost offer member same
    exact own offer member ⟨first, foremost, same.symm⟩
  · rintro own offer member ⟨first, foremost, same⟩
    exact own first foremost offer member same.symm

theorem request_share : (0 : ℚ) ≤ 0.9 ∧ (0.9 : ℚ) ≤ 1 := by
  norm_num

/-- A request for a quality of 0.9. -/
def qualityRequest : ComputeNegotiationRequest where
  requestId := "r"
  intelligenceSloId := "slo"
  reasoningBudgetId := "b"
  placementPredictionIds := ["p"]
  schedulingDecisionId := "sd"
  resourceSnapshotGeneration := 5
  requestedQualityFloor := 0.9
  generation_pos := by decide
  floor_share := request_share

/-- The terms of another request, for a quality of 0.5 on an older snapshot. -/
def foreignTerms : OfferTerms where
  requestedQualityFloor := 0.5
  protectedConstraints := []
  resourceSnapshotGeneration := 4
  requestId := "other"

/-- An option of that quality. -/
def foreignOption : OfferOption where
  qualityFloor := 0.5
  latencyMs := 1000
  resourceUnits := 4
  placementCandidateIds := ["p"]
  speculationWidth := 1

theorem foreignOption_admissible : Admissible foreignTerms foreignOption := by
  constructor <;> decide +kernel

/-- A request is accepted with an offer for another one, of a lower quality. -/
theorem foreign_offer_accepted :
    ¬ ∀ (request : ComputeNegotiationRequest) (feasibility : FeasibilityState)
      (offers : List (ComputeOffer .sha256)), NamesOwn request feasibility offers := by
  intro own
  have meets : foreignTerms.Meets foreignOption := le_refl (0.5 : ℚ)
  have valid : (offerOf .sha256 foreignTerms foreignOption).Valid .sha256 :=
    (valid_offerOf_iff meets).mpr foreignOption_admissible
  have belongs := own qualityRequest .feasible [⟨_, valid⟩] ⟨_, valid⟩ (List.mem_singleton_self _)
    (decideNegotiation_offerId_iff.mpr ⟨⟨_, valid⟩, .inl rfl, rfl⟩)
  have same : "other" = "r" := belongs.request_same
  exact absurd same (by decide)

/-! ## Requests that can be satisfied as asked -/

section Satisfiable

variable {terms : OfferTerms} {options : List OfferOption}

theorem decideNegotiation_of_exact {request : ComputeNegotiationRequest}
    {offers : List (ComputeOffer digest)} (satisfiable : ∃ offer ∈ offers, offer.Exact) :
    ∃ exact ∈ offers, exact.Exact ∧
      (decideNegotiation request .feasible offers).outcome = .accept ∧
      (decideNegotiation request .feasible offers).explicitApprovalRequired = false ∧
      (decideNegotiation request .feasible offers).offerId = some exact.offerId := by
  obtain ⟨offer, member, unchanged⟩ := satisfiable
  cases offers with
  | nil => nomatch member
  | cons head rest =>
      cases found : (head :: rest).find? fun offer => offer.Exact with
      | none =>
          exact absurd (decide_eq_true unchanged) (List.find?_eq_none.mp found offer member)
      | some exact =>
          have isExact := List.find?_some found
          refine ⟨exact, List.mem_of_find?_eq_some found, of_decide_eq_true isExact, ?_⟩
          simp only [decideNegotiation, verdict, List.head?_filter, found, and_self]

/-- A feasible request is accepted as it was asked: the offers of the options are generated, and
the decision names one that changes nothing and needs no approval. -/
def AcceptedAsAsked (digest : Digest) (request : ComputeNegotiationRequest) (terms : OfferTerms)
    (options : List OfferOption) : Prop :=
  ∃ offers, generateOffers digest terms options = .ok offers ∧
    (decideNegotiation request .feasible offers).outcome = .accept ∧
    (decideNegotiation request .feasible offers).explicitApprovalRequired = false ∧
    ∃ offer ∈ offers, (decideNegotiation request .feasible offers).offerId = some offer.offerId ∧
      offer.changedSoftConstraints = []

/-- An option meets the floor and changes no soft constraint. -/
def Satisfies (terms : OfferTerms) (option : OfferOption) : Prop :=
  terms.Meets option ∧ option.changedSoftConstraints = []

instance (terms : OfferTerms) : DecidablePred (Satisfies terms) := fun _ =>
  inferInstanceAs (Decidable (_ ∧ _))

/-- No option that meets the floor and changes a soft constraint dominates the option. -/
def Withstands (terms : OfferTerms) (options : List OfferOption) (option : OfferOption) : Prop :=
  ∀ other ∈ options, terms.Meets other → other.changedSoftConstraints ≠ [] →
    ¬ other.Dominates option

/-- An option that changes nothing withstands those that change something exactly when one that
changes nothing is undominated. -/
theorem exists_undominated_iff :
    (∃ option ∈ options, Satisfies terms option ∧ Withstands terms options option) ↔
      ∃ option ∈ options, Undominated terms options option ∧
        option.changedSoftConstraints = [] := by
  constructor
  · rintro ⟨option, member, satisfies, withstands⟩
    have inside : option ∈ options.filter (Satisfies terms) :=
      List.mem_filter.mpr ⟨member, decide_eq_true satisfies⟩
    -- among the options that change nothing, one is the option itself or dominates it
    obtain ⟨best, bestInside, stays, above⟩ : ∃ best ∈ options.filter (Satisfies terms),
        Unbeaten OfferOption.Dominates (options.filter (Satisfies terms)) best ∧
          (best = option ∨ best.Dominates option) := by
      rcases @exists_unbeaten _ OfferOption.Dominates _ _ _ inside with
        stays | ⟨best, bestInside, stays, dominates⟩
      · exact ⟨option, inside, stays, .inl rfl⟩
      · exact ⟨best, bestInside, stays, .inr dominates⟩
    obtain ⟨bestMember, bestSatisfies⟩ := List.mem_filter.mp bestInside
    have bestSatisfies : Satisfies terms best := of_decide_eq_true bestSatisfies
    refine ⟨best, bestMember, ⟨bestSatisfies.1, fun other otherInside dominates => ?_⟩,
      bestSatisfies.2⟩
    obtain ⟨otherMember, otherMeets⟩ := List.mem_filter.mp otherInside
    have otherMeets : terms.Meets other := of_decide_eq_true otherMeets
    by_cases unchanged : other.changedSoftConstraints = []
    · exact stays other (List.mem_filter.mpr
        ⟨otherMember, decide_eq_true ⟨otherMeets, unchanged⟩⟩) dominates
    · refine withstands other otherMember otherMeets unchanged ?_
      rcases above with rfl | above
      · exact dominates
      · exact trans_of OfferOption.Dominates dominates above
  · rintro ⟨option, member, ⟨meets, unbeaten⟩, unchanged⟩
    refine ⟨option, member, ⟨meets, unchanged⟩, fun other otherMember otherMeets _ => ?_⟩
    exact unbeaten other (List.mem_filter.mpr ⟨otherMember, decide_eq_true otherMeets⟩)

theorem changedSoftConstraints_offerOf {option : OfferOption} :
    (offerOf digest terms option).changedSoftConstraints = [] ↔
      option.changedSoftConstraints = [] := by
  have perm := sortOn_perm id option.changedSoftConstraints
  constructor
  · intro none
    have sorted : sortOn id option.changedSoftConstraints = [] := none
    exact (sorted ▸ perm).nil_eq.symm
  · intro none
    simp [offerOf, offerTerms, none, sortOn]

/-- Without collisions, a request is accepted as it was asked exactly when the options that meet
the floor are admissible and one that changes nothing withstands those that change something. -/
theorem acceptedAsAsked_of_options (request : ComputeNegotiationRequest)
    (collisionFree : CollisionFree digest terms options) :
    AcceptedAsAsked digest request terms options ↔
      (∀ option ∈ options, terms.Meets option → Admissible terms option) ∧
        ∃ option ∈ options, Satisfies terms option ∧ Withstands terms options option := by
  rw [exists_undominated_iff]
  constructor
  · rintro ⟨offers, generated, _, _, offer, member, _, unchanged⟩
    refine ⟨(generateOffers_eq_ok_iff.mp generated).1, ?_⟩
    obtain ⟨option, inside, undominated, same⟩ :=
      (mem_generateOffers_iff collisionFree generated).mp (List.mem_map_of_mem member)
    rw [← same, changedSoftConstraints_offerOf] at unchanged
    exact ⟨option, inside, undominated, unchanged⟩
  · rintro ⟨admissible, option, member, undominated, unchanged⟩
    obtain ⟨offers, generated⟩ := @exists_generateOffers digest _ _ admissible
    obtain ⟨offer, inside, same⟩ := List.mem_map.mp ((mem_generateOffers_iff collisionFree
      generated).mpr ⟨option, member, undominated, rfl⟩)
    have satisfiable : ∃ offer ∈ offers, offer.Exact := by
      refine ⟨offer, inside, ?_⟩
      rw [ComputeOffer.Exact, same]
      exact changedSoftConstraints_offerOf.mpr unchanged
    obtain ⟨exact, exactMember, isExact, accepted, direct, named⟩ :=
      @decideNegotiation_of_exact _ request _ satisfiable
    exact ⟨offers, generated, accepted, direct, exact, exactMember, named, isExact⟩

/-- Without collisions, a request that can be satisfied as it was asked is accepted so exactly when
the options that meet the floor are admissible and one that changes nothing is dominated by none
that changes something. -/
theorem satisfiable_accepted_iff (digest : Digest) (request : ComputeNegotiationRequest)
    (terms : OfferTerms) (options : List OfferOption)
    (collisionFree : CollisionFree digest terms options) :
    ((∃ option ∈ options, Satisfies terms option) →
        AcceptedAsAsked digest request terms options) ↔
      ((∃ option ∈ options, Satisfies terms option) →
        (∀ option ∈ options, terms.Meets option → Admissible terms option) ∧
          ∃ option ∈ options, Satisfies terms option ∧ Withstands terms options option) :=
  imp_congr_right fun _ => acceptedAsAsked_of_options request collisionFree

/-- A cheaper but slower way, with the latency constraint changed. -/
def slower : OfferOption := { relaxed with latencyMs := 2000 }

theorem slower_apart : (offerOf .sha256 requestTerms asAsked).offerId ≠
    (offerOf .sha256 requestTerms slower).offerId := by
  rw [Digest.sha256_eq_numeric]
  decide +kernel

theorem slower_admissible : Admissible requestTerms slower := by
  constructor <;> decide +kernel

/-- A request is accepted as it was asked next to an option that is cheaper and slower. -/
theorem satisfiable_accepted_alone :
    AcceptedAsAsked .sha256 qualityRequest requestTerms [asAsked, slower] := by
  have meets : requestTerms.Meets asAsked := le_refl (0.9 : ℚ)
  have satisfies : ∃ option ∈ [asAsked, slower], Satisfies requestTerms option :=
    ⟨asAsked, List.mem_cons_self, meets, rfl⟩
  refine (satisfiable_accepted_iff .sha256 qualityRequest requestTerms [asAsked, slower]
    (collisionFree_of_apart slower_apart)).mpr
      (fun _ => ⟨?_, asAsked, List.mem_cons_self, ⟨meets, rfl⟩, ?_⟩) satisfies
  · intro option member _
    rcases List.mem_pair.mp member with rfl | rfl
    · exact admissible_request List.mem_cons_self
    · exact slower_admissible
  · intro other member _ changed dominates
    rcases List.mem_pair.mp member with rfl | rfl
    · exact changed rfl
    · have faster : (2000 : Int) ≤ 1500 := dominates.2.1
      exact absurd faster (by decide)

/-- A request that can be satisfied as it was asked is not accepted, because a faster and cheaper
option changes a constraint. -/
theorem relaxed_displaces_asAsked :
    (∃ option ∈ [asAsked, relaxed], Satisfies requestTerms option) ∧
      ¬ AcceptedAsAsked .sha256 qualityRequest requestTerms [asAsked, relaxed] := by
  refine ⟨⟨asAsked, by simp, le_refl (0.9 : ℚ), rfl⟩, ?_⟩
  rw [acceptedAsAsked_of_options _ collisionFree_request]
  rintro ⟨_, option, member, ⟨_, unchanged⟩, withstands⟩
  simp only [List.mem_cons, List.not_mem_nil, or_false] at member
  rcases member with rfl | rfl
  · exact withstands relaxed (by simp) (le_refl (0.9 : ℚ)) (by decide) (by decide +kernel)
  · exact absurd unchanged (by decide)

end Satisfiable

end ComputeNegotiator
end MercuryX
