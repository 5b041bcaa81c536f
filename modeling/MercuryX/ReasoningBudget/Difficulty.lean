import MercuryX.Foundation.Layouts
import MercuryX.Foundation.Means

/-!
# Difficulty from evidence

The difficulty of a workload is that of the mean of its verified evidence, unless the evidence is
of several domains or too far apart. More evidence can bring such a conflict about and never
resolves it.
-/

namespace MercuryX
namespace ReasoningBudget

open Foundation

/-! ## Assessments -/

/-- How difficult a workload is. -/
inductive WorkloadDifficulty where
  | low
  | medium
  | high
  | extreme
  | unknown
  deriving DecidableEq

/-- The text of a difficulty. -/
def WorkloadDifficulty.value : WorkloadDifficulty → String
  | .low => "LOW"
  | .medium => "MEDIUM"
  | .high => "HIGH"
  | .extreme => "EXTREME"
  | .unknown => "UNKNOWN"

/-- A piece of evidence on the difficulty of a workload. -/
structure DifficultyEvidence where
  evidenceId : String
  featureName : String
  normalizedValue : ℚ
  verified : Bool := true
  operatingDomain : String
  provenanceIds : List String
  deriving DecidableEq

/-- What evidence amounts to. -/
structure DifficultyAssessment where
  assessmentId : String
  difficulty : WorkloadDifficulty
  evidenceIds : List String
  reasonCodes : List String
  operatingDomain : String
  provenanceIds : List String
  deriving DecidableEq

/-- The difficulty of a mean. -/
def difficultyOf (average : ℚ) : WorkloadDifficulty :=
  if average < 25 / 100 then .low
  else if average < 5 / 10 then .medium
  else if average < 8 / 10 then .high
  else .extreme

/-- The difficulty that verified evidence of some domains amounts to, and why. -/
def assessed (verified : List DifficultyEvidence) (domains : List String) :
    WorkloadDifficulty × List String :=
  if verified = [] then (.unknown, ["INSUFFICIENT_EVIDENCE"])
  else if domains.length ≠ 1 then (.unknown, ["CONFLICTING_OPERATING_DOMAIN"])
  else
    let values := verified.map DifficultyEvidence.normalizedValue
    if 65 / 100 < spread values then (.unknown, ["CONFLICTING_DIFFICULTY_EVIDENCE"])
    else (difficultyOf (mean values), ["EVIDENCE_BACKED_DIFFICULTY"])

/-- What an assessment is identified by. -/
def assessmentPayload (difficulty : WorkloadDifficulty) (evidenceIds : List String) : Json :=
  .obj [("difficulty", .str difficulty.value), ("evidence_ids", Json.strs evidenceIds)]

/-- The payload that the id of an assessment is a digest of. -/
def DifficultyAssessment.identity (assessment : DifficultyAssessment) : Json :=
  assessmentPayload assessment.difficulty assessment.evidenceIds

/-- The verified evidence, by its ids. -/
def verifiedEvidence (evidence : List DifficultyEvidence) : List DifficultyEvidence :=
  sortOn DifficultyEvidence.evidenceId (evidence.filter DifficultyEvidence.verified)

/-- Estimate the difficulty of a workload. -/
def estimateDifficulty (digest : Digest) (evidence : List DifficultyEvidence) :
    DifficultyAssessment :=
  let verified := verifiedEvidence evidence
  let domains := (verified.map DifficultyEvidence.operatingDomain).dedup
  let outcome := assessed verified domains
  let ids := verified.map DifficultyEvidence.evidenceId
  { assessmentId := digest.hexdigest (assessmentPayload outcome.1 ids)
    difficulty := outcome.1
    evidenceIds := ids
    reasonCodes := outcome.2
    operatingDomain := if domains.length = 1 then domains.headD "UNKNOWN" else "UNKNOWN"
    provenanceIds := canonical id (verified.flatMap DifficultyEvidence.provenanceIds) }

/-! ## When a difficulty is known -/

/-- Some evidence is verified. -/
def Evident (evidence : List DifficultyEvidence) : Prop := ∃ item ∈ evidence, item.verified

/-- No two pieces of verified evidence are of different domains or too far apart. -/
def Agrees (evidence : List DifficultyEvidence) : Prop :=
  ∀ left ∈ evidence, left.verified → ∀ right ∈ evidence, right.verified →
    left.operatingDomain = right.operatingDomain ∧
      left.normalizedValue - right.normalizedValue ≤ 65 / 100

section Known

variable {digest : Digest} {evidence others : List DifficultyEvidence} {item : DifficultyEvidence}

theorem mem_verifiedEvidence : item ∈ verifiedEvidence evidence ↔
    item ∈ evidence ∧ item.verified = true := by
  rw [verifiedEvidence, mem_sortOn, List.mem_filter]

theorem verifiedEvidence_ne_nil_iff : verifiedEvidence evidence ≠ [] ↔ Evident evidence := by
  constructor
  · intro some
    obtain ⟨item, member⟩ := List.exists_mem_of_ne_nil _ some
    exact ⟨item, mem_verifiedEvidence.mp member⟩
  · rintro ⟨item, given⟩
    exact List.ne_nil_of_mem (mem_verifiedEvidence.mpr given)

/-- One domain is that of all evidence. -/
theorem length_dedup_eq_one_iff {texts : List String} (nonempty : texts ≠ []) :
    texts.dedup.length = 1 ↔ ∀ left ∈ texts, ∀ right ∈ texts, left = right := by
  rw [List.length_eq_one_iff]
  constructor
  · rintro ⟨only, same⟩ left leftMember right rightMember
    rw [← List.mem_dedup, same, List.mem_singleton] at leftMember rightMember
    rw [leftMember, rightMember]
  · intro same
    obtain ⟨first, member⟩ := List.exists_mem_of_ne_nil texts nonempty
    refine ⟨first, List.perm_singleton.mp ?_⟩
    refine (List.perm_ext_iff_of_nodup texts.nodup_dedup (List.nodup_singleton first)).mpr ?_
    intro text
    rw [List.mem_dedup, List.mem_singleton]
    exact ⟨fun inside => same text inside first member, by rintro rfl; exact member⟩

theorem difficultyOf_ne_unknown (average : ℚ) : difficultyOf average ≠ .unknown := by
  unfold difficultyOf
  split_ifs <;> simp

/-- Evidence without a conflict amounts to the difficulty of its mean. -/
theorem difficulty_of_known (evident : Evident evidence) (agrees : Agrees evidence) :
    (estimateDifficulty digest evidence).difficulty =
      difficultyOf (mean ((verifiedEvidence evidence).map DifficultyEvidence.normalizedValue)) := by
  have some := verifiedEvidence_ne_nil_iff.mpr evident
  have domains : ((verifiedEvidence evidence).map
      DifficultyEvidence.operatingDomain).dedup.length = 1 := by
    rw [length_dedup_eq_one_iff (mt List.map_eq_nil_iff.mp some)]
    simp only [List.forall_mem_map, mem_verifiedEvidence]
    exact fun left leftGiven right rightGiven =>
      (agrees left leftGiven.1 leftGiven.2 right rightGiven.1 rightGiven.2).1
  have near : spread ((verifiedEvidence evidence).map DifficultyEvidence.normalizedValue) ≤
      65 / 100 := by
    rw [spread_le_iff (mt List.map_eq_nil_iff.mp some)]
    simp only [List.forall_mem_map, mem_verifiedEvidence]
    exact fun left leftGiven right rightGiven =>
      (agrees left leftGiven.1 leftGiven.2 right rightGiven.1 rightGiven.2).2
  simp only [estimateDifficulty, assessed, if_neg some, domains, ne_eq, not_true, if_false,
    if_neg (not_lt.mpr near)]

/-- The difficulty is known exactly where there is verified evidence without a conflict. -/
theorem difficulty_known_iff : (estimateDifficulty digest evidence).difficulty ≠ .unknown ↔
    Evident evidence ∧ Agrees evidence := by
  constructor
  · intro known
    simp only [estimateDifficulty, assessed] at known
    split_ifs at known with none several apart
    · exact absurd rfl known
    · exact absurd rfl known
    · exact absurd rfl known
    · have evident := verifiedEvidence_ne_nil_iff.mp none
      have domains := (length_dedup_eq_one_iff (mt List.map_eq_nil_iff.mp none)).mp
        (not_not.mp several)
      have near := (spread_le_iff (mt List.map_eq_nil_iff.mp none)).mp (not_lt.mp apart)
      simp only [List.forall_mem_map, mem_verifiedEvidence] at domains near
      exact ⟨evident, fun left leftMember leftVerified right rightMember rightVerified =>
        ⟨domains left ⟨leftMember, leftVerified⟩ right ⟨rightMember, rightVerified⟩,
          near left ⟨leftMember, leftVerified⟩ right ⟨rightMember, rightVerified⟩⟩⟩
  · rintro ⟨evident, agrees⟩
    rw [difficulty_of_known evident agrees]
    exact difficultyOf_ne_unknown _

end Known

/-! ## The law of estimates -/

/-- Difficulties by their height. -/
def WorkloadDifficulty.level : WorkloadDifficulty → Nat
  | .low => 0
  | .medium => 1
  | .high => 2
  | .extreme => 3
  | .unknown => 4

/-- The other piece of evidence is verified alike and of no smaller value. -/
structure Raised (item other : DifficultyEvidence) : Prop where
  /-- Both are verified, or neither. -/
  verified : other.verified = item.verified
  /-- The value does not fall. -/
  value : item.normalizedValue ≤ other.normalizedValue

/-- What an estimate makes of evidence. -/
structure DifficultyLaw (digest : Digest) (evidence : List DifficultyEvidence) : Prop where
  /-- The difficulty is known exactly if there is verified evidence, all of one domain and no two
  pieces too far apart. -/
  known : (estimateDifficulty digest evidence).difficulty ≠ .unknown ↔
    Evident evidence ∧ Agrees evidence
  /-- A known difficulty lies between those of two pieces of verified evidence. -/
  between : (estimateDifficulty digest evidence).difficulty ≠ .unknown →
    ∃ low ∈ evidence, low.verified ∧ ∃ high ∈ evidence, high.verified ∧
      (difficultyOf low.normalizedValue).level ≤
        (estimateDifficulty digest evidence).difficulty.level ∧
      (estimateDifficulty digest evidence).difficulty.level ≤
        (difficultyOf high.normalizedValue).level
  /-- Evidence that is not verified does not matter. -/
  unverified : estimateDifficulty digest (evidence.filter DifficultyEvidence.verified) =
    estimateDifficulty digest evidence
  /-- Where verified evidence has ids of its own, neither does its order. -/
  reordered : ∀ others, evidence.Perm others →
    ((evidence.filter DifficultyEvidence.verified).map DifficultyEvidence.evidenceId).Nodup →
    estimateDifficulty digest others = estimateDifficulty digest evidence
  /-- No further evidence resolves a conflict. -/
  unresolved : ∀ more, Evident evidence →
    (estimateDifficulty digest evidence).difficulty = .unknown →
    (estimateDifficulty digest (evidence ++ more)).difficulty = .unknown
  /-- Evidence of greater values does not make a known difficulty a lower one. -/
  raised : ∀ others, List.Forall₂ Raised evidence others →
    (estimateDifficulty digest evidence).difficulty ≠ .unknown →
    (estimateDifficulty digest others).difficulty ≠ .unknown →
    (estimateDifficulty digest evidence).difficulty.level ≤
      (estimateDifficulty digest others).difficulty.level
  /-- Where the digest tells two assessments apart, they are identified by their difficulty and
  their evidence. -/
  identified : ∀ others,
    digest.Tells (estimateDifficulty digest evidence).identity
      (estimateDifficulty digest others).identity →
    ((estimateDifficulty digest evidence).assessmentId =
        (estimateDifficulty digest others).assessmentId ↔
      (estimateDifficulty digest evidence).difficulty =
          (estimateDifficulty digest others).difficulty ∧
        (estimateDifficulty digest evidence).evidenceIds =
          (estimateDifficulty digest others).evidenceIds)

section Law

variable {digest : Digest} {evidence others : List DifficultyEvidence}

theorem level_difficultyOf_mono : Monotone fun average => (difficultyOf average).level := by
  intro left right below
  simp only [difficultyOf]
  split_ifs <;> simp only [WorkloadDifficulty.level] <;> first | omega | (exfalso; linarith)

theorem WorkloadDifficulty.value_injective : Function.Injective WorkloadDifficulty.value := by
  intro left right same
  cases left <;> cases right <;> first | rfl | (exfalso; revert same; decide)

/-- The layout of what assessments are identified by. -/
def assessmentLayout : Json.Layout := .record [("difficulty", .scalar),
  ("evidence_ids", .list .scalar)]

theorem distinct_assessmentLayout : Json.Distinct assessmentLayout := by
  simp [assessmentLayout, Json.Distinct, Json.DistinctFields]

theorem fits_assessmentPayload (difficulty : WorkloadDifficulty) (evidenceIds : List String) :
    Json.Fits assessmentLayout (assessmentPayload difficulty evidenceIds) := by
  simp [assessmentLayout, assessmentPayload, Json.Fits, Json.FitsFields, Json.IsScalar]

theorem assessmentId_eq_iff {left right : WorkloadDifficulty} {leftIds rightIds : List String}
    (tells : digest.Tells (assessmentPayload left leftIds) (assessmentPayload right rightIds)) :
    digest.hexdigest (assessmentPayload left leftIds) =
        digest.hexdigest (assessmentPayload right rightIds) ↔
      left = right ∧ leftIds = rightIds := by
  constructor
  · intro same
    have payloads := tells.eq_of_fits distinct_assessmentLayout
      (fits_assessmentPayload left leftIds) (fits_assessmentPayload right rightIds) same
    simp only [assessmentPayload, Json.obj.injEq, List.cons.injEq, Prod.mk.injEq, Json.str.injEq,
      Json.strs_injective.eq_iff, WorkloadDifficulty.value_injective.eq_iff, true_and,
      and_true] at payloads
    exact payloads
  · rintro ⟨rfl, rfl⟩
    rfl

theorem mean_verifiedEvidence (evidence : List DifficultyEvidence) :
    mean ((verifiedEvidence evidence).map DifficultyEvidence.normalizedValue) =
      mean ((evidence.filter DifficultyEvidence.verified).map
        DifficultyEvidence.normalizedValue) :=
  mean_perm ((sortOn_perm _ _).map _)

theorem forall₂_verified (raised : List.Forall₂ Raised evidence others) :
    List.Forall₂ (· ≤ ·)
      ((evidence.filter DifficultyEvidence.verified).map DifficultyEvidence.normalizedValue)
      ((others.filter DifficultyEvidence.verified).map DifficultyEvidence.normalizedValue) := by
  induction raised with
  | nil => exact .nil
  | cons step _ induction =>
      simp only [List.filter_cons, step.verified]
      split_ifs
      · exact .cons step.value induction
      · exact induction

theorem Agrees.of_append {more : List DifficultyEvidence} (agrees : Agrees (evidence ++ more)) :
    Agrees evidence :=
  fun left leftMember leftVerified right rightMember =>
    agrees left (List.mem_append_left _ leftMember) leftVerified right
      (List.mem_append_left _ rightMember)

/-- Every estimate obeys the law. -/
theorem difficultyLaw (digest : Digest) (evidence : List DifficultyEvidence) :
    DifficultyLaw digest evidence where
  known := difficulty_known_iff
  between := by
    intro known
    obtain ⟨evident, agrees⟩ := difficulty_known_iff.mp known
    have some := verifiedEvidence_ne_nil_iff.mpr evident
    obtain ⟨low, lowMember, high, highMember, below, above⟩ :=
      exists_mean_between (mt List.map_eq_nil_iff.mp some)
    obtain ⟨lowItem, lowGiven, rfl⟩ := List.mem_map.mp lowMember
    obtain ⟨highItem, highGiven, rfl⟩ := List.mem_map.mp highMember
    obtain ⟨lowInside, lowVerified⟩ := mem_verifiedEvidence.mp lowGiven
    obtain ⟨highInside, highVerified⟩ := mem_verifiedEvidence.mp highGiven
    rw [difficulty_of_known evident agrees]
    exact ⟨lowItem, lowInside, lowVerified, highItem, highInside, highVerified,
      level_difficultyOf_mono below, level_difficultyOf_mono above⟩
  unverified := by
    have same : verifiedEvidence (evidence.filter DifficultyEvidence.verified) =
        verifiedEvidence evidence := by
      rw [verifiedEvidence, List.filter_filter]
      simp only [Bool.and_self, verifiedEvidence]
    simp only [estimateDifficulty, same]
  reordered := by
    intro others perm distinct
    have same : verifiedEvidence others = verifiedEvidence evidence :=
      (sortOn_eq_of_perm (List.inj_on_of_nodup_map distinct) (perm.filter _)).symm
    simp only [estimateDifficulty, same]
  unresolved := by
    intro more evident conflict
    by_contra resolved
    have agrees := (difficulty_known_iff.mp resolved).2.of_append
    exact difficulty_known_iff.mpr ⟨evident, agrees⟩ conflict
  raised := by
    intro others raised known otherKnown
    obtain ⟨evident, agrees⟩ := difficulty_known_iff.mp known
    obtain ⟨otherEvident, otherAgrees⟩ := difficulty_known_iff.mp otherKnown
    rw [difficulty_of_known evident agrees, difficulty_of_known otherEvident otherAgrees,
      mean_verifiedEvidence, mean_verifiedEvidence]
    exact level_difficultyOf_mono (mean_mono (forall₂_verified raised))
  identified _ tells := assessmentId_eq_iff tells

end Law

end ReasoningBudget
end MercuryX
