import MercuryX.IntelligenceSlo.Compiler

/-!
# The generic requirement view

The envelope that later phases schedule against exports one floor for quality and one for
confidence. Each is the threshold of the requirement with the least id on its metric, whatever that
requirement is; the envelope is as strict as a valid SLO exactly when, on each metric with a HARD
floor, that requirement is HARD.
-/

namespace MercuryX
namespace IntelligenceSlo

open Foundation

/-! ## The envelope -/

/-- What an envelope says about the SLO it is made from. -/
inductive RequirementEnvelopeStatus where
  | active
  | ambiguous
  | unsatisfiable
  | invalid
  deriving DecidableEq, Repr

/-- The text of an envelope status. -/
def RequirementEnvelopeStatus.value : RequirementEnvelopeStatus → String
  | active => "ACTIVE"
  | ambiguous => "AMBIGUOUS"
  | unsatisfiable => "UNSATISFIABLE"
  | invalid => "INVALID"

/-- The envelope status of a compilation status. -/
def RequirementEnvelopeStatus.ofCompilation : CompilationStatus → RequirementEnvelopeStatus
  | .valid => active
  | .ambiguous => ambiguous
  | .unsatisfiable => unsatisfiable
  | .invalid => invalid

/-- The fields of an envelope. -/
structure EnvelopeFields where
  requirementInterfaceId : String
  sourceSloId : String
  sourceSloVersion : Int
  sourceSloFingerprint : String
  status : RequirementEnvelopeStatus
  qualityFloor : Option ℚ := none
  confidenceFloor : Option ℚ := none
  hardRequirementIds : List String
  softRequirementIds : List String := []
  unknownRequirementIds : List String := []
  provenanceIds : List String

namespace EnvelopeFields

/-- The content that the fingerprint of an envelope covers. -/
def payload (envelope : EnvelopeFields) : Json := .obj [
  ("requirement_interface_id", .str envelope.requirementInterfaceId),
  ("source_slo_id", .str envelope.sourceSloId),
  ("source_slo_version", .int envelope.sourceSloVersion),
  ("source_slo_fingerprint", .str envelope.sourceSloFingerprint),
  ("status", .str envelope.status.value),
  ("quality_floor", Json.optFloat envelope.qualityFloor),
  ("confidence_floor", Json.optFloat envelope.confidenceFloor),
  ("hard_requirement_ids", Json.strs (sortOn id envelope.hardRequirementIds)),
  ("soft_requirement_ids", Json.strs (sortOn id envelope.softRequirementIds)),
  ("unknown_requirement_ids", Json.strs (sortOn id envelope.unknownRequirementIds)),
  ("degradation_allowed", .bool false),
  ("provenance_ids", Json.strs (sortOn id envelope.provenanceIds))]

/-- What the validation of an envelope establishes. -/
structure Valid (envelope : EnvelopeFields) : Prop where
  /-- Versions start at one. -/
  version_pos : 1 ≤ envelope.sourceSloVersion
  /-- Floors lie between zero and one. -/
  floors_within : ∀ floor ∈ [envelope.qualityFloor, envelope.confidenceFloor], ∀ value ∈ floor,
    0 ≤ value ∧ value ≤ 1
  /-- Identity fields are nonblank. -/
  texts_nonblank : ∀ text ∈ [envelope.requirementInterfaceId, envelope.sourceSloId,
    envelope.sourceSloFingerprint], Text.Nonblank text
  /-- Lists hold distinct nonblank texts in order. -/
  lists_canonical : ∀ texts ∈ [envelope.hardRequirementIds, envelope.softRequirementIds,
    envelope.unknownRequirementIds, envelope.provenanceIds], CanonicalTexts texts
  /-- There is provenance. -/
  provenance_given : envelope.provenanceIds ≠ []

/-- The check of a list of ids. -/
def canonicalIds (field : String) (ids : List String) : Except Fault (List String) :=
  canonicalField "GenericIntelligenceRequirementEnvelope" field (field ++ " must be nonblank")
    (field ++ " contains duplicates") ids

/-- The check of an optional floor. -/
def checkFloor (field : String) (floor : Option ℚ) : Except Fault Unit :=
  forEach (fieldWithin "GenericIntelligenceRequirementEnvelope" field 0 1) floor.toList

/-- Validate the fields of an envelope; the lists come out in order. -/
def validate (envelope : EnvelopeFields) : Except Fault EnvelopeFields := do
  let contract := "GenericIntelligenceRequirementEnvelope"
  forEach (fun field => rule contract field.1 (Text.Nonblank field.2)
      "requirement envelope identity must be nonblank") [
    ("requirement_interface_id", envelope.requirementInterfaceId),
    ("source_slo_id", envelope.sourceSloId),
    ("source_slo_fingerprint", envelope.sourceSloFingerprint)]
  fieldGe contract "source_slo_version" 1 envelope.sourceSloVersion
  checkFloor "quality_floor" envelope.qualityFloor
  checkFloor "confidence_floor" envelope.confidenceFloor
  let hard ← canonicalIds "hard_requirement_ids" envelope.hardRequirementIds
  let soft ← canonicalIds "soft_requirement_ids" envelope.softRequirementIds
  let unknown ← canonicalIds "unknown_requirement_ids" envelope.unknownRequirementIds
  let provenance ← canonicalIds "provenance_ids" envelope.provenanceIds
  rule contract "" (provenance ≠ []) "requirement envelope requires provenance"
  return { envelope with
    hardRequirementIds := hard, softRequirementIds := soft, unknownRequirementIds := unknown,
    provenanceIds := provenance }

/-- The fields with their lists in order. -/
def canonicalized (envelope : EnvelopeFields) : EnvelopeFields :=
  { envelope with
    hardRequirementIds := sortOn id envelope.hardRequirementIds
    softRequirementIds := sortOn id envelope.softRequirementIds
    unknownRequirementIds := sortOn id envelope.unknownRequirementIds
    provenanceIds := sortOn id envelope.provenanceIds }

theorem canonicalTexts_sortOn {texts : List String} :
    CanonicalTexts (sortOn id texts) ↔ (∀ text ∈ texts, Text.Nonblank text) ∧ texts.Nodup := by
  have perm := sortOn_perm id texts
  constructor
  · rintro ⟨visible, canonical_eq⟩
    refine ⟨fun text member => visible text (perm.mem_iff.mpr member), perm.nodup_iff.mp ?_⟩
    exact canonical_eq ▸ canonical_nodup id _
  · rintro ⟨visible, nodup⟩
    exact ⟨fun text member => visible text (perm.mem_iff.mp member),
      canonical_eq_self id (perm.nodup_iff.mpr nodup) (sortOn_pairwise id texts)⟩

/-- Validation succeeds exactly when the fields are valid once their lists are in order. -/
theorem validate_eq_ok_iff {envelope kept : EnvelopeFields} :
    envelope.validate = .ok kept ↔
      envelope.canonicalized.Valid ∧ envelope.canonicalized = kept := by
  simp only [validate, canonicalIds, checkFloor, bind_eq_ok, forEach_eq_ok, rule_eq_ok,
    fieldGe_eq_ok, fieldWithin_eq_ok, canonicalField_eq_ok, pure_eq_ok, Except.ok.injEq,
    exists_const]
  constructor
  · rintro ⟨texts, version, quality, confidence, _, ⟨hardVisible, hardNodup, rfl⟩, _,
      ⟨softVisible, softNodup, rfl⟩, _, ⟨unknownVisible, unknownNodup, rfl⟩, _,
      ⟨provenanceVisible, provenanceNodup, rfl⟩, given, rfl⟩
    refine ⟨⟨version, ?_, ?_, ?_, given⟩, rfl⟩
    · simp only [Option.mem_toList] at quality confidence
      exact List.forall_mem_cons.mpr ⟨quality, List.forall_mem_singleton.mpr confidence⟩
    · simpa [canonicalized] using texts
    · simp only [canonicalized, List.forall_mem_cons, canonicalTexts_sortOn]
      exact ⟨⟨hardVisible, hardNodup⟩, ⟨softVisible, softNodup⟩, ⟨unknownVisible, unknownNodup⟩,
        ⟨provenanceVisible, provenanceNodup⟩, by simp⟩
  · rintro ⟨⟨version, floors, texts, lists, given⟩, rfl⟩
    simp only [canonicalized, List.forall_mem_cons, canonicalTexts_sortOn, List.not_mem_nil,
      false_implies, implies_true, and_true] at version floors texts lists given
    obtain ⟨hard, soft, unknown, provenance⟩ := lists
    refine ⟨by simpa using texts, version, by simpa using floors.1, by simpa using floors.2,
      _, ⟨hard.1, hard.2, rfl⟩, _, ⟨soft.1, soft.2, rfl⟩, _, ⟨unknown.1, unknown.2, rfl⟩, _,
      ⟨provenance.1, provenance.2, rfl⟩, given, rfl⟩

end EnvelopeFields

/-- A validated envelope of requirements. -/
structure GenericIntelligenceRequirementEnvelope (digest : Digest) extends EnvelopeFields where
  fingerprint : String
  /-- The envelope passed its validator. -/
  valid : toEnvelopeFields.Valid
  /-- The fingerprint is that of the fields. -/
  verified : fingerprint = digest.hexdigest toEnvelopeFields.payload

variable {digest : Digest}

/-- Construct an envelope from its fields and their fingerprint. -/
def GenericIntelligenceRequirementEnvelope.construct (fields : EnvelopeFields)
    (fingerprint : String) : Except Fault (GenericIntelligenceRequirementEnvelope digest) :=
  match validated : fields.validate with
  | .error raised => .error raised
  | .ok kept =>
      if verified : fingerprint = digest.hexdigest kept.payload then
        have facts := EnvelopeFields.validate_eq_ok_iff.mp validated
        .ok ⟨kept, fingerprint, facts.2 ▸ facts.1, verified⟩
      else
        .error (.validation "GenericIntelligenceRequirementEnvelope" ""
          "Value error, requirement envelope fingerprint mismatch")

/-! ## The view of an SLO -/

/-- The first requirement on a metric. -/
def firstOn (metricId : String) (requirements : List IntelligenceRequirement) :
    Option IntelligenceRequirement :=
  requirements.find? fun requirement => requirement.metricId = metricId

/-- The threshold that the view exports for a metric: that of the first requirement on it. -/
def exportedFloor (metricId : String) (requirements : List IntelligenceRequirement) : Option ℚ :=
  (firstOn metricId requirements).bind IntelligenceRequirement.threshold

/-- The fields that the envelope of an SLO is constructed from. -/
def viewFields (slo : IntelligenceSLO digest) : EnvelopeFields where
  requirementInterfaceId := slo.intelligenceSloId
  sourceSloId := slo.intelligenceSloId
  sourceSloVersion := slo.version
  sourceSloFingerprint := slo.fingerprint
  status := .ofCompilation slo.status
  qualityFloor := exportedFloor "quality.primary" slo.requirements
  confidenceFloor := exportedFloor "confidence.primary" slo.requirements
  hardRequirementIds := slo.hardConstraints
  softRequirementIds := slo.softConstraints
  unknownRequirementIds := slo.unknownConstraints
  provenanceIds := slo.provenanceIds

/-- The envelope of an SLO. -/
def toGenericRequirementView (slo : IntelligenceSLO digest) :
    Except Fault (GenericIntelligenceRequirementEnvelope digest) :=
  GenericIntelligenceRequirementEnvelope.construct (viewFields slo)
    (digest.hexdigest (viewFields slo).payload)

theorem payload_canonicalized (fields : EnvelopeFields) :
    fields.canonicalized.payload = fields.payload := by
  have twice (texts : List String) : sortOn id (sortOn id texts) = sortOn id texts :=
    sortOn_eq_self id (sortOn_pairwise id texts)
  simp [EnvelopeFields.payload, EnvelopeFields.canonicalized, twice]

/-- The view succeeds exactly when its fields are valid, and then holds them with their lists in
order. -/
theorem toGenericRequirementView_eq_ok_iff {slo : IntelligenceSLO digest}
    {envelope : GenericIntelligenceRequirementEnvelope digest} :
    toGenericRequirementView slo = .ok envelope ↔
      ∃ valid : (viewFields slo).canonicalized.Valid,
        ⟨(viewFields slo).canonicalized, digest.hexdigest (viewFields slo).payload, valid,
          by rw [payload_canonicalized]⟩ = envelope := by
  unfold toGenericRequirementView GenericIntelligenceRequirementEnvelope.construct
  split
  next raised failed =>
    have invalid : ¬ (viewFields slo).canonicalized.Valid := fun valid =>
      nomatch failed.symm.trans (EnvelopeFields.validate_eq_ok_iff.mpr ⟨valid, rfl⟩)
    simp [invalid]
  next kept validated =>
    obtain ⟨valid, rfl⟩ := EnvelopeFields.validate_eq_ok_iff.mp validated
    simp [payload_canonicalized, valid]

theorem floors_of_view {slo : IntelligenceSLO digest}
    {envelope : GenericIntelligenceRequirementEnvelope digest}
    (exported : toGenericRequirementView slo = .ok envelope) :
    envelope.qualityFloor = exportedFloor "quality.primary" slo.requirements ∧
      envelope.confidenceFloor = exportedFloor "confidence.primary" slo.requirements := by
  obtain ⟨_, rfl⟩ := toGenericRequirementView_eq_ok_iff.mp exported
  exact ⟨rfl, rfl⟩

/-! ## Strictness -/

/-- A HARD requirement that bounds a metric from below. -/
def IntelligenceRequirement.IsFloor (metricId : String) (requirement : IntelligenceRequirement) :
    Prop :=
  requirement.metricId = metricId ∧ requirement.kind = .hard ∧ requirement.operator = some ">="

/-- Where a metric has a HARD floor, the floor of the envelope is defined, at least as high, and
taken from a HARD floor. -/
def KeepsFloor (metricId : String) (requirements : List IntelligenceRequirement)
    (floor : Option ℚ) : Prop :=
  ∀ requirement ∈ requirements, requirement.IsFloor metricId →
    ∃ source value, firstOn metricId requirements = some source ∧ source.IsFloor metricId ∧
      source.threshold = some value ∧ floor = some value ∧
      ∀ threshold ∈ requirement.threshold, threshold ≤ value

/-- The envelope keeps the HARD floors of the SLO. -/
def AtLeastAsStrict (slo : IntelligenceSLO digest)
    (envelope : GenericIntelligenceRequirementEnvelope digest) : Prop :=
  KeepsFloor "quality.primary" slo.requirements envelope.qualityFloor ∧
    KeepsFloor "confidence.primary" slo.requirements envelope.confidenceFloor

/-- Where a metric has a HARD floor, the first requirement on it is HARD. -/
def HardFirst (metricId : String) (requirements : List IntelligenceRequirement) : Prop :=
  ∀ requirement ∈ requirements, requirement.IsFloor metricId →
    ∀ first ∈ firstOn metricId requirements, first.kind = .hard

theorem mem_firstOn {metricId : String} {requirements : List IntelligenceRequirement}
    {first : IntelligenceRequirement} (isFirst : firstOn metricId requirements = some first) :
    first ∈ requirements ∧ first.metricId = metricId :=
  ⟨List.mem_of_find?_eq_some isFirst, by simpa using List.find?_some isFirst⟩

/-- Among consistent requirements a floor is kept exactly when the first requirement on its metric
is HARD. -/
theorem keepsFloor_iff {registry : MetricRegistry} {requirements : List IntelligenceRequirement}
    (consistent : Consistent registry requirements) (metricId : String) :
    KeepsFloor metricId requirements (exportedFloor metricId requirements) ↔
      HardFirst metricId requirements := by
  constructor
  · intro keeps requirement member isFloor first isFirst
    obtain ⟨source, _, isSource, ⟨_, hard, _⟩, _⟩ := keeps requirement member isFloor
    obtain rfl := Option.some_inj.mp (isSource.symm.trans isFirst)
    exact hard
  · intro hardFirst requirement member isFloor
    obtain ⟨metric, hard, operator⟩ := isFloor
    obtain ⟨first, isFirst⟩ : ∃ first, firstOn metricId requirements = some first :=
      Option.isSome_iff_exists.mp (List.find?_isSome.mpr ⟨requirement, member, by simp [metric]⟩)
    obtain ⟨firstMember, firstMetric⟩ := mem_firstOn isFirst
    have firstHard := hardFirst requirement member ⟨metric, hard, operator⟩ first isFirst
    have same := consistent.agree first firstMember requirement member
      (firstMetric.trans metric.symm) (firstHard.trans hard.symm)
    obtain ⟨sameOperator, sameThreshold⟩ := Prod.mk.inj same
    obtain ⟨_, value, _, hasValue⟩ := first.exists_comparison (by simp [firstHard])
    refine ⟨first, value, isFirst, ⟨firstMetric, firstHard, sameOperator.trans operator⟩, hasValue,
      by simp [exportedFloor, isFirst, hasValue], ?_⟩
    intro threshold isThreshold
    rw [Option.mem_def, ← sameThreshold, hasValue, Option.some_inj] at isThreshold
    exact isThreshold.ge

theorem consistent_of_valid {sla : ApplicationSLA} {registry : MetricRegistry} {version : Int}
    {previousVersionId : Option String} {slo : IntelligenceSLO digest} {reasons : List String}
    (compiled : compileSla digest sla registry version previousVersionId = .ok (slo, reasons))
    (valid : slo.status = .valid) : Consistent registry slo.requirements := by
  obtain ⟨normalized, _, _, rfl, _⟩ := compileSla_eq_ok compiled
  exact analyzeRequirements_valid_iff.mp valid

/-- The envelope exported for a valid SLO is at least as strict as the SLO exactly when, on each of
the two metrics where there is a HARD floor, the requirement with the least id is HARD. -/
theorem view_atLeastAsStrict_iff {sla : ApplicationSLA} {registry : MetricRegistry} {version : Int}
    {previousVersionId : Option String} {slo : IntelligenceSLO digest} {reasons : List String}
    {envelope : GenericIntelligenceRequirementEnvelope digest}
    (compiled : compileSla digest sla registry version previousVersionId = .ok (slo, reasons))
    (valid : slo.status = .valid) (exported : toGenericRequirementView slo = .ok envelope) :
    AtLeastAsStrict slo envelope ↔
      HardFirst "quality.primary" slo.requirements ∧
        HardFirst "confidence.primary" slo.requirements := by
  have consistent := consistent_of_valid compiled valid
  obtain ⟨quality, confidence⟩ := floors_of_view exported
  rw [AtLeastAsStrict, quality, confidence, keepsFloor_iff consistent, keepsFloor_iff consistent]

/-! ## A HARD and a SOFT floor -/

/-- A requirement on the primary quality: a HARD floor of 0.9, or a floor of 0.5. -/
def primaryQuality (requirementId : String) (kind : ConstraintKind)
    (visible : Text.Nonblank requirementId) : IntelligenceRequirement where
  requirementId := requirementId
  metricId := "quality.primary"
  kind := kind
  threshold := some (if kind = .hard then 0.9 else 0.5)
  operator := some ">="
  sourceId := "application"
  typed := by simp
  texts_nonblank := by simpa using ⟨visible, by decide, by decide⟩

theorem floorId_visible : Text.Nonblank "a" := by
  decide

theorem otherFloorId_visible : Text.Nonblank "b" := by
  decide

theorem floor_provenance : ["application"] ≠ [] := by
  simp

/-- An SLA with two requirements on the primary quality, of given kinds. -/
def twoFloors (first second : ConstraintKind) : ApplicationSLA where
  slaId := "sla"
  workloadClass := "interactive"
  requirements := [primaryQuality "a" first floorId_visible,
    primaryQuality "b" second otherFloorId_visible]
  provenanceIds := ["application"]
  provenance_given := floor_provenance

/-- The registry that defines the primary quality. -/
def qualityRegistry : MetricRegistry where
  metrics := [
    { metricId := "quality.primary", metricVersion := "v1", semanticMeaning := "quality"
      unit := "score", evaluatorId := "evaluator", evaluatorVersion := "v1"
      thresholdDirection := .minimum, aggregationRule := "mean", workloadClasses := ["interactive"]
      calibrationState := "UNCALIBRATED", provenanceIds := ["registry"]
      lists_canonical := by decide }]
  ids_nodup := by simp
  ids_sorted := rfl

/-- The first version of the SLO of two floors. -/
def twoFloorsSlo (digest : Digest) (first second : ConstraintKind) : IntelligenceSLO digest :=
  compiledSlo digest (twoFloors first second) qualityRegistry 1 none (by decide)

theorem compileSla_twoFloors (first second : ConstraintKind) :
    compileSla digest (twoFloors first second) qualityRegistry 1 none =
      .ok (twoFloorsSlo digest first second,
        (analyzeRequirements (twoFloors first second).requirements qualityRegistry).2) := by
  refine (compileSla_eq_ok_iff (by decide)).mpr ⟨_, ?_, rfl, rfl⟩
  refine normalizeSla_eq_ok_iff.mpr ⟨?_, ?_⟩
  · simp [twoFloors, primaryQuality]
  · rw [sortOn_eq_self]
    simp [twoFloors, primaryQuality]

/-- What the view needs of two floors of different known kinds. -/
theorem twoFloors_fit {first second : ConstraintKind}
    (kinds : first = .hard ∧ second = .soft ∨ first = .soft ∧ second = .hard) :
    (analyzeRequirements (twoFloors first second).requirements qualityRegistry).1 = .valid ∧
      (∀ floor ∈ [exportedFloor "quality.primary" (twoFloors first second).requirements,
        exportedFloor "confidence.primary" (twoFloors first second).requirements],
        ∀ value ∈ floor, 0 ≤ value ∧ value ≤ 1) ∧
      (∀ texts ∈ [idsOfKind .hard (twoFloors first second).requirements,
        idsOfKind .soft (twoFloors first second).requirements,
        idsOfKind .unknown (twoFloors first second).requirements,
        slaProvenance (twoFloors first second)], CanonicalTexts (sortOn id texts)) ∧
      sortOn id (slaProvenance (twoFloors first second)) ≠ [] := by
  rcases kinds with ⟨rfl, rfl⟩ | ⟨rfl, rfl⟩ <;> decide +kernel

theorem exists_view_twoFloors {first second : ConstraintKind}
    (kinds : first = .hard ∧ second = .soft ∨ first = .soft ∧ second = .hard) :
    ∃ envelope, toGenericRequirementView (twoFloorsSlo digest first second) = .ok envelope := by
  obtain ⟨_, floors, lists, provenance⟩ := twoFloors_fit kinds
  have valid : (viewFields (twoFloorsSlo digest first second)).canonicalized.Valid := by
    refine ⟨le_rfl, floors, ?_, ?_, provenance⟩
    · simpa [EnvelopeFields.canonicalized, viewFields, twoFloorsSlo, compiledSlo, addressOf] using
        ⟨digest.nonblank _, digest.nonblank _⟩
    · simpa [EnvelopeFields.canonicalized, viewFields, twoFloorsSlo, compiledSlo] using lists
  exact ⟨_, toGenericRequirementView_eq_ok_iff.mpr ⟨valid, rfl⟩⟩

/-- A HARD floor that comes first is kept. -/
theorem view_atLeastAsStrict_hard_first : ∃ envelope,
    toGenericRequirementView (twoFloorsSlo .sha256 .hard .soft) = .ok envelope ∧
      AtLeastAsStrict (twoFloorsSlo .sha256 .hard .soft) envelope := by
  obtain ⟨envelope, exported⟩ := exists_view_twoFloors (.inl ⟨rfl, rfl⟩)
  refine ⟨envelope, exported, (view_atLeastAsStrict_iff (compileSla_twoFloors .hard .soft)
    (twoFloors_fit (.inl ⟨rfl, rfl⟩)).1 exported).mpr ⟨?_, ?_⟩⟩
  · intro requirement _ _ first isFirst
    exact (Option.some_inj.mp isFirst) ▸ rfl
  · intro requirement _ _ first isFirst
    have none : firstOn "confidence.primary" (twoFloors .hard .soft).requirements = none := by
      decide +kernel
    exact absurd (none.symm.trans isFirst) (by simp)

/-- A SOFT floor with a lesser id takes the place of a HARD one. -/
theorem view_exports_soft_floor :
    ¬ ∀ (sla : ApplicationSLA) (registry : MetricRegistry) (version : Int)
      (previousVersionId : Option String) (slo : IntelligenceSLO .sha256) (reasons : List String)
      (envelope : GenericIntelligenceRequirementEnvelope .sha256),
      compileSla .sha256 sla registry version previousVersionId = .ok (slo, reasons) →
      slo.status = .valid → toGenericRequirementView slo = .ok envelope →
      AtLeastAsStrict slo envelope := by
  intro claim
  obtain ⟨envelope, exported⟩ := exists_view_twoFloors (.inr ⟨rfl, rfl⟩)
  have strict := claim _ _ _ _ _ _ envelope (compileSla_twoFloors .soft .hard)
    (twoFloors_fit (.inr ⟨rfl, rfl⟩)).1 exported
  obtain ⟨source, _, isSource, ⟨_, hard, _⟩, _⟩ :=
    strict.1 (primaryQuality "b" .hard otherFloorId_visible)
      (by simp [twoFloorsSlo, compiledSlo, twoFloors]) ⟨rfl, rfl, rfl⟩
  have soft : source = primaryQuality "a" .soft floorId_visible :=
    (Option.some_inj.mp isSource).symm
  rw [soft] at hard
  exact absurd hard (by decide)

end IntelligenceSlo
end MercuryX
