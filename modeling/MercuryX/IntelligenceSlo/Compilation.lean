import MercuryX.IntelligenceSlo.Integration

/-!
# What compilation guarantees

The constructor of an SLO verifies its content address again. An SLA compiles exactly when the ids
of its requirements are distinct and the version exists. The SLO then depends on the requirements
and not on their order, is valid exactly when they are consistent, lists their ids by kind, and is
accepted by its own constructor.
-/

namespace MercuryX
namespace IntelligenceSlo

open Foundation

/-! ## The constructor of an SLO -/

/-- The fields of an SLO, before validation. -/
structure SloFields where
  intelligenceSloId : String
  sourceSlaId : String
  version : Int
  previousVersionId : Option String := none
  requirements : List IntelligenceRequirement
  status : CompilationStatus
  hardConstraints : List String := []
  softConstraints : List String := []
  unknownConstraints : List String := []
  provenanceIds : List String := []
  fingerprint : String
  workloadClass : String
  metricRegistryFingerprint : String

/-- The content that the fingerprint covers. -/
def SloFields.body (fields : SloFields) : Json :=
  sloBody fields.sourceSlaId fields.version fields.requirements fields.status
    fields.previousVersionId fields.workloadClass fields.metricRegistryFingerprint

variable (digest : Digest)

/-- Validate the fields of an SLO. -/
def IntelligenceSLO.construct (fields : SloFields) : Except Fault (IntelligenceSLO digest) :=
  if version_pos : 1 ≤ fields.version then
    if addressed : Addressed digest "intelligence_slo" fields.body fields.intelligenceSloId
        fields.fingerprint then
      .ok {
        intelligenceSloId := fields.intelligenceSloId
        sourceSlaId := fields.sourceSlaId
        version := fields.version
        previousVersionId := fields.previousVersionId
        requirements := fields.requirements
        status := fields.status
        hardConstraints := fields.hardConstraints
        softConstraints := fields.softConstraints
        unknownConstraints := fields.unknownConstraints
        provenanceIds := fields.provenanceIds
        fingerprint := fields.fingerprint
        workloadClass := fields.workloadClass
        metricRegistryFingerprint := fields.metricRegistryFingerprint
        version_pos := version_pos
        addressed := addressed }
    else
      .error (.validation "IntelligenceSLO" ""
        "Value error, intelligence SLO fingerprint mismatch")
  else
    .error (.validation "IntelligenceSLO" "version" "Input should be greater than or equal to 1")

/-- What compilation hands to the constructor for an SLA that was normalized. -/
def compiledFields (sla : ApplicationSLA) (registry : MetricRegistry) (version : Int)
    (previousVersionId : Option String) : SloFields :=
  let status := (analyzeRequirements sla.requirements registry).1
  let fp := digest.hexdigest (sloBody sla.slaId version sla.requirements status previousVersionId
    sla.workloadClass (registry.fingerprint digest))
  { intelligenceSloId := addressOf digest "intelligence_slo" fp
    sourceSlaId := sla.slaId
    version := version
    previousVersionId := previousVersionId
    requirements := sla.requirements
    status := status
    hardConstraints := idsOfKind .hard sla.requirements
    softConstraints := idsOfKind .soft sla.requirements
    unknownConstraints := idsOfKind .unknown sla.requirements
    provenanceIds := slaProvenance sla
    fingerprint := fp
    workloadClass := sla.workloadClass
    metricRegistryFingerprint := registry.fingerprint digest }

variable {digest}

/-- The constructor accepts what compilation hands to it, as the SLO of the normalized SLA. -/
theorem construct_compiledFields (sla : ApplicationSLA) (registry : MetricRegistry)
    {version : Int} (previousVersionId : Option String) (version_pos : 1 ≤ version) :
    IntelligenceSLO.construct digest (compiledFields digest sla registry version previousVersionId)
      = .ok (compiledSlo digest sla registry version previousVersionId version_pos) := by
  have addressed : Addressed digest "intelligence_slo"
      (compiledFields digest sla registry version previousVersionId).body
      (compiledFields digest sla registry version previousVersionId).intelligenceSloId
      (compiledFields digest sla registry version previousVersionId).fingerprint := ⟨rfl, rfl⟩
  exact (dif_pos version_pos).trans (dif_pos addressed)

theorem compileSla_eq_construct (sla : ApplicationSLA) (registry : MetricRegistry) (version : Int)
    (previousVersionId : Option String) :
    compileSla digest sla registry version previousVersionId = (do
      let sla ← normalizeSla sla
      let slo ← IntelligenceSLO.construct digest
        (compiledFields digest sla registry version previousVersionId)
      return (slo, (analyzeRequirements sla.requirements registry).2)) := by
  unfold compileSla
  refine bind_congr fun normalized => ?_
  by_cases version_pos : 1 ≤ version
  · rw [dif_pos version_pos, construct_compiledFields _ _ _ version_pos]
    rfl
  · have refused : IntelligenceSLO.construct digest
        (compiledFields digest normalized registry version previousVersionId) = _ :=
      dif_neg version_pos
    rw [dif_neg version_pos, refused]
    rfl

/-! ## The ids by kind -/

theorem mem_idsOfKind {kind : ConstraintKind} {requirements : List IntelligenceRequirement}
    {requirementId : String} : requirementId ∈ idsOfKind kind requirements ↔
      ∃ requirement ∈ requirements, requirement.kind = kind ∧
        requirement.requirementId = requirementId := by
  simp [idsOfKind, and_assoc]

theorem idsOfKind_perm (requirements : List IntelligenceRequirement) :
    List.Perm (idsOfKind .hard requirements ++ idsOfKind .soft requirements ++
      idsOfKind .unknown requirements)
      (requirements.map IntelligenceRequirement.requirementId) := by
  have split : List.Perm
      (requirements.filter (fun requirement => requirement.kind = .hard) ++
        requirements.filter (fun requirement => requirement.kind = .soft) ++
        requirements.filter fun requirement => requirement.kind = .unknown) requirements := by
    induction requirements with
    | nil => exact .nil
    | cons requirement rest induction =>
        cases kind : requirement.kind with
        | hard => simpa [kind] using induction
        | soft =>
            refine .trans ?_ (induction.cons requirement)
            simp [kind]
        | unknown =>
            refine .trans ?_ (induction.cons requirement)
            simpa [kind] using @List.perm_middle _ requirement (_ ++ _) _
  refine .trans ?_ (split.map IntelligenceRequirement.requirementId)
  simp only [List.map_append]
  exact ((sortOn_perm id _).append (sortOn_perm id _)).append (sortOn_perm id _)

/-! ## The outcome of a compilation -/

theorem Consistent.congr {registry : MetricRegistry} {left right : List IntelligenceRequirement}
    (same : ∀ requirement, requirement ∈ left ↔ requirement ∈ right) :
    Consistent registry left ↔ Consistent registry right := by
  suffices half : ∀ {left right : List IntelligenceRequirement},
      (∀ requirement, requirement ∈ left → requirement ∈ right) → Consistent registry right →
        Consistent registry left from
    ⟨half fun requirement => (same requirement).mpr, half fun requirement => (same requirement).mp⟩
  intro left right inside consistent
  exact ⟨fun requirement member => consistent.defined requirement (inside _ member),
    fun requirement member => consistent.known requirement (inside _ member),
    fun first firstMember second secondMember =>
      consistent.agree first (inside _ firstMember) second (inside _ secondMember)⟩

/-- What an SLO keeps of the SLA that it was compiled from. -/
structure CompiledFrom (sla : ApplicationSLA) (registry : MetricRegistry) (version : Int)
    (previousVersionId : Option String) (slo : IntelligenceSLO digest) (reasons : List String) :
    Prop where
  /-- Every order of the requirements compiles to the SLO. -/
  permuted : ∀ requirements, List.Perm requirements sla.requirements →
    compileSla digest { sla with requirements := requirements } registry version
      previousVersionId = .ok (slo, reasons)
  /-- The SLO is valid exactly when the requirements are consistent. -/
  valid_iff : slo.status = .valid ↔ Consistent registry sla.requirements
  /-- The ids are distinct, and each is listed under one kind. -/
  partitioned : (slo.hardConstraints ++ slo.softConstraints ++ slo.unknownConstraints).Nodup ∧
    List.Perm (slo.hardConstraints ++ slo.softConstraints ++ slo.unknownConstraints)
      (sla.requirements.map IntelligenceRequirement.requirementId)
  /-- An id is listed under the kind of its requirement. -/
  listed : ∀ requirement ∈ sla.requirements,
    (requirement.requirementId ∈ slo.hardConstraints ↔ requirement.kind = .hard) ∧
    (requirement.requirementId ∈ slo.softConstraints ↔ requirement.kind = .soft) ∧
    (requirement.requirementId ∈ slo.unknownConstraints ↔ requirement.kind = .unknown)
  /-- The constructor accepts what compilation hands to it. -/
  accepted : ∀ normalized, normalizeSla sla = .ok normalized →
    IntelligenceSLO.construct digest
      (compiledFields digest normalized registry version previousVersionId) = .ok slo

section Outcome

variable {sla : ApplicationSLA} {registry : MetricRegistry} {version : Int}
  {previousVersionId : Option String}

theorem normalizeSla_of_perm
    (distinct : (sla.requirements.map IntelligenceRequirement.requirementId).Nodup)
    {requirements : List IntelligenceRequirement} (perm : List.Perm requirements sla.requirements) :
    normalizeSla { sla with requirements := requirements } = .ok { sla with
      requirements := sortOn IntelligenceRequirement.requirementId sla.requirements } := by
  have alsoDistinct := (perm.map IntelligenceRequirement.requirementId).nodup_iff.mpr distinct
  refine normalizeSla_eq_ok_iff.mpr ⟨alsoDistinct, ?_⟩
  have same := sortOn_eq_of_perm (fun _ left _ right equal =>
    List.inj_on_of_nodup_map alsoDistinct left right equal) perm
  simp only [same]

/-- With distinct ids and a version that exists, compilation keeps what it should. -/
theorem compiledFrom_of_distinct
    (distinct : (sla.requirements.map IntelligenceRequirement.requirementId).Nodup)
    (version_pos : 1 ≤ version) :
    CompiledFrom sla registry version previousVersionId
      (compiledSlo digest { sla with
        requirements := sortOn IntelligenceRequirement.requirementId sla.requirements }
        registry version previousVersionId version_pos)
      (analyzeRequirements (sortOn IntelligenceRequirement.requirementId sla.requirements)
        registry).2 := by
  have sorted := sortOn_perm IntelligenceRequirement.requirementId sla.requirements
  have parts := (idsOfKind_perm (sortOn IntelligenceRequirement.requirementId
    sla.requirements)).trans (sorted.map IntelligenceRequirement.requirementId)
  constructor
  case permuted =>
    intro requirements perm
    exact (compileSla_eq_ok_iff version_pos).mpr ⟨_, normalizeSla_of_perm distinct perm, rfl, rfl⟩
  case valid_iff =>
    exact analyzeRequirements_valid_iff.trans (Consistent.congr fun _ => sorted.mem_iff)
  case partitioned => exact ⟨parts.nodup_iff.mpr distinct, parts⟩
  case listed =>
    intro requirement member
    have underItsKind : ∀ kind, requirement.requirementId ∈ idsOfKind kind
        (sortOn IntelligenceRequirement.requirementId sla.requirements) ↔
          requirement.kind = kind := by
      intro kind
      rw [mem_idsOfKind]
      constructor
      · rintro ⟨other, otherMember, rfl, same⟩
        rw [List.inj_on_of_nodup_map distinct (sorted.mem_iff.mp otherMember) member same]
      · exact fun itsKind => ⟨requirement, sorted.mem_iff.mpr member, itsKind, rfl⟩
    exact ⟨underItsKind .hard, underItsKind .soft, underItsKind .unknown⟩
  case accepted =>
    intro normalized outcome
    obtain ⟨_, rfl⟩ := normalizeSla_eq_ok_iff.mp outcome
    exact construct_compiledFields _ _ _ version_pos

/-- An SLA compiles, with all that compilation should keep, exactly when the ids of its
requirements are distinct and the version exists. -/
theorem exists_compiledFrom_iff (sla : ApplicationSLA) (registry : MetricRegistry) (version : Int)
    (previousVersionId : Option String) :
    (∃ (slo : IntelligenceSLO digest) (reasons : List String),
      CompiledFrom sla registry version previousVersionId slo reasons) ↔
      (sla.requirements.map IntelligenceRequirement.requirementId).Nodup ∧ 1 ≤ version := by
  constructor
  · rintro ⟨slo, reasons, compiled⟩
    obtain ⟨_, version_pos, normal, _⟩ := compileSla_eq_ok (compiled.permuted _ (.refl _))
    exact ⟨(normalizeSla_eq_ok_iff.mp normal).1, version_pos⟩
  · rintro ⟨distinct, version_pos⟩
    exact ⟨_, _, compiledFrom_of_distinct distinct version_pos⟩

end Outcome

/-! ## A requirement listed twice -/

/-- An SLA that lists one HARD floor twice. -/
def repeatedFloor : ApplicationSLA where
  slaId := "sla"
  workloadClass := "interactive"
  requirements := [primaryQuality "a" .hard floorId_visible,
    primaryQuality "a" .hard floorId_visible]
  provenanceIds := ["application"]
  provenance_given := floor_provenance

/-- A floor listed twice is consistent, and it does not compile. -/
theorem repeatedFloor_not_compiled :
    Consistent qualityRegistry repeatedFloor.requirements ∧
      ¬ ∃ (slo : IntelligenceSLO .sha256) (reasons : List String),
        CompiledFrom repeatedFloor qualityRegistry 1 none slo reasons := by
  constructor
  · refine ⟨?_, ?_, ?_⟩ <;> simp [repeatedFloor, primaryQuality, qualityRegistry]
  · rintro ⟨slo, reasons, compiled⟩
    obtain ⟨_, _, normal, _⟩ := compileSla_eq_ok (compiled.permuted _ (.refl _))
    have distinct := (normalizeSla_eq_ok_iff.mp normal).1
    simp [repeatedFloor] at distinct

end IntelligenceSlo
end MercuryX
