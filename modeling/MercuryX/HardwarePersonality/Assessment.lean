import MercuryX.HardwarePersonality.Compatibility
import MercuryX.HardwarePersonality.Lineage

/-!
# What evidence says

The records about a property are read as a set of answers: what the verified records among them say.
A capability is assessed by that set alone, so that neither the order of the records nor an
unverified one bears on it, and more evidence either keeps an assessment or disputes it. A profile
is compatible with a requirement only on the word of verified records that none contradicts.
-/

namespace MercuryX
namespace HardwarePersonality

open Foundation

variable {digest : Digest}

/-! ## Answers -/

/-- What the verified records about a property say of its support. -/
def answers (evidence : List (HardwareEvidenceRecord digest)) (propertyName : String) : Set Bool :=
  {answer | ∃ item ∈ evidence, item.propertyName = propertyName ∧ item.verificationStatus = true ∧
    parseSupport (item.observedValue.or item.declaredValue) = some answer}

section Answers

variable {evidence others : List (HardwareEvidenceRecord digest)} {propertyName : String}

theorem answers_mono (more : evidence ⊆ others) :
    answers evidence propertyName ⊆ answers others propertyName := by
  rintro answer ⟨item, member, facts⟩
  exact ⟨item, more member, facts⟩

/-- Records that are not verified say nothing. -/
theorem answers_eq_of_verified (more : evidence ⊆ others)
    (unverified : ∀ item ∈ others, item.verificationStatus = true → item ∈ evidence) :
    answers others propertyName = answers evidence propertyName := by
  refine Set.Subset.antisymm ?_ (answers_mono more)
  rintro answer ⟨item, member, named, verified, said⟩
  exact ⟨item, unverified item member verified, named, verified, said⟩

theorem answers_sortOn {key : HardwareEvidenceRecord digest → String} :
    answers (sortOn key evidence) propertyName = answers evidence propertyName := by
  simp only [answers, mem_sortOn]

theorem mem_votes_iff {answer : Bool} :
    answer ∈ votes (sortOn (fun item => item.evidenceId)
      (evidence.filter fun item => item.propertyName = propertyName)) ↔
      answer ∈ answers evidence propertyName := by
  simp only [votes, List.mem_filterMap, List.mem_filter, mem_sortOn, decide_eq_true_eq, answers,
    Set.mem_ofPred_eq]
  constructor
  · rintro ⟨item, ⟨⟨member, named⟩, verified⟩, said⟩
    exact ⟨item, member, named, verified, said⟩
  · rintro ⟨item, member, named, verified, said⟩
    exact ⟨item, ⟨⟨member, named⟩, verified⟩, said⟩

end Answers

/-! ## Sets of answers -/

theorem eq_singleton_iff (said : Set Bool) (answer : Bool) :
    said = {answer} ↔ answer ∈ said ∧ (!answer) ∉ said := by
  constructor
  · rintro rfl
    simp
  · rintro ⟨member, other⟩
    ext given
    by_cases same : given = answer
    · simp [same, member]
    · have opposite : given = !answer := by cases given <;> cases answer <;> simp_all
      simp [opposite, other]

/-! ## Assessments -/

/-- An assessment reads a set of answers. -/
structure Reads (assessment : CapabilityAssessment) (said : Set Bool) : Prop where
  /-- Support takes that every answer affirms it. -/
  capable : assessment.supportState = .capable ↔ said = {true}
  /-- Its lack takes that every answer denies it. -/
  incapable : assessment.supportState = .incapable ↔ said = {false}
  /-- A conflict is a dispute. -/
  conflict : assessment.conflict = true ↔ true ∈ said ∧ false ∈ said

namespace Reads

variable {assessment later : CapabilityAssessment} {said more : Set Bool}

/-- One set of answers is read in one way. -/
theorem unique (reads : Reads assessment said) (alsoReads : Reads later said) :
    later.supportState = assessment.supportState ∧ later.conflict = assessment.conflict := by
  constructor
  · cases state : assessment.supportState with
    | capable => exact alsoReads.capable.mpr (reads.capable.mp state)
    | incapable => exact alsoReads.incapable.mpr (reads.incapable.mp state)
    | unknown =>
        cases laterState : later.supportState with
        | unknown => rfl
        | capable =>
            have capable := reads.capable.mpr (alsoReads.capable.mp laterState)
            rw [state] at capable
            contradiction
        | incapable =>
            have incapable := reads.incapable.mpr (alsoReads.incapable.mp laterState)
            rw [state] at incapable
            contradiction
  · exact Bool.eq_iff_iff.mpr (alsoReads.conflict.trans reads.conflict.symm)

/-- More answers dispute what was said or leave it, and do not settle a dispute. -/
theorem grown (reads : Reads assessment said) (laterReads : Reads later more)
    (grows : said ⊆ more) :
    (assessment.conflict = true → later.conflict = true) ∧
      (assessment.supportState ≠ .unknown →
        later.supportState = assessment.supportState ∨ later.conflict = true) := by
  refine ⟨fun conflict => ?_, fun known => ?_⟩
  · obtain ⟨affirmed, denied⟩ := reads.conflict.mp conflict
    exact laterReads.conflict.mpr ⟨grows affirmed, grows denied⟩
  · cases state : assessment.supportState with
    | unknown => exact absurd state known
    | capable =>
        have affirmed : true ∈ said := reads.capable.mp state ▸ rfl
        by_cases denied : false ∈ more
        · exact .inr (laterReads.conflict.mpr ⟨grows affirmed, denied⟩)
        · exact .inl (laterReads.capable.mpr
            ((eq_singleton_iff more true).mpr ⟨grows affirmed, denied⟩))
    | incapable =>
        have denied : false ∈ said := reads.incapable.mp state ▸ rfl
        by_cases affirmed : true ∈ more
        · exact .inr (laterReads.conflict.mpr ⟨affirmed, grows denied⟩)
        · exact .inl (laterReads.incapable.mpr
            ((eq_singleton_iff more false).mpr ⟨grows denied, affirmed⟩))

end Reads

section Resolution

variable {evidence : List (HardwareEvidenceRecord digest)} {propertyName : String}
  {assessment : CapabilityAssessment}

theorem support_iff (affirmed denied : Prop) [Decidable affirmed] [Decidable denied] :
    let support : CapabilitySupportState :=
      if affirmed ∧ denied then .unknown else if affirmed then .capable
      else if denied then .incapable else .unknown
    (support = .capable ↔ affirmed ∧ ¬ denied) ∧ (support = .incapable ↔ denied ∧ ¬ affirmed) := by
  by_cases isAffirmed : affirmed <;> by_cases isDenied : denied <;> simp [isAffirmed, isDenied]

theorem reads_of_resolved (resolved : resolveCapability evidence propertyName = .ok assessment) :
    Reads assessment (answers evidence propertyName) := by
  obtain ⟨valid, rfl⟩ := CapabilityAssessment.construct_eq_ok_iff.mp resolved
  constructor
  case conflict =>
    simp only [CapabilityAssessment.make, Bool.and_eq_true, decide_eq_true_eq, mem_votes_iff]
  case capable =>
    rw [eq_singleton_iff, ← mem_votes_iff, ← mem_votes_iff]
    simpa [CapabilityAssessment.make] using (support_iff _ _).1
  case incapable =>
    rw [eq_singleton_iff, ← mem_votes_iff, ← mem_votes_iff]
    simpa [CapabilityAssessment.make] using (support_iff _ _).2

theorem mem_evidenceRecordIds_iff
    (resolved : resolveCapability evidence propertyName = .ok assessment) {evidenceId : String} :
    evidenceId ∈ assessment.evidenceRecordIds ↔
      ∃ item ∈ evidence, item.propertyName = propertyName ∧ item.evidenceId = evidenceId := by
  obtain ⟨valid, rfl⟩ := CapabilityAssessment.construct_eq_ok_iff.mp resolved
  simp only [CapabilityAssessment.make, evidenceIds, List.mem_map, mem_sortOn, List.mem_filter,
    decide_eq_true_eq, and_assoc]

end Resolution

/-! ## Built profiles -/

section Built

variable {request : ProfileRequest digest} {profile : HardwarePersonalityProfile digest}

/-- The assessments of a built profile are made from its evidence, and its supported precisions and
affinities from them. -/
theorem matrix_of_build (built : buildHardwarePersonalityProfile request = .ok profile) :
    buildCapabilityMatrix (sortOn (fun item => item.evidenceId) request.evidence) =
        .ok profile.capabilities ∧
      profile.supportedPrecisions = supportedPrecisions profile.capabilities ∧
      deriveWorkloadAffinities request.descriptor profile.capabilities
        (sortOn (fun item => item.evidenceId) request.evidence) =
          .ok profile.workloadAffinities := by
  simp only [buildHardwarePersonalityProfile, requireMeasuredBandwidthEvidence, bind_eq_ok,
    require_eq_ok, exists_and_left, exists_const,
    HardwarePersonalityProfile.construct_eq_ok_iff] at built
  obtain ⟨_, _, _, _, _, capabilities, assessed, affinities, derived, _, _, rfl⟩ := built
  exact ⟨assessed, rfl, derived⟩

/-- A profile does not depend on the order of the evidence. -/
theorem build_perm (built : buildHardwarePersonalityProfile request = .ok profile)
    {others : List (HardwareEvidenceRecord digest)} (perm : others.Perm request.evidence) :
    buildHardwarePersonalityProfile { request with evidence := others } = .ok profile := by
  have distinct := distinct_of_build built
  have separates : Separates (fun item : HardwareEvidenceRecord digest => item.evidenceId)
      request.evidence :=
    fun _ left _ right same => List.inj_on_of_nodup_map distinct left right same
  have sorted : sortOn (fun item : HardwareEvidenceRecord digest => item.evidenceId) others =
      sortOn (fun item => item.evidenceId) request.evidence :=
    (sortOn_eq_of_perm separates perm.symm).symm
  simp only [buildHardwarePersonalityProfile, sorted] at built ⊢
  have sameFields (capabilities : List CapabilityAssessment)
      (affinities : List HardwareWorkloadAffinity) :
      profileFields { request with evidence := others } capabilities affinities =
        profileFields request capabilities affinities := by
    simp only [profileFields, profileContent, sorted]
  simpa only [sameFields] using built

/-- What an affinity that is not unknown stands on. -/
def AffinityGround (evidence : List (HardwareEvidenceRecord digest)) :
    HardwareAffinityDimension → Prop
  | .prefillAffinity | .decodeAffinity | .embeddingAffinity | .trainingAffinity
  | .fineTuningAffinity => ∃ precision : HardwarePrecision,
      precision ∈ [.fp16, .bf16, .fp8, .int8] ∧
        answers evidence ("precision." ++ precision.value) = {true}
  | .memoryIntensityTolerance => ∃ item ∈ evidence, item.verificationStatus = true ∧
      item.propertyName ∈ ["memory.capacity_bytes", "descriptor.memory_capacity_bytes"]
  | .communicationIntensityTolerance => answers evidence "interconnect.peer_to_peer" = {true} ∨
      answers evidence "runtime.remote_execution" = {true}
  | .retrievalAffinity | .toolWorkloadAffinity =>
      answers evidence "runtime.remote_execution" = {true}

/-- A profile says what its evidence says. -/
structure Assessed (recorded : Recorded digest) : Prop where
  /-- Every name that is to be assessed has its assessment. -/
  names : ∀ name, name ∈ capabilityNames recorded.evidence ↔
    ∃ assessment ∈ recorded.profile.capabilities, assessment.propertyName = name
  /-- Every assessment reads the answers about its name. -/
  reads : ∀ assessment ∈ recorded.profile.capabilities,
    Reads assessment (answers recorded.evidence assessment.propertyName)
  /-- It lists the records about its name, verified or not. -/
  listed : ∀ assessment ∈ recorded.profile.capabilities, ∀ evidenceId,
    evidenceId ∈ assessment.evidenceRecordIds ↔ ∃ item ∈ recorded.evidence,
      item.propertyName = assessment.propertyName ∧ item.evidenceId = evidenceId
  /-- The supported precisions are those that every answer affirms. -/
  precisions : ∀ precision, precision ∈ recorded.profile.supportedPrecisions ↔
    answers recorded.evidence ("precision." ++ precision.value) = {true}
  /-- Affinities stand on what every answer affirms. -/
  affinities : ∀ affinity ∈ recorded.profile.workloadAffinities, affinity.level ≠ .unknown →
    AffinityGround recorded.evidence affinity.dimension

theorem mem_capabilityNames_certified (evidence : List (HardwareEvidenceRecord digest))
    {name : String} (certified : name ∈ certifiedCapabilities) : name ∈ capabilityNames evidence :=
  (mem_canonical id).mpr (List.mem_append_left _ certified)

theorem precision_certified (precision : HardwarePrecision) :
    "precision." ++ precision.value ∈ certifiedCapabilities :=
  List.mem_append_left _ (List.mem_map_of_mem (by cases precision <;> decide))

/-- Every assessed name has its assessment, and every assessment reads the answers about its
name. -/
theorem assessments_of_build (built : buildHardwarePersonalityProfile request = .ok profile) :
    (∀ name, name ∈ capabilityNames request.evidence ↔
      ∃ assessment ∈ profile.capabilities, assessment.propertyName = name) ∧
    ∀ assessment ∈ profile.capabilities,
      Reads assessment (answers request.evidence assessment.propertyName) ∧
      ∀ evidenceId, evidenceId ∈ assessment.evidenceRecordIds ↔ ∃ item ∈ request.evidence,
        item.propertyName = assessment.propertyName ∧ item.evidenceId = evidenceId := by
  have assessed := (matrix_of_build built).1
  have trimmed := capabilityNames_trimmed
    (sortOn (fun item : HardwareEvidenceRecord digest => item.evidenceId) request.evidence)
  have names : ∀ name, name ∈ capabilityNames
      (sortOn (fun item : HardwareEvidenceRecord digest => item.evidenceId) request.evidence) ↔
      name ∈ capabilityNames request.evidence := by
    intro name
    simp only [capabilityNames, mem_canonical, List.mem_append, List.mem_filter, List.mem_map,
      mem_sortOn]
  constructor
  · intro name
    rw [← names]
    constructor
    · intro member
      obtain ⟨assessment, inMatrix, resolved⟩ := exists_of_mapM_eq_ok assessed member
      refine ⟨assessment, inMatrix, ?_⟩
      rw [propertyName_of_resolved resolved, (trimmed name member).strip_eq]
    · rintro ⟨assessment, inMatrix, rfl⟩
      obtain ⟨name, member, resolved⟩ := (mem_of_mapM_eq_ok assessed).mp inMatrix
      rw [propertyName_of_resolved resolved, (trimmed name member).strip_eq]
      exact member
  · intro assessment inMatrix
    obtain ⟨name, member, resolved⟩ := (mem_of_mapM_eq_ok assessed).mp inMatrix
    have named : assessment.propertyName = name := by
      rw [propertyName_of_resolved resolved, (trimmed name member).strip_eq]
    rw [named]
    refine ⟨answers_sortOn ▸ reads_of_resolved resolved, fun evidenceId => ?_⟩
    rw [mem_evidenceRecordIds_iff resolved]
    simp only [mem_sortOn]

theorem capable_iff_of_build (built : buildHardwarePersonalityProfile request = .ok profile)
    {name : String} : profile.Capable name ↔
      name ∈ capabilityNames request.evidence ∧ answers request.evidence name = {true} := by
  obtain ⟨names, reads⟩ := assessments_of_build built
  constructor
  · rintro ⟨assessment, member, rfl, capable⟩
    exact ⟨(names _).mpr ⟨assessment, member, rfl⟩, (reads assessment member).1.capable.mp capable⟩
  · rintro ⟨assessed, said⟩
    obtain ⟨assessment, member, rfl⟩ := (names name).mp assessed
    exact ⟨assessment, member, rfl, (reads assessment member).1.capable.mpr said⟩

/-- What affinities are derived from. -/
theorem capable_eq_true_iff {name : String} :
    capable profile.capabilities name = true ↔ profile.Capable name := by
  have distinct : (profile.capabilities.map CapabilityAssessment.propertyName).Nodup :=
    profile.names_canonical (profile.capabilities.map CapabilityAssessment.propertyName)
      (by simp) ▸ canonical_nodup id _
  simp only [capable, decide_eq_true_eq, Option.map_eq_some_iff,
    Dict.indexed_get?_eq_some_iff distinct, HardwarePersonalityProfile.Capable, and_assoc]

theorem condition_of_known {condition : Prop} [Decidable condition]
    {derived : HardwareAffinityLevel × String} {reason : String}
    (known : (if condition then derived else (.unknown, reason)).1 ≠ .unknown) : condition := by
  by_contra fails
  rw [if_neg fails] at known
  exact known rfl

theorem known_of_deriveAffinity {descriptor : HardwareDescriptor}
    {capabilities : List CapabilityAssessment} {verified : List (HardwareEvidenceRecord digest)}
    {dimension : HardwareAffinityDimension}
    (known : (deriveAffinity descriptor capabilities verified dimension).1 ≠ .unknown) :
    match dimension with
    | .prefillAffinity | .decodeAffinity | .embeddingAffinity | .trainingAffinity
    | .fineTuningAffinity => ∃ name ∈ ["precision.FP16", "precision.BF16", "precision.FP8",
        "precision.INT8"], capable capabilities name = true
    | .memoryIntensityTolerance => memoryKnown descriptor verified = true
    | .communicationIntensityTolerance => capable capabilities "interconnect.peer_to_peer" = true ∨
        capable capabilities "runtime.remote_execution" = true
    | .retrievalAffinity | .toolWorkloadAffinity =>
        capable capabilities "runtime.remote_execution" = true := by
  have told : ¬ verified.isEmpty = true := by
    intro silent
    rw [deriveAffinity.eq_def, if_pos silent] at known
    exact known rfl
  rw [deriveAffinity.eq_def, if_neg told] at known
  cases dimension
  case memoryIntensityTolerance => exact condition_of_known known
  case communicationIntensityTolerance =>
    by_cases joined : capable capabilities "interconnect.peer_to_peer" = true
    · exact .inl joined
    · rw [if_neg joined] at known
      exact .inr (condition_of_known known)
  case retrievalAffinity => exact condition_of_known known
  case toolWorkloadAffinity => exact condition_of_known known
  all_goals exact List.any_eq_true.mp (condition_of_known known)

theorem affinityGround_of_build (built : buildHardwarePersonalityProfile request = .ok profile)
    {affinity : HardwareWorkloadAffinity} (member : affinity ∈ profile.workloadAffinities)
    (known : affinity.level ≠ .unknown) : AffinityGround request.evidence affinity.dimension := by
  obtain ⟨dimension, _, derived⟩ := (mem_of_mapM_eq_ok (matrix_of_build built).2.2).mp member
  obtain ⟨_, rfl⟩ := HardwareWorkloadAffinity.construct_eq_ok_iff.mp derived
  have affirmed {name : String} (isCapable : capable profile.capabilities name = true) :
      answers request.evidence name = {true} :=
    ((capable_iff_of_build built).mp (capable_eq_true_iff.mp isCapable)).2
  have derivedFrom := known_of_deriveAffinity known
  cases dimension
  case memoryIntensityTolerance =>
    simp only [memoryKnown, Bool.and_eq_true, List.any_eq_true, mem_sortOn, List.mem_filter,
      decide_eq_true_eq] at derivedFrom
    obtain ⟨_, item, ⟨inEvidence, verified⟩, named⟩ := derivedFrom
    exact ⟨item, inEvidence, verified, named⟩
  case communicationIntensityTolerance => exact derivedFrom.imp affirmed affirmed
  case retrievalAffinity => exact affirmed derivedFrom
  case toolWorkloadAffinity => exact affirmed derivedFrom
  all_goals
    obtain ⟨name, listed, isCapable⟩ := derivedFrom
    simp only [List.mem_cons, List.not_mem_nil, or_false] at listed
    obtain rfl | rfl | rfl | rfl := listed
    · exact ⟨.fp16, by simp, affirmed isCapable⟩
    · exact ⟨.bf16, by simp, affirmed isCapable⟩
    · exact ⟨.fp8, by simp, affirmed isCapable⟩
    · exact ⟨.int8, by simp, affirmed isCapable⟩

/-- A built profile says what its evidence says. -/
theorem assessed_of_build (built : buildHardwarePersonalityProfile request = .ok profile) :
    Assessed ⟨profile, request.evidence⟩ where
  names := (assessments_of_build built).1
  reads assessment member := ((assessments_of_build built).2 assessment member).1
  listed assessment member := ((assessments_of_build built).2 assessment member).2
  precisions precision := by
    have listed : precision ∈ HardwarePrecision.all := by cases precision <;> decide
    have isCapable : profile.Capable ("precision." ++ precision.value) ↔ _ :=
      capable_iff_of_build built
    rw [(matrix_of_build built).2.1, supportedPrecisions, mem_sortOn, List.mem_filter,
      List.any_eq_true]
    simp only [Bool.and_eq_true, decide_eq_true_eq, listed, true_and]
    exact isCapable.trans
      (and_iff_right (mem_capabilityNames_certified _ (precision_certified precision)))
  affinities _ member known := affinityGround_of_build built member known

end Built

/-! ## Runs of the lifecycle -/

namespace Assessed

variable {recorded next : Recorded digest}

/-- Every step keeps it so: a transition changes neither the findings nor the evidence, and a
refresh builds from the evidence that it brings. -/
theorem step {op : LifecycleOp digest} (assessed : Assessed recorded)
    (applied : recorded.apply op = .ok next) : Assessed next := by
  cases op with
  | transition target =>
      simp only [Recorded.apply, bind_eq_ok, pure_eq_ok, Except.ok.injEq] at applied
      obtain ⟨profile, moved, rfl⟩ := applied
      have content := (transition_moved moved).content
      have capabilities : profile.capabilities = recorded.profile.capabilities := by rw [content]
      have precisions : profile.supportedPrecisions = recorded.profile.supportedPrecisions := by
        rw [content]
      have affinities : profile.workloadAffinities = recorded.profile.workloadAffinities := by
        rw [content]
      constructor
      · exact capabilities ▸ assessed.names
      · exact capabilities ▸ assessed.reads
      · exact capabilities ▸ assessed.listed
      · exact precisions ▸ assessed.precisions
      · exact affinities ▸ assessed.affinities
  | refresh evidence trustState =>
      simp only [Recorded.apply, bind_eq_ok, pure_eq_ok, Except.ok.injEq] at applied
      obtain ⟨profile, built, rfl⟩ := applied
      exact assessed_of_build built

theorem run {start : Recorded digest} (assessed : Assessed start)
    (ops : List (LifecycleOp digest)) : Assessed ((lifecycle digest).run start ops) :=
  Machine.run_invariant Assessed assessed ops fun _ _ _ _ holds step =>
    holds.step (Machine.ofFunction_step_ok.mp step)

theorem answers_of_capable (assessed : Assessed recorded) {name : String}
    (isCapable : recorded.profile.Capable name) : answers recorded.evidence name = {true} := by
  obtain ⟨assessment, member, rfl, state⟩ := isCapable
  exact (assessed.reads assessment member).capable.mp state

/-- More evidence disputes an assessment or leaves it. -/
theorem grown (assessed : Assessed recorded) (later : Assessed next)
    (more : recorded.evidence ⊆ next.evidence) :
    ∀ assessment ∈ recorded.profile.capabilities, ∃ other ∈ next.profile.capabilities,
      other.propertyName = assessment.propertyName ∧
      (assessment.conflict = true → other.conflict = true) ∧
      (assessment.supportState ≠ .unknown →
        other.supportState = assessment.supportState ∨ other.conflict = true) ∧
      ((∀ item ∈ next.evidence, item.verificationStatus = true → item ∈ recorded.evidence) →
        other.supportState = assessment.supportState ∧ other.conflict = assessment.conflict) := by
  intro assessment member
  have named : assessment.propertyName ∈ capabilityNames next.evidence := by
    have before := (assessed.names _).mpr ⟨assessment, member, rfl⟩
    simp only [capabilityNames, mem_canonical, List.mem_append, List.mem_filter] at before ⊢
    exact before.imp_right fun ⟨reported, isAssessed⟩ =>
      ⟨List.map_subset _ more reported, isAssessed⟩
  obtain ⟨other, otherMember, same⟩ := (later.names _).mp named
  have reads := assessed.reads assessment member
  have laterReads : Reads other (answers next.evidence assessment.propertyName) :=
    same ▸ later.reads other otherMember
  obtain ⟨disputed, kept⟩ := reads.grown laterReads (answers_mono more)
  refine ⟨other, otherMember, same, disputed, kept, fun unverified => ?_⟩
  rw [answers_eq_of_verified more unverified] at laterReads
  exact reads.unique laterReads

end Assessed

/-- What holds of the findings of a profile along every run of its lifecycle. -/
structure AssessmentLaw (start : Recorded digest) (ops : List (LifecycleOp digest)) : Prop where
  /-- The profile says what its evidence says. -/
  assessed : ∀ front, front <+: ops → Assessed ((lifecycle digest).run start front)
  /-- From one state of the run to another with more evidence, no finding is turned round: it stays
  or is disputed. Where what is added is not verified, it stays. -/
  grown : ∀ front back, front <+: ops → back <+: ops →
    ((lifecycle digest).run start front).evidence ⊆ ((lifecycle digest).run start back).evidence →
    ∀ assessment ∈ ((lifecycle digest).run start front).profile.capabilities,
    ∃ other ∈ ((lifecycle digest).run start back).profile.capabilities,
      other.propertyName = assessment.propertyName ∧
      (assessment.conflict = true → other.conflict = true) ∧
      (assessment.supportState ≠ .unknown →
        other.supportState = assessment.supportState ∨ other.conflict = true) ∧
      ((∀ item ∈ ((lifecycle digest).run start back).evidence, item.verificationStatus = true →
          item ∈ ((lifecycle digest).run start front).evidence) →
        other.supportState = assessment.supportState ∧ other.conflict = assessment.conflict)
  /-- A requirement is only ever found to be met on the word of verified records that none
  contradicts. -/
  compatible : ∀ front, front <+: ops → ∀ requirement : HardwareRequirement,
    (evaluateHardwareCompatibility ((lifecycle digest).run start front).profile requirement).state =
      .compatible →
    (∀ precision ∈ requirement.requiredPrecision, answers
      ((lifecycle digest).run start front).evidence ("precision." ++ precision.value) = {true}) ∧
    ∀ capability ∈ requirement.requiredRuntimeCapability,
      answers ((lifecycle digest).run start front).evidence capability = {true}

/-- The findings of a profile are those of its evidence, in whatever order it was given, along every
run from its build. -/
theorem assessmentLaw {request : ProfileRequest digest}
    {profile : HardwarePersonalityProfile digest}
    (built : buildHardwarePersonalityProfile request = .ok profile)
    (ops : List (LifecycleOp digest)) :
    (∀ others, List.Perm others request.evidence →
      buildHardwarePersonalityProfile { request with evidence := others } = .ok profile) ∧
    AssessmentLaw ⟨profile, request.evidence⟩ ops := by
  have initially := assessed_of_build built
  refine ⟨fun _ perm => build_perm built perm, ?_⟩
  constructor
  case assessed => exact fun front _ => initially.run front
  case grown =>
    exact fun front back _ _ more => (initially.run front).grown (initially.run back) more
  case compatible =>
    intro front _ requirement compatible
    have satisfied := compatible_iff.mp compatible
    exact ⟨fun precision required =>
        (initially.run front).answers_of_capable (satisfied.precision precision required),
      fun capability required =>
        (initially.run front).answers_of_capable (satisfied.runtime capability required)⟩

/-- The findings on a probe. -/
theorem assessmentLaw_probed : ∃ profile,
    buildHardwarePersonalityProfile probedRequest = .ok profile ∧
    (∀ others, List.Perm others probedRequest.evidence → buildHardwarePersonalityProfile
      { probedRequest with evidence := others } = .ok profile) ∧
    AssessmentLaw ⟨profile, probedRequest.evidence⟩
      [.transition .verified, .refresh [] .invalid] := by
  obtain ⟨profile, built⟩ := exists_probed_profile
  exact ⟨profile, built, assessmentLaw built _⟩

end HardwarePersonality
end MercuryX
