import MercuryX.Foundation.Digraph
import MercuryX.Foundation.Numerals
import MercuryX.HardwarePersonality.Lifecycle

/-!
# The lineage of evidence

Derived records name the records that they were derived from. The builder looks at the sources of
each derived record, one level deep; that following sources always ends in verified facts takes an
induction over the lineage. The contract of records never refuses the source ids of a record that is
not derived, since the rule about them stands behind a branch for each of the evidence classes.
-/

namespace MercuryX
namespace HardwarePersonality

open Foundation

variable {digest : Digest}

/-- The arrows from derived records to the records they were derived from. -/
def lineageArrows (evidence : List (HardwareEvidenceRecord digest)) : List (String × String) :=
  (evidence.filter fun item => item.evidenceClass = .derived).flatMap fun item =>
    item.derivedFromEvidenceIds.map fun source => (item.evidenceId, source)

theorem linked_lineageArrows {evidence : List (HardwareEvidenceRecord digest)}
    {identity source : String} :
    Linked (lineageArrows evidence) identity source ↔ ∃ item ∈ evidence,
      item.evidenceClass = .derived ∧ item.evidenceId = identity ∧
        source ∈ item.derivedFromEvidenceIds := by
  simp only [Linked, lineageArrows, List.mem_flatMap, List.mem_filter, List.mem_map,
    Prod.mk.injEq, decide_eq_true_eq]
  constructor
  · rintro ⟨item, ⟨member, derived⟩, _, inside, rfl, rfl⟩
    exact ⟨item, member, derived, rfl, inside⟩
  · rintro ⟨item, member, derived, rfl, inside⟩
    exact ⟨item, ⟨member, derived⟩, source, inside, rfl, rfl⟩

/-- Following source ids from a record always ends in verified facts that the profile lists. -/
inductive Ends (evidence : List (HardwareEvidenceRecord digest)) (listed : List String) :
    HardwareEvidenceRecord digest → Prop where
  /-- The record is a verified fact. -/
  | fact {item : HardwareEvidenceRecord digest} (member : item ∈ evidence)
      (isListed : item.evidenceId ∈ listed) (notDerived : item.evidenceClass ≠ .derived)
      (verified : item.verificationStatus = true) : Ends evidence listed item
  /-- The record is derived from records that are there, and following each of them ends. -/
  | derived {item : HardwareEvidenceRecord digest} (member : item ∈ evidence)
      (isDerived : item.evidenceClass = .derived)
      (present : ∀ identity ∈ item.derivedFromEvidenceIds,
        ∃ source ∈ evidence, source.evidenceId = identity)
      (onward : ∀ source ∈ evidence, source.evidenceId ∈ item.derivedFromEvidenceIds →
        Ends evidence listed source) : Ends evidence listed item

/-- A record that is supplied as a source of another backs it. -/
structure Backs (item source : HardwareEvidenceRecord digest) : Prop where
  /-- The source is verified. -/
  verified : source.verificationStatus = true
  /-- It is of the same generation. -/
  generation : source.generation = item.generation
  /-- It is about the same hardware. -/
  hardware : source.hardwareId = item.hardwareId

/-- The lineage of the evidence of a profile is grounded. -/
structure GroundedLineage (profile : HardwarePersonalityProfile digest)
    (evidence : List (HardwareEvidenceRecord digest)) : Prop where
  /-- Only derived records have sources. -/
  only_derived : ∀ item ∈ evidence, item.evidenceClass ≠ .derived →
    item.derivedFromEvidenceIds = []
  /-- Every record that is supplied as a source of a derived record backs it. -/
  backed : ∀ item ∈ evidence, item.evidenceClass = .derived →
    ∀ source ∈ evidence, source.evidenceId ∈ item.derivedFromEvidenceIds → Backs item source
  /-- Following source ids from a derived record ends in verified facts. -/
  ends : ∀ item ∈ evidence, item.evidenceClass = .derived →
    Ends evidence profile.evidenceRecordIds item

/-! ## What the builder establishes -/

/-- What the builder checks about one level of the lineage. -/
structure Levelled (evidence : List (HardwareEvidenceRecord digest)) : Prop where
  /-- No two records share an id. -/
  distinct : (evidenceIds evidence).Nodup
  /-- The sources of derived records are there. -/
  present : ∀ item ∈ evidence, item.evidenceClass = .derived →
    ∀ identity ∈ item.derivedFromEvidenceIds, ∃ source ∈ evidence, source.evidenceId = identity
  /-- They back what is derived from them. -/
  backed : ∀ item ∈ evidence, item.evidenceClass = .derived →
    ∀ source ∈ evidence, source.evidenceId ∈ item.derivedFromEvidenceIds → Backs item source

theorem checkDerived_eq_ok_iff {evidence : List (HardwareEvidenceRecord digest)}
    (distinct : (evidenceIds evidence).Nodup) {item : HardwareEvidenceRecord digest} {done : Unit}
    (isDerived : item.evidenceClass = .derived) :
    checkDerived evidence item = .ok done ↔
      (∀ identity ∈ item.derivedFromEvidenceIds,
          ∃ source ∈ evidence, source.evidenceId = identity) ∧
        ∀ source ∈ evidence, source.evidenceId ∈ item.derivedFromEvidenceIds →
          source.verificationStatus = true ∧ source.generation = item.generation := by
  have found (identity : String) (source : HardwareEvidenceRecord digest) :
      (Dict.indexed (fun item => item.evidenceId) evidence).get? identity = some source ↔
        source ∈ evidence ∧ source.evidenceId = identity :=
    Dict.indexed_get?_eq_some_iff distinct
  simp only [checkDerived, isDerived, if_true, bind_eq_ok, require_eq_ok, exists_and_left,
    exists_const, List.mem_filterMap, Option.isSome_iff_exists, found]
  constructor
  · rintro ⟨present, verified, fresh⟩
    refine ⟨present, fun source member isSource => ⟨?_, ?_⟩⟩
    · exact verified source ⟨_, isSource, member, rfl⟩
    · exact fresh source ⟨_, isSource, member, rfl⟩
  · rintro ⟨present, backed⟩
    refine ⟨present, ?_, ?_⟩
    · rintro source ⟨_, isSource, member, rfl⟩
      exact (backed source member isSource).1
    · rintro source ⟨_, isSource, member, rfl⟩
      exact (backed source member isSource).2

theorem distinct_of_build {request : ProfileRequest digest}
    {profile : HardwarePersonalityProfile digest}
    (built : buildHardwarePersonalityProfile request = .ok profile) :
    (evidenceIds request.evidence).Nodup := by
  have listed := (profile.texts_canonical profile.evidenceRecordIds (by simp)).2
  have nodup := listed ▸ canonical_nodup id profile.evidenceRecordIds
  rw [(build_builtFrom built).listed] at nodup
  exact ((sortOn_perm _ _).map _).nodup_iff.mp nodup

/-- The builder checks one level of the lineage. -/
theorem levelled_of_build {request : ProfileRequest digest}
    {profile : HardwarePersonalityProfile digest}
    (built : buildHardwarePersonalityProfile request = .ok profile) :
    Levelled request.evidence := by
  have distinct := distinct_of_build built
  have sorted : (evidenceIds (sortOn (fun item => item.evidenceId) request.evidence)).Nodup :=
    ((sortOn_perm _ _).map _).nodup_iff.mpr distinct
  simp only [buildHardwarePersonalityProfile, bind_eq_ok, require_eq_ok, forEach_eq_ok,
    exists_and_left, exists_const, mem_sortOn] at built
  obtain ⟨hardware, lineage, _⟩ := built
  have level {item : HardwareEvidenceRecord digest} (member : item ∈ request.evidence)
      (isDerived : item.evidenceClass = .derived) := by
    have checked := (checkDerived_eq_ok_iff sorted isDerived).mp (lineage item member)
    simpa only [mem_sortOn] using checked
  refine ⟨distinct, fun item member isDerived => (level member isDerived).1, ?_⟩
  intro item member isDerived source supplied isSource
  have backs := (level member isDerived).2 source supplied isSource
  exact ⟨backs.1, backs.2, (hardware source supplied).trans (hardware item member).symm⟩

/-! ## The whole lineage -/

section Lineage

variable {evidence : List (HardwareEvidenceRecord digest)} {listed : List String}

theorem Ends.accessible (distinct : (evidenceIds evidence).Nodup)
    {item : HardwareEvidenceRecord digest} (ends : Ends evidence listed item) :
    Acc (fun target source => Linked (lineageArrows evidence) source target) item.evidenceId := by
  induction ends with
  | @fact item member isListed notDerived verified =>
      refine .intro _ fun target linked => ?_
      obtain ⟨other, otherMember, isDerived, same, _⟩ := linked_lineageArrows.mp linked
      obtain rfl := List.inj_on_of_nodup_map distinct otherMember member same
      exact absurd isDerived notDerived
  | @derived item member isDerived present onward induction =>
      refine .intro _ fun target linked => ?_
      obtain ⟨other, otherMember, _, same, isSource⟩ := linked_lineageArrows.mp linked
      obtain rfl := List.inj_on_of_nodup_map distinct otherMember member same
      obtain ⟨source, supplied, rfl⟩ := present target isSource
      exact induction source supplied isSource

/-- Where nothing is derived from itself, following sources ends. -/
theorem Levelled.ends (levelled : Levelled evidence) (acyclic : Acyclic (lineageArrows evidence))
    (covers : ∀ item ∈ evidence, item.evidenceId ∈ listed)
    {item : HardwareEvidenceRecord digest} (member : item ∈ evidence)
    (holds : item.evidenceClass = .derived ∨ item.verificationStatus = true) :
    Ends evidence listed item := by
  have accessible := acyclic.accessible item.evidenceId
  generalize same : item.evidenceId = identity at accessible
  induction accessible generalizing item with
  | intro identity _ induction =>
      by_cases isDerived : item.evidenceClass = .derived
      · refine .derived member isDerived (levelled.present item member isDerived) ?_
        intro source supplied isSource
        refine induction source.evidenceId ?_ supplied
          (.inr (levelled.backed item member isDerived source supplied isSource).verified) rfl
        exact linked_lineageArrows.mpr ⟨item, member, isDerived, same, isSource⟩
      · exact .fact member (covers item member) isDerived (holds.resolve_left isDerived)

/-- Following sources ends from every derived record exactly where nothing is derived from
itself. -/
theorem Levelled.forall_ends_iff (levelled : Levelled evidence)
    (covers : ∀ item ∈ evidence, item.evidenceId ∈ listed) :
    (∀ item ∈ evidence, item.evidenceClass = .derived → Ends evidence listed item) ↔
      Acyclic (lineageArrows evidence) := by
  constructor
  · intro ends identity cycle
    obtain ⟨target, linked, _⟩ := Relation.TransGen.head'_iff.mp cycle
    obtain ⟨item, member, isDerived, rfl, _⟩ := linked_lineageArrows.mp linked
    have accessible := (ends item member isDerived).accessible levelled.distinct
    exact not_self_of_acc accessible.transGen (Relation.transGen_swap.mpr cycle)
  · exact fun acyclic item member isDerived => levelled.ends acyclic covers member (.inl isDerived)

/-- Nothing is derived from itself under a digest that ranks every record above its sources. -/
theorem acyclic_lineageArrows_of_rank (rank : String → Nat)
    (rising : ∀ content : EvidenceContent digest, ∀ source ∈ content.derivedFromEvidenceIds,
      rank source < rank (makeEvidenceId content).1) : Acyclic (lineageArrows evidence) := by
  have climbing : Acyclic ((lineageArrows evidence).map Prod.swap) := by
    refine acyclic_of_rank rank fun source target linked => ?_
    obtain ⟨item, _, _, rfl, isSource⟩ := linked_lineageArrows.mp (linked_swap.mp linked)
    have identity := congrArg Prod.fst item.identity_verified
    exact lt_of_lt_of_eq (rising item.toEvidenceContent source isSource)
      (congrArg rank identity.symm)
  simpa using climbing.swap

/-- The lineage of an accepted profile is grounded exactly where only derived records have sources
and none is, by way of its sources, derived from itself. -/
theorem groundedLineage_iff {request : ProfileRequest digest}
    {profile : HardwarePersonalityProfile digest}
    (built : buildHardwarePersonalityProfile request = .ok profile) :
    GroundedLineage profile request.evidence ↔
      (∀ item ∈ request.evidence, item.evidenceClass ≠ .derived →
        item.derivedFromEvidenceIds = []) ∧ Acyclic (lineageArrows request.evidence) := by
  have levelled := levelled_of_build built
  have covers : ∀ item ∈ request.evidence, item.evidenceId ∈ profile.evidenceRecordIds := by
    intro item member
    rw [(build_builtFrom built).listed]
    exact List.mem_map_of_mem ((mem_sortOn _).mpr member)
  rw [← levelled.forall_ends_iff covers]
  constructor
  · exact fun grounded => ⟨grounded.only_derived, grounded.ends⟩
  · exact fun ⟨onlyDerived, ends⟩ => ⟨onlyDerived, levelled.backed, ends⟩

end Lineage

/-! ## A probe and what is derived from it -/

section Sample

/-- What was observed of the processor, as evidence of some class from some sources. -/
def observedContent {digest : Digest} (evidenceClass : HardwareEvidenceClass)
    (sources : List String) : EvidenceContent digest where
  hardwareId := sampleDescriptor.hardwareId
  evidenceClass := evidenceClass
  propertyName := "precision.FP32"
  sourceId := "s"
  sequence := 1
  generation := 1
  observedValue := some "supported"
  derivedFromEvidenceIds := sources

theorem observedContent_trimmed (evidenceClass : HardwareEvidenceClass) (sources : List String)
    {probeId : Option String} (named : ∀ text ∈ probeId, Text.Trimmed text) :
    ∀ text ∈ [(@makeEvidenceId .sha256 (observedContent evidenceClass sources)).1,
        (@observedContent .sha256 evidenceClass sources).hardwareId,
        (@observedContent .sha256 evidenceClass sources).propertyName,
        (@observedContent .sha256 evidenceClass sources).sourceId,
        (@makeEvidenceId .sha256 (observedContent evidenceClass sources)).2] ++
      (@observedContent .sha256 evidenceClass sources).declaredValue.toList ++
      (@observedContent .sha256 evidenceClass sources).observedValue.toList ++
      (none : Option String).toList ++ probeId.toList ++ (none : Option String).toList,
        Text.Trimmed text := by
  have digests := Digest.sha256_hexadecimal.trimmed
  have plain : ∀ text ∈ ["precision.FP32", "s", "supported"], Text.Trimmed text := by decide
  simp only [List.mem_cons, List.not_mem_nil, or_false, forall_eq_or_imp, forall_eq] at plain
  simp only [List.cons_append, List.nil_append, List.append_nil, observedContent,
    Option.toList_some, Option.toList_none, List.mem_cons, forall_eq_or_imp, Option.mem_toList]
  exact ⟨digests _, digests _, plain.1, plain.2.1, digests _, plain.2.2, named⟩

theorem probeId_trimmed : ∀ text ∈ some "probe", Text.Trimmed text := by
  decide

theorem noProbe_trimmed : ∀ text ∈ (none : Option String), Text.Trimmed text := by
  simp

/-- The record of a probe, with some sources. -/
def probeRecord (sources : List String) (canonicalTexts : CanonicalTexts sources) :
    HardwareEvidenceRecord Digest.sha256 where
  toEvidenceContent := observedContent .probed sources
  evidenceId := (makeEvidenceId (observedContent .probed sources)).1
  probeId := some "probe"
  verificationStatus := true
  evidenceFingerprint := (makeEvidenceId (observedContent .probed sources)).2
  texts_trimmed := observedContent_trimmed .probed sources probeId_trimmed
  numbers_pos := ⟨le_rfl, le_rfl⟩
  sources_canonical := canonicalTexts
  declared_shape := nofun
  observed_shape := fun _ => Option.some_ne_none _
  derived_shape := nofun
  measured_shape := nofun
  context_shape := fun _ => rfl
  probed_shape := fun _ => Option.some_ne_none _
  identity_verified := rfl

theorem noSources_canonical : CanonicalTexts [] := ⟨nofun, rfl⟩

/-- The record of a probe. -/
def plainProbe : HardwareEvidenceRecord Digest.sha256 := probeRecord [] noSources_canonical

/-- A record that is derived from that of the probe. -/
def derivedRecord : HardwareEvidenceRecord Digest.sha256 where
  toEvidenceContent := observedContent .derived [plainProbe.evidenceId]
  evidenceId := (makeEvidenceId (observedContent .derived [plainProbe.evidenceId])).1
  verificationStatus := true
  evidenceFingerprint := (makeEvidenceId (observedContent .derived [plainProbe.evidenceId])).2
  texts_trimmed := observedContent_trimmed .derived [plainProbe.evidenceId] noProbe_trimmed
  numbers_pos := ⟨le_rfl, le_rfl⟩
  sources_canonical := ⟨List.forall_mem_singleton.mpr plainProbe.evidenceId_nonblank, rfl⟩
  declared_shape := nofun
  observed_shape := fun _ => Option.some_ne_none _
  derived_shape := fun _ => List.cons_ne_nil _ _
  measured_shape := nofun
  context_shape := fun _ => rfl
  probed_shape := nofun
  identity_verified := rfl

/-- A profile on the probe and what is derived from it. -/
def derivedRequest : ProfileRequest Digest.sha256 where
  descriptor := sampleDescriptor
  evidence := [plainProbe, derivedRecord]

theorem derivedRecord_apart : plainProbe.evidenceId ≠ derivedRecord.evidenceId := by
  change (@makeEvidenceId .sha256 (observedContent .probed [])).1 ≠
    (@makeEvidenceId .sha256
      (observedContent .derived [(@makeEvidenceId .sha256 (observedContent .probed [])).1])).1
  rw [Digest.sha256_eq_numeric]
  decide +kernel

theorem derivedRequest_distinct : (evidenceIds derivedRequest.evidence).Nodup :=
  List.nodup_cons.mpr
    ⟨fun same => derivedRecord_apart (List.mem_singleton.mp same), List.nodup_singleton _⟩

theorem exists_derived_profile :
    ∃ profile, buildHardwarePersonalityProfile derivedRequest = .ok profile := by
  refine exists_build Digest.sha256_hexadecimal ⟨?_, derivedRequest_distinct, ?_, nofun, nofun,
    le_rfl, ?_, ?_⟩
  · exact List.forall_mem_cons.mpr ⟨rfl, List.forall_mem_singleton.mpr rfl⟩
  · refine List.forall_mem_cons.mpr ⟨rfl, List.forall_mem_singleton.mpr ?_⟩
    have sorted : (evidenceIds (sortOn (fun item => item.evidenceId)
        derivedRequest.evidence)).Nodup :=
      ((sortOn_perm _ _).map _).nodup_iff.mpr derivedRequest_distinct
    refine (checkDerived_eq_ok_iff sorted rfl).mpr ⟨?_, fun source member isSource => ?_⟩
    · exact List.forall_mem_singleton.mpr
        ⟨plainProbe, (mem_sortOn _).mpr List.mem_cons_self, rfl⟩
    · obtain rfl := List.inj_on_of_nodup_map derivedRequest_distinct ((mem_sortOn _).mp member)
        List.mem_cons_self (List.mem_singleton.mp isSource)
      exact ⟨rfl, rfl⟩
  · exact List.forall_mem_cons.mpr ⟨nofun, List.forall_mem_singleton.mpr nofun⟩
  · simp [derivedRequest]

theorem derivedRequest_acyclic : Acyclic (lineageArrows derivedRequest.evidence) := by
  refine acyclic_of_rank (fun id => if id = plainProbe.evidenceId then 1 else 0) ?_
  intro source target linked
  have arrow : (source, target) ∈ [(derivedRecord.evidenceId, plainProbe.evidenceId)] := linked
  obtain ⟨rfl, rfl⟩ := Prod.mk.inj (List.mem_singleton.mp arrow)
  rw [if_pos rfl, if_neg derivedRecord_apart.symm]
  exact Nat.one_pos

/-- The lineage of a profile on a probe and what is derived from it is grounded. -/
theorem groundedLineage_derived :
    ∃ profile, buildHardwarePersonalityProfile derivedRequest = .ok profile ∧
      GroundedLineage profile derivedRequest.evidence := by
  obtain ⟨profile, built⟩ := exists_derived_profile
  refine ⟨profile, built, (groundedLineage_iff built).mpr ⟨?_, derivedRequest_acyclic⟩⟩
  exact List.forall_mem_cons.mpr ⟨fun _ => rfl,
    List.forall_mem_singleton.mpr fun other => absurd rfl other⟩

theorem unsupplied_canonical : CanonicalTexts ["unsupplied"] := ⟨by decide, rfl⟩

/-- The record of a probe, with a source that nobody supplied. -/
def probedRecord : HardwareEvidenceRecord Digest.sha256 :=
  probeRecord ["unsupplied"] unsupplied_canonical

/-- A profile on that probe. -/
def probedRequest : ProfileRequest Digest.sha256 where
  descriptor := sampleDescriptor
  evidence := [probedRecord]

theorem exists_probed_profile :
    ∃ profile, buildHardwarePersonalityProfile probedRequest = .ok profile := by
  refine exists_build Digest.sha256_hexadecimal ⟨?_, List.nodup_singleton _, ?_, nofun, nofun,
    le_rfl, ?_, ?_⟩
  · exact List.forall_mem_singleton.mpr rfl
  · exact List.forall_mem_singleton.mpr rfl
  · exact List.forall_mem_cons.mpr ⟨nofun, List.forall_mem_singleton.mpr nofun⟩
  · simp [probedRequest]

/-- A probe that carries a source id is accepted. -/
theorem probed_lineage_accepted :
    ¬ ∀ (request : ProfileRequest Digest.sha256)
      (profile : HardwarePersonalityProfile Digest.sha256),
        buildHardwarePersonalityProfile request = .ok profile →
          GroundedLineage profile request.evidence := by
  intro law
  obtain ⟨profile, built⟩ := exists_probed_profile
  have grounded := law probedRequest profile built
  exact nomatch grounded.only_derived probedRecord List.mem_cons_self nofun

end Sample

end HardwarePersonality
end MercuryX
