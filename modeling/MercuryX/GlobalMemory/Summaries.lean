import MercuryX.GlobalMemory.Consolidation

/-!
# Consolidation of global context

Records of one namespace are consolidated into a summary. The summary joins the lineage of its
sources, comes after all of them and conflicts as soon as one of them does; the result lists the
sources themselves, each with its version, its provenance and its conflict state.
-/

namespace MercuryX
namespace GlobalMemory

open Foundation

/-- The most records that are consolidated at once. -/
def maxConsolidationInputRecords : Nat := 256

/-! ## Contracts -/

/-- The text of a conflict state. -/
def GlobalMemoryConflictState.value : GlobalMemoryConflictState → String
  | clear => "CLEAR"
  | conflicting => "CONFLICTING"

/-- A request to consolidate named records of a namespace. -/
structure GlobalConsolidationRequest where
  namespaceType : GlobalMemoryNamespace
  namespaceId : String
  sourceRecordIds : List String
  methodId : String
  methodVersion : String
  contextKey : String
  memoryType : GlobalMemoryType
  /-- Namespace, method and context are nonblank. -/
  texts_nonblank : ∀ text ∈ [namespaceId, methodId, methodVersion, contextKey], Text.Nonblank text
  /-- Some source is named. -/
  sources_given : sourceRecordIds ≠ []
  /-- Source ids are nonblank and stand once each, in order. -/
  sources_canonical : CanonicalTexts sourceRecordIds

/-- The namespace of a request. -/
def GlobalConsolidationRequest.space (request : GlobalConsolidationRequest) :
    GlobalMemoryNamespace × String := (request.namespaceType, request.namespaceId)

/-- What a result keeps of one source: its id, version, provenance and conflict state. -/
abbrev SourceTrace := String × Nat × List String × GlobalMemoryConflictState

/-- The fields of a result. -/
structure ConsolidationFields where
  status : GlobalMemoryPhaseStatus
  record : Option GlobalContextRecord := none
  namespaceType : GlobalMemoryNamespace
  namespaceId : String
  sourceGlobalRecordIds : List String
  sourceRecordVersions : List Nat
  sourceProvenance : List (List String)
  sourceConflictStates : List GlobalMemoryConflictState
  consolidationMethodId : String
  consolidationMethodVersion : String
  deriving DecidableEq

namespace ConsolidationFields

/-- The sources, as far as all four lists reach. -/
def traces (fields : ConsolidationFields) : List SourceTrace :=
  fields.sourceGlobalRecordIds.zip (fields.sourceRecordVersions.zip
    (fields.sourceProvenance.zip fields.sourceConflictStates))

/-- The four lists are of one length. -/
def Aligned (fields : ConsolidationFields) : Prop :=
  fields.sourceRecordVersions.length = fields.sourceGlobalRecordIds.length ∧
    fields.sourceProvenance.length = fields.sourceGlobalRecordIds.length ∧
    fields.sourceConflictStates.length = fields.sourceGlobalRecordIds.length

instance (fields : ConsolidationFields) : Decidable fields.Aligned :=
  inferInstanceAs (Decidable (_ ∧ _))

/-- The fields with the given sources. -/
def withTraces (fields : ConsolidationFields) (traces : List SourceTrace) : ConsolidationFields :=
  { fields with
    sourceGlobalRecordIds := traces.map fun trace => trace.1
    sourceRecordVersions := traces.map fun trace => trace.2.1
    sourceProvenance := traces.map fun trace => trace.2.2.1
    sourceConflictStates := traces.map fun trace => trace.2.2.2 }

/-- The fields with aligned sources in the order of their ids. -/
def canonicalTraceability (fields : ConsolidationFields) : ConsolidationFields :=
  if fields.Aligned then fields.withTraces (sortOn Prod.fst fields.traces) else fields

/-- The rules of a result. -/
structure Valid (fields : ConsolidationFields) : Prop where
  /-- Namespace and method are nonblank. -/
  texts_nonblank : ∀ text ∈ [fields.namespaceId, fields.consolidationMethodId,
    fields.consolidationMethodVersion], Text.Nonblank text
  /-- There are sources. -/
  traced : fields.traces ≠ []
  /-- The lists of the sources are of one length. -/
  aligned : fields.Aligned
  /-- Source ids are nonblank. -/
  ids_nonblank : ∀ trace ∈ fields.traces, Text.Nonblank trace.1
  /-- Source ids are distinct. -/
  ids_nodup : (fields.traces.map Prod.fst).Nodup
  /-- Versions start at one. -/
  versions_pos : ∀ trace ∈ fields.traces, 0 < trace.2.1
  /-- Every source has provenance, and none of it is blank. -/
  provenance_given : ∀ trace ∈ fields.traces, trace.2.2.1 ≠ [] ∧
    ∀ evidence ∈ trace.2.2.1, Text.Nonblank evidence
  /-- The summary is of the namespace. -/
  inSpace : ∀ record ∈ fields.record, record.space = (fields.namespaceType, fields.namespaceId)

/-- The checks of a result. -/
def check (fields : ConsolidationFields) : Except Fault Unit := do
  let nonblank (field text : String) := rule "GlobalConsolidationResult" field (Text.Nonblank text)
    "nonblank required"
  let whole (condition : Prop) [Decidable condition] (message : String) :=
    rule "GlobalConsolidationResult" "" condition message
  nonblank "namespace_id" fields.namespaceId
  nonblank "consolidation_method_id" fields.consolidationMethodId
  nonblank "consolidation_method_version" fields.consolidationMethodVersion
  whole (fields.traces ≠ []) "source traceability required"
  whole fields.Aligned "source traceability cardinality mismatch"
  whole (∀ trace ∈ fields.traces, Text.Nonblank trace.1)
    "nonblank source global record ids required"
  whole (fields.traces.map Prod.fst).Nodup "duplicate source global record ids"
  whole (∀ trace ∈ fields.traces, 0 < trace.2.1) "positive source record versions required"
  whole (∀ trace ∈ fields.traces, trace.2.2.1 ≠ [] ∧ ∀ evidence ∈ trace.2.2.1,
    Text.Nonblank evidence) "nonblank source provenance required"
  whole (∀ record ∈ fields.record, record.space = (fields.namespaceType, fields.namespaceId))
    "record namespace mismatch"

theorem check_eq_ok_iff {fields : ConsolidationFields} {done : Unit} :
    fields.check = .ok done ↔ fields.Valid := by
  simp only [check, bind_eq_ok, rule_eq_ok, exists_and_left, exists_const]
  constructor
  · rintro ⟨namespaceId, methodId, methodVersion, traced, aligned, ids, distinct, versions,
      provenance, inSpace⟩
    exact ⟨by simp [namespaceId, methodId, methodVersion], traced, aligned, ids, distinct, versions,
      provenance, inSpace⟩
  · intro valid
    have texts := valid.texts_nonblank
    simp only [List.forall_mem_cons] at texts
    exact ⟨texts.1, texts.2.1, texts.2.2.1, valid.traced, valid.aligned, valid.ids_nonblank,
      valid.ids_nodup, valid.versions_pos, valid.provenance_given, valid.inSpace⟩

end ConsolidationFields

/-- What a consolidation returns. -/
structure GlobalConsolidationResult extends ConsolidationFields where
  /-- The rules hold. -/
  valid : toConsolidationFields.Valid

/-- Construct a result; its sources are put into the order of their ids. -/
def GlobalConsolidationResult.construct (fields : ConsolidationFields) :
    Except Fault GlobalConsolidationResult :=
  checked ConsolidationFields.check ConsolidationFields.check_eq_ok_iff
    (fun fields valid => ⟨fields, valid⟩) fields.canonicalTraceability

/-! ## Consolidation -/

section Consolidation

variable (digest : Digest)

/-- The summary conflicts when a source does. -/
def joinedConflictState (sources : List GlobalContextRecord) : GlobalMemoryConflictState :=
  if ∃ source ∈ sources, source.conflictState = .conflicting then .conflicting else .clear

/-- The summary that a request makes of sources, listed in the order of their ids. -/
def summaryOf (request : GlobalConsolidationRequest) (ordered : List GlobalContextRecord)
    (given : ordered ≠ []) : GlobalContextRecord :=
  let sessions := ordered.map GlobalContextRecord.sourceSessionId
  let sequences := ordered.map GlobalContextRecord.creationSequence
  let first := ordered.head given
  let payload : List (String × Json) := [
    ("namespace_type", .str request.namespaceType.value),
    ("namespace_id", .str request.namespaceId),
    ("source_global_record_ids", .strs (ordered.map GlobalContextRecord.globalRecordId)),
    ("source_record_versions", .arr (ordered.map fun source => .int source.recordVersion)),
    ("consolidation_method_id", .str request.methodId),
    ("consolidation_method_version", .str request.methodVersion),
    ("target_context_key", .str request.contextKey),
    ("target_memory_type", .str request.memoryType.value),
    ("conflict_state", .str (joinedConflictState ordered).value)]
  { namespaceType := request.namespaceType
    namespaceId := request.namespaceId
    globalRecordId := stableId digest "global-consolidation" payload
    recordVersion := 1
    sourceSessionId := sessions.min (by simpa [sessions] using given)
    sourcePhase8RecordIds :=
      canonical id (ordered.flatMap GlobalContextRecord.sourcePhase8RecordIds)
    sourceArtifactIds := canonical id (ordered.flatMap GlobalContextRecord.sourceArtifactIds)
    sourcePhase := "global-consolidation"
    memoryType := request.memoryType
    contextKey := request.contextKey
    creationSequence := sequences.max (by simpa [sequences] using given) + 1
    lifecycle := .active
    conflictState := joinedConflictState ordered
    provenance := canonical id (ordered.flatMap GlobalContextRecord.provenance)
    promotionPolicyId := first.promotionPolicyId
    retentionPolicyId := first.retentionPolicyId
    texts_nonblank := by
      have some : ordered.map GlobalContextRecord.sourceSessionId ≠ [] := by simpa using given
      obtain ⟨source, member, isLeast⟩ := List.mem_map.mp (List.min_mem some)
      have own := request.texts_nonblank
      have leastVisible := source.texts_nonblank source.sourceSessionId (by simp)
      have policies := first.texts_nonblank
      simp only [List.forall_mem_cons] at own policies ⊢
      exact ⟨own.1, digestId_nonblank digest _, isLeast ▸ leastVisible, by decide, own.2.2.2.1,
        policies.2.2.2.2.2⟩
    recordVersion_pos := Nat.one_pos
    creationSequence_pos := Nat.succ_pos _ }

/-- What a consolidation reports of sources, listed in the order of their ids. -/
def consolidated (request : GlobalConsolidationRequest) (ordered : List GlobalContextRecord)
    (given : ordered ≠ []) : ConsolidationFields where
  status := .ready
  record := some (summaryOf digest request ordered given)
  namespaceType := request.namespaceType
  namespaceId := request.namespaceId
  sourceGlobalRecordIds := ordered.map GlobalContextRecord.globalRecordId
  sourceRecordVersions := ordered.map GlobalContextRecord.recordVersion
  sourceProvenance := ordered.map GlobalContextRecord.provenance
  sourceConflictStates := ordered.map GlobalContextRecord.conflictState
  consolidationMethodId := request.methodId
  consolidationMethodVersion := request.methodVersion

/-- The records in the order of their ids. -/
abbrev byId (sources : List GlobalContextRecord) : List GlobalContextRecord :=
  sortOn GlobalContextRecord.globalRecordId sources

theorem byId_ne_nil {sources : List GlobalContextRecord} (given : sources ≠ []) :
    byId sources ≠ [] := by
  rwa [← List.length_pos_iff, length_sortOn, List.length_pos_iff]

/-- Consolidate the records that a request names. -/
def consolidateGlobalContext (request : GlobalConsolidationRequest)
    (sources : List GlobalContextRecord) : Except Fault GlobalConsolidationResult :=
  if given : sources ≠ [] ∧ sources.length ≤ maxConsolidationInputRecords then do
    let sourceIds := sources.map GlobalContextRecord.globalRecordId
    require sourceIds.Nodup (.value "duplicate source record identity")
    require (sortOn id sourceIds = request.sourceRecordIds)
      (.value "source record identities do not match request")
    require (∀ source ∈ sources, source.space = request.space)
      (.value "source namespace mismatch")
    GlobalConsolidationResult.construct
      (consolidated digest request (byId sources) (byId_ne_nil given.1))
  else .error (.value "source record count outside certified limit")

end Consolidation

/-! ## What a consolidation keeps -/

/-- The trace of a source. -/
def GlobalContextRecord.trace (source : GlobalContextRecord) : SourceTrace :=
  (source.globalRecordId, source.recordVersion, source.provenance, source.conflictState)

/-- The summary stands for its sources. -/
structure Summarizes (sources : List GlobalContextRecord) (summary : GlobalContextRecord) :
    Prop where
  /-- The summary conflicts exactly when a source does. -/
  conflicting : summary.conflictState = .conflicting ↔
    ∃ source ∈ sources, source.conflictState = .conflicting
  /-- The provenance is that of the sources. -/
  provenance : summary.provenance.Nodup ∧ ∀ evidence, evidence ∈ summary.provenance ↔
    ∃ source ∈ sources, evidence ∈ source.provenance
  /-- The artifacts are those of the sources. -/
  artifacts : summary.sourceArtifactIds.Nodup ∧ ∀ artifactId,
    artifactId ∈ summary.sourceArtifactIds ↔
      ∃ source ∈ sources, artifactId ∈ source.sourceArtifactIds
  /-- The session records are those of the sources. -/
  sessionRecords : summary.sourcePhase8RecordIds.Nodup ∧ ∀ recordId,
    recordId ∈ summary.sourcePhase8RecordIds ↔
      ∃ source ∈ sources, recordId ∈ source.sourcePhase8RecordIds
  /-- The summary comes after every source. -/
  later : ∀ source ∈ sources, source.creationSequence < summary.creationSequence

/-- What is guaranteed of an accepted consolidation. -/
structure ConsolidationLaw (digest : Digest) (request : GlobalConsolidationRequest)
    (sources : List GlobalContextRecord) (result : GlobalConsolidationResult) : Prop where
  /-- The order of the sources does not matter. -/
  independent : ∀ others, sources.Perm others →
    consolidateGlobalContext digest request others = .ok result
  /-- There is a summary, which stands for the sources. -/
  summarized : ∃ summary, result.record = some summary ∧ Summarizes sources summary
  /-- The lists of the result are those of the sources in one order, entry by entry. -/
  aligned : ∃ ordered : List GlobalContextRecord, ordered.Perm sources ∧
    result.sourceGlobalRecordIds = ordered.map GlobalContextRecord.globalRecordId ∧
    result.sourceRecordVersions = ordered.map GlobalContextRecord.recordVersion ∧
    result.sourceProvenance = ordered.map GlobalContextRecord.provenance ∧
    result.sourceConflictStates = ordered.map GlobalContextRecord.conflictState

section Law

variable {digest : Digest} {request : GlobalConsolidationRequest}
  {sources ordered : List GlobalContextRecord} {result : GlobalConsolidationResult}

theorem summarizes_summaryOf (given : ordered ≠ []) :
    Summarizes ordered (summaryOf digest request ordered given) where
  conflicting := by simp [summaryOf, joinedConflictState]
  provenance := ⟨canonical_nodup id _, by simp [summaryOf]⟩
  artifacts := ⟨canonical_nodup id _, by simp [summaryOf]⟩
  sessionRecords := ⟨canonical_nodup id _, by simp [summaryOf]⟩
  later := by
    intro source member
    exact Nat.lt_succ_of_le (List.le_max_of_mem (List.mem_map_of_mem member))

theorem Summarizes.of_perm {summary : GlobalContextRecord} (summarizes : Summarizes ordered summary)
    (perm : ordered.Perm sources) : Summarizes sources summary := by
  have inside {property : GlobalContextRecord → Prop} :
      (∃ source ∈ ordered, property source) ↔ ∃ source ∈ sources, property source := by
    simp only [perm.mem_iff]
  exact ⟨summarizes.conflicting.trans inside,
    ⟨summarizes.provenance.1, fun _ => (summarizes.provenance.2 _).trans inside⟩,
    ⟨summarizes.artifacts.1, fun _ => (summarizes.artifacts.2 _).trans inside⟩,
    ⟨summarizes.sessionRecords.1, fun _ => (summarizes.sessionRecords.2 _).trans inside⟩,
    fun source member => summarizes.later source (perm.mem_iff.mpr member)⟩

/-- The sources are those that the request names, of its namespace and within the limit. -/
structure Named (request : GlobalConsolidationRequest) (sources : List GlobalContextRecord) :
    Prop where
  /-- There are sources, and no more than are consolidated at once. -/
  bounded : sources ≠ [] ∧ sources.length ≤ maxConsolidationInputRecords
  /-- No two sources have one id. -/
  nodup : (sources.map GlobalContextRecord.globalRecordId).Nodup
  /-- The request names their ids. -/
  named : sortOn id (sources.map GlobalContextRecord.globalRecordId) = request.sourceRecordIds
  /-- They are of the namespace. -/
  inSpace : ∀ source ∈ sources, source.space = request.space

theorem consolidate_eq_ok_iff : consolidateGlobalContext digest request sources = .ok result ↔
    Named request sources ∧ ∃ given : byId sources ≠ [],
      GlobalConsolidationResult.construct (consolidated digest request (byId sources) given) =
        .ok result := by
  unfold consolidateGlobalContext
  split
  · next given =>
      simp only [bind_eq_ok, require_eq_ok, exists_const]
      constructor
      · rintro ⟨nodup, named, inSpace, constructed⟩
        exact ⟨⟨given, nodup, named, inSpace⟩, byId_ne_nil given.1, constructed⟩
      · rintro ⟨accepted, _, constructed⟩
        exact ⟨accepted.nodup, accepted.named, accepted.inSpace, constructed⟩
  · next outside =>
      exact iff_of_false (by simp) fun accepted => outside accepted.1.bounded

/-- Sources that the request names are named in every order, and stand in one order by their
ids. -/
theorem Named.of_perm {others : List GlobalContextRecord} (named : Named request sources)
    (perm : sources.Perm others) : Named request others ∧ byId others = byId sources := by
  have ids := perm.map GlobalContextRecord.globalRecordId
  refine ⟨⟨?_, ids.nodup_iff.mp named.nodup, ?_, ?_⟩, ?_⟩
  · rw [← perm.length_eq]
    exact ⟨fun empty => named.bounded.1 (List.perm_nil.mp (empty ▸ perm)), named.bounded.2⟩
  · rw [← named.named]
    exact (sortOn_eq_of_perm (fun _ _ _ _ same => same) ids).symm
  · exact fun source member => named.inSpace source (perm.mem_iff.mpr member)
  · exact (sortOn_eq_of_perm (fun _ leftMember _ rightMember same =>
      List.inj_on_of_nodup_map named.nodup leftMember rightMember same) perm).symm

theorem traces_consolidated (given : ordered ≠ []) :
    (consolidated digest request ordered given).traces = ordered.map GlobalContextRecord.trace := by
  simp only [ConsolidationFields.traces, consolidated, List.zip_map']
  rfl

/-- A report on sources in the order of their ids is canonical already. -/
theorem canonicalTraceability_consolidated (given : byId sources ≠ []) :
    (consolidated digest request (byId sources) given).canonicalTraceability =
      consolidated digest request (byId sources) given := by
  have sorted : ((byId sources).map GlobalContextRecord.trace).Pairwise
      fun left right => left.1 ≤ right.1 :=
    List.pairwise_map.mpr (sortOn_pairwise GlobalContextRecord.globalRecordId sources)
  rw [ConsolidationFields.canonicalTraceability, if_pos (by simp [ConsolidationFields.Aligned,
    consolidated]), traces_consolidated, sortOn_eq_self Prod.fst sorted]
  simp only [ConsolidationFields.withTraces, consolidated, List.map_map, Function.comp_def,
    GlobalContextRecord.trace]

theorem Named.exists_result (named : Named request sources)
    (provenance : ∀ source ∈ sources, source.provenance ≠ [] ∧
      ∀ evidence ∈ source.provenance, Text.Nonblank evidence) :
    ∃ result, consolidateGlobalContext digest request sources = .ok result := by
  have given := byId_ne_nil named.bounded.1
  have within {source : GlobalContextRecord} (member : source ∈ byId sources) : source ∈ sources :=
    (sortOn_perm _ sources).mem_iff.mp member
  have requested := request.texts_nonblank
  simp only [List.forall_mem_cons] at requested
  have valid : (consolidated digest request (byId sources) given).Valid := by
    constructor
    case texts_nonblank => simp [consolidated, requested]
    case aligned => simp [ConsolidationFields.Aligned, consolidated]
    case inSpace =>
      intro record present
      obtain rfl := Option.some.inj present
      rfl
    all_goals rw [traces_consolidated]
    case traced => simpa using given
    case ids_nonblank =>
      refine List.forall_mem_map.mpr fun source _ => ?_
      exact source.texts_nonblank source.globalRecordId (by simp)
    case ids_nodup =>
      rw [List.map_map]
      exact ((sortOn_perm _ sources).map _).nodup_iff.mpr named.nodup
    case versions_pos => exact List.forall_mem_map.mpr fun source _ => source.recordVersion_pos
    case provenance_given =>
      exact List.forall_mem_map.mpr fun source member => provenance source (within member)
  refine ⟨⟨_, valid⟩, consolidate_eq_ok_iff.mpr ⟨named, given, ?_⟩⟩
  refine checked_eq_ok_iff.mpr ⟨?_, ?_⟩
  · rwa [canonicalTraceability_consolidated]
  · simp only [canonicalTraceability_consolidated]

/-- Every accepted consolidation keeps the law. -/
theorem consolidationLaw
    (accepted : consolidateGlobalContext digest request sources = .ok result) :
    ConsolidationLaw digest request sources result := by
  obtain ⟨named, given, constructed⟩ := consolidate_eq_ok_iff.mp accepted
  constructor
  case independent =>
    intro others perm
    obtain ⟨othersNamed, same⟩ := named.of_perm perm
    refine consolidate_eq_ok_iff.mpr ⟨othersNamed, same ▸ given, ?_⟩
    simp only [same]
    exact constructed
  all_goals
    obtain ⟨valid, rfl⟩ := checked_eq_ok_iff.mp constructed
    simp only [canonicalTraceability_consolidated]
  case summarized =>
    exact ⟨_, rfl, (summarizes_summaryOf given).of_perm (sortOn_perm _ sources)⟩
  case aligned => exact ⟨byId sources, sortOn_perm _ sources, rfl, rfl, rfl, rfl⟩

end Law

/-! ## Two consolidated notes -/

/-- A note of a project. -/
def projectNote (globalRecordId : String) (named : Text.Nonblank globalRecordId)
    (conflictState : GlobalMemoryConflictState) : GlobalContextRecord where
  namespaceType := .project
  namespaceId := "atlas"
  globalRecordId := globalRecordId
  recordVersion := 1
  sourceSessionId := "kickoff"
  sourcePhase8RecordIds := [globalRecordId]
  sourceArtifactIds := ["minutes"]
  sourcePhase := "phase8"
  memoryType := .projectContext
  contextKey := "scope"
  creationSequence := 1
  lifecycle := .active
  conflictState := conflictState
  provenance := [globalRecordId]
  promotionPolicyId := "promotion"
  retentionPolicyId := "retention"
  texts_nonblank := List.forall_mem_cons.mpr ⟨Text.nonblank_literal rfl,
    List.forall_mem_cons.mpr ⟨named, by decide⟩⟩
  recordVersion_pos := Nat.one_pos
  creationSequence_pos := Nat.one_pos

/-- A request to consolidate the two notes of a project. -/
def notesRequest : GlobalConsolidationRequest where
  namespaceType := .project
  namespaceId := "atlas"
  sourceRecordIds := ["agenda", "decision"]
  methodId := "merge"
  methodVersion := "1"
  contextKey := "scope"
  memoryType := .globalSummary
  texts_nonblank := by decide
  sources_given := List.cons_ne_nil "agenda" ["decision"]
  sources_canonical := by decide

/-- The two notes, of which the second conflicts. -/
def projectNotes : List GlobalContextRecord :=
  [projectNote "decision" (Text.nonblank_literal rfl) .conflicting,
    projectNote "agenda" (Text.nonblank_literal rfl) .clear]

theorem projectNotes_named : Named notesRequest projectNotes where
  bounded := by decide
  nodup := by decide
  named := by decide
  inSpace := by decide

theorem consolidationLaw_projectNotes :
    ∃ result, consolidateGlobalContext Digest.sha256 notesRequest projectNotes = .ok result ∧
      ConsolidationLaw Digest.sha256 notesRequest projectNotes result := by
  obtain ⟨result, accepted⟩ : ∃ result,
      consolidateGlobalContext Digest.sha256 notesRequest projectNotes = .ok result :=
    projectNotes_named.exists_result (by decide)
  exact ⟨result, accepted, consolidationLaw accepted⟩

end GlobalMemory
end MercuryX
