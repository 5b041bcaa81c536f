import MercuryX.Gateway.Canonicalization
import MercuryX.Intelligence.Signals

/-!
# Extraction of workload signals

The signals of a request are read off its input, its context and its canonical constraints. Each
group of signals names the fields it was read from. Extraction refuses constraints of which two of
one kind could be meant.
-/

namespace MercuryX
namespace Intelligence

open Foundation
open Gateway (CanonicalConstraint ConstraintKind ConstraintNormalizationResult NormalizationResult
  Payload WorkloadRequest)

/-! ## Reading a mapping -/

/-- The keys of the input that show a modality. -/
def modalityKeys : List (String × String) :=
  [("text", "text"), ("image", "image"), ("images", "image"), ("audio", "audio"),
    ("video", "video"), ("structured_data", "structured_data"), ("code", "code")]

/-- The kinds of constraints that are signals. -/
def constraintKinds : List ConstraintKind := [.latency, .quality, .privacy, .cost]

section Mapping

variable (mapping : Dict String Payload)

/-- The key is there. -/
def hasKey (key : String) : Bool := (mapping.get? key).isSome

/-- The key has a value other than none. -/
def supplied (key : String) : Bool := (mapping.get? key).any Payload.present

/-- The truth value of a key, if it has one. -/
def explicitBool (key : String) : Option Bool :=
  match mapping.get? key with
  | some (.bool value) => some value
  | _ => none

/-- The number of members that a key has, if it is a collection. -/
def countItems (key : String) : Option Int :=
  ((mapping.get? key).bind Payload.count).map Int.ofNat

/-- The distinct texts of a key. -/
def textsAt (key : String) : List String :=
  stringValues ((mapping.get? key).elim [] Payload.texts)

variable {mapping}

theorem hasKey_of_supplied {key : String} (given : supplied mapping key = true) :
    hasKey mapping key = true := by
  unfold supplied at given
  unfold hasKey
  cases found : mapping.get? key with
  | none => simp [found] at given
  | some value => rfl

theorem hasKey_of_explicitBool {key : String} (given : explicitBool mapping key ≠ none) :
    hasKey mapping key = true := by
  unfold explicitBool at given
  unfold hasKey
  cases found : mapping.get? key with
  | none => simp [found] at given
  | some value => rfl

theorem hasKey_of_countItems {key : String} (given : countItems mapping key ≠ none) :
    hasKey mapping key = true := by
  unfold countItems at given
  unfold hasKey
  cases found : mapping.get? key with
  | none => simp [found] at given
  | some value => rfl

theorem hasKey_of_textsAt {key : String} (given : textsAt mapping key ≠ []) :
    hasKey mapping key = true := by
  unfold textsAt at given
  unfold hasKey
  cases found : mapping.get? key with
  | none =>
      rw [found] at given
      exact absurd rfl given
  | some value => rfl

end Mapping

/-! ## Signals of a request -/

section Request

variable (request : WorkloadRequest)

/-- The modalities that the input shows, or the task does. -/
def explicitModalities : List String :=
  canonical id (((modalityKeys.filter fun entry => supplied request.input entry.1).map Prod.snd) ++
    if request.taskType = "code" then ["code"] else [])

/-- A modality is present, if the request speaks of it. -/
def modalityPresence (modality : String) : Option Bool :=
  let keys := (modalityKeys.filter fun entry => entry.2 = modality).map Prod.fst
  if modality = "code" ∧ request.taskType = "code" then some true
  else if keys.any (hasKey request.input) = false then none
  else some (keys.any (supplied request.input))

/-- The length of the text of the input. -/
def textCharacterCount : Option Int :=
  match request.input.get? "text" with
  | some (.text value) => some value.length
  | _ => none

/-- The number of attachments, if every attachment field is a collection. -/
def attachmentCount : Option Int :=
  let counts := (["image", "images", "audio", "video"].filter (hasKey request.input)).map
    (countItems request.input)
  if counts = [] then none else (counts.mapM id).map List.sum

/-- The references of the context. -/
def contextReferences : List String :=
  if hasKey request.context "references" then textsAt request.context "references"
  else textsAt request.context "retrieval_references"

/-- The names of the tools and capabilities of the input. -/
def declaredToolNames : List String :=
  canonical id (textsAt request.input "tools" ++ textsAt request.input "capabilities")

/-- The output type of the input. -/
def outputType : Option String :=
  match request.input.get? "output_type" with
  | some (.text value) => if Text.Nonblank value then some (Text.strip value) else none
  | _ => none

/-- Whether a conversation is part of the context. -/
def conversationContextPresent : Option Bool :=
  (request.context.get? "conversation").map Payload.truthy

/-- Whether there is a context. -/
def explicitContextSupplied : Option Bool :=
  if request.context.entries = [] then none else some true

end Request

/-! ## Evidence of signals -/

/-- Construct the evidence of a signal group. -/
def SignalEvidence.construct (signalGroup : String) (sources : List String) :
    Except Fault SignalEvidence :=
  if visible : Text.Nonblank signalGroup then
    if present : stringValues sources ≠ [] then
      .ok ⟨signalGroup, stringValues sources, visible, stringValues_stringValues sources, present⟩
    else .error (.value "source_fields must not be empty")
  else .error (.value "signal_group must be nonblank")

theorem SignalEvidence.exists_construct {signalGroup : String} {sources : List String}
    (visible : Text.Nonblank signalGroup) {source : String} (member : source ∈ sources)
    (sourceVisible : Text.Nonblank source) :
    ∃ evidence, construct signalGroup sources = .ok evidence := by
  have present : stringValues sources ≠ [] :=
    List.ne_nil_of_mem (mem_stringValues.mpr ⟨source, member, sourceVisible, rfl⟩)
  rw [construct, dif_pos visible, dif_pos present]
  exact ⟨_, rfl⟩

/-- A signal group with its sources, where a condition holds. -/
def groupIf (condition : Prop) [Decidable condition] (signalGroup : String)
    (sources : List String) : List (String × List String) :=
  if condition then [(signalGroup, sources)] else []

/-- The fields of the input among some keys. -/
def inputSources (request : WorkloadRequest) (keys : List String) : List String :=
  (keys.filter (hasKey request.input)).map fun key => "input." ++ key

/-- The signal groups of a request, with the fields they were read from. -/
def evidenceGroups (request : WorkloadRequest) (constraints : List CanonicalConstraint) :
    List (String × List String) :=
  [("identity",
    ["normalization.request_id", "normalization.workload_id", "normalization.session_id"])] ++
  groupIf (explicitModalities request ≠ []) "content"
    (inputSources request (modalityKeys.map Prod.fst) ++
      if request.taskType = "code" then ["request.task_type"] else []) ++
  groupIf (textCharacterCount request ≠ none ∨ countItems request.input "items" ≠ none ∨
      countItems request.input "messages" ≠ none ∨ countItems request.input "segments" ≠ none ∨
      attachmentCount request ≠ none) "input_size"
    (inputSources request
      ["text", "items", "messages", "segments", "image", "images", "audio", "video"]) ++
  groupIf (request.context.entries ≠ []) "context"
    (request.context.keys.map fun key => "context." ++ key) ++
  groupIf (explicitBool request.input "tool_use" ≠ none ∨
      explicitBool request.input "external_action_required" ≠ none ∨
      declaredToolNames request ≠ []) "tools"
    (inputSources request ["tool_use", "tools", "capabilities", "external_action_required"]) ++
  groupIf (constraints ≠ []) "constraints" (constraints.map CanonicalConstraint.sourceField) ++
  groupIf (outputType request ≠ none ∨
      explicitBool request.input "structured_output_required" ≠ none ∨
      explicitBool request.input "streaming" ≠ none) "output"
    (inputSources request ["output_type", "structured_output_required", "streaming"])

@[simp] theorem mem_groupIf {condition : Prop} [Decidable condition] {signalGroup : String}
    {sources : List String} {group : String × List String} :
    group ∈ groupIf condition signalGroup sources ↔ group = (signalGroup, sources) ∧ condition := by
  unfold groupIf
  split <;> simp_all

theorem exists_inputSource {request : WorkloadRequest} {keys : List String} {key : String}
    (member : key ∈ keys) (given : hasKey request.input key = true) :
    ∃ source ∈ inputSources request keys, Text.Nonblank source :=
  ⟨"input." ++ key, List.mem_map.mpr ⟨key, List.mem_filter.mpr ⟨member, given⟩, rfl⟩,
    Text.nonblank_append_left (by decide) key⟩

theorem mem_explicitModalities {request : WorkloadRequest} {modality : String} :
    modality ∈ explicitModalities request ↔
      (∃ key, (key, modality) ∈ modalityKeys ∧ supplied request.input key = true) ∨
        (request.taskType = "code" ∧ modality = "code") := by
  simp only [explicitModalities, mem_canonical, List.mem_append, List.mem_map, List.mem_filter,
    List.mem_ite_nil_right, List.mem_singleton]
  refine or_congr_left ?_
  constructor
  · rintro ⟨⟨key, shown⟩, ⟨member, given⟩, rfl⟩
    exact ⟨key, member, given⟩
  · rintro ⟨key, member, given⟩
    exact ⟨(key, modality), ⟨member, given⟩, rfl⟩

theorem exists_key_of_attachmentCount {request : WorkloadRequest}
    (given : attachmentCount request ≠ none) :
    ∃ key ∈ ["image", "images", "audio", "video"], hasKey request.input key = true := by
  unfold attachmentCount at given
  by_contra missing
  push Not at missing
  have filtered : ["image", "images", "audio", "video"].filter (hasKey request.input) = [] :=
    List.filter_eq_nil_iff.mpr fun key member => missing key member
  rw [filtered] at given
  exact given rfl

/-- Every signal group names a field that it was read from. -/
theorem evidenceGroups_visible {request : WorkloadRequest}
    {constraints : List CanonicalConstraint} {group : String × List String}
    (member : group ∈ evidenceGroups request constraints) :
    Text.Nonblank group.1 ∧ ∃ source ∈ group.2, Text.Nonblank source := by
  simp only [evidenceGroups, List.mem_append, List.mem_singleton, mem_groupIf] at member
  rcases member with (((((rfl | ⟨rfl, shown⟩) | ⟨rfl, sized⟩) | ⟨rfl, context⟩) | ⟨rfl, tools⟩) |
    ⟨rfl, constrained⟩) | ⟨rfl, output⟩
  · exact ⟨by decide, "normalization.request_id", by simp, by decide⟩
  · refine ⟨Text.nonblank_literal rfl, ?_⟩
    obtain ⟨modality, explicit⟩ := List.exists_mem_of_ne_nil _ shown
    rcases mem_explicitModalities.mp explicit with ⟨key, listed, given⟩ | ⟨code, _⟩
    · have keyListed : key ∈ modalityKeys.map Prod.fst := List.mem_map_of_mem listed
      obtain ⟨source, inside, visible⟩ := exists_inputSource keyListed (hasKey_of_supplied given)
      exact ⟨source, List.mem_append_left _ inside, visible⟩
    · exact ⟨"request.task_type", List.mem_append_right _ (by simp [code]), by decide⟩
  · refine ⟨Text.nonblank_literal rfl, ?_⟩
    rcases sized with text | items | messages | segments | attachments
    · refine exists_inputSource (List.mem_cons_self (a := "text")) ?_
      unfold textCharacterCount at text
      unfold hasKey
      cases found : request.input.get? "text" with
      | none => simp [found] at text
      | some value => rfl
    · exact exists_inputSource (by simp) (hasKey_of_countItems items)
    · exact exists_inputSource (by simp) (hasKey_of_countItems messages)
    · exact exists_inputSource (by simp) (hasKey_of_countItems segments)
    · obtain ⟨key, listed, given⟩ := exists_key_of_attachmentCount attachments
      exact exists_inputSource (List.mem_append_right ["text", "items", "messages", "segments"]
        listed) given
  · refine ⟨Text.nonblank_literal rfl, ?_⟩
    obtain ⟨entry, inside⟩ := List.exists_mem_of_ne_nil _ context
    exact ⟨"context." ++ entry.1, List.mem_map_of_mem (List.mem_map_of_mem inside),
      Text.nonblank_append_left (by decide) entry.1⟩
  · refine ⟨Text.nonblank_literal rfl, ?_⟩
    rcases tools with requested | external | declared
    · exact exists_inputSource (by simp) (hasKey_of_explicitBool requested)
    · exact exists_inputSource (by simp) (hasKey_of_explicitBool external)
    · obtain ⟨tool, named⟩ := List.exists_mem_of_ne_nil _ declared
      rcases List.mem_append.mp ((mem_canonical id).mp named) with inTools | inCapabilities
      · exact exists_inputSource (by simp) (hasKey_of_textsAt (List.ne_nil_of_mem inTools))
      · exact exists_inputSource (by simp) (hasKey_of_textsAt (List.ne_nil_of_mem inCapabilities))
  · refine ⟨Text.nonblank_literal rfl, ?_⟩
    obtain ⟨constraint, inside⟩ := List.exists_mem_of_ne_nil _ constrained
    exact ⟨constraint.sourceField, List.mem_map_of_mem inside,
      constraint.texts_nonblank constraint.sourceField (by simp)⟩
  · refine ⟨Text.nonblank_literal rfl, ?_⟩
    rcases output with typed | structured | streaming
    · refine exists_inputSource (List.mem_cons_self (a := "output_type")) ?_
      unfold outputType at typed
      unfold hasKey
      cases found : request.input.get? "output_type" with
      | none => simp [found] at typed
      | some value => rfl
    · exact exists_inputSource (by simp) (hasKey_of_explicitBool structured)
    · exact exists_inputSource (by simp) (hasKey_of_explicitBool streaming)

/-- The evidence of the signals of a request. -/
def signalEvidence (request : WorkloadRequest) (constraints : List CanonicalConstraint) :
    Except Fault (List SignalEvidence) :=
  (evidenceGroups request constraints).mapM fun group =>
    SignalEvidence.construct group.1 group.2

theorem exists_signalEvidence (request : WorkloadRequest)
    (constraints : List CanonicalConstraint) :
    ∃ evidence, signalEvidence request constraints = .ok evidence ∧ evidence ≠ [] := by
  have made : ∀ group ∈ evidenceGroups request constraints,
      ∃ evidence, SignalEvidence.construct group.1 group.2 = .ok evidence := by
    intro group member
    obtain ⟨visible, source, inside, sourceVisible⟩ := evidenceGroups_visible member
    exact SignalEvidence.exists_construct visible inside sourceVisible
  obtain ⟨evidence, constructed⟩ := exists_mapM_eq_ok made
  refine ⟨evidence, constructed, ?_⟩
  rintro rfl
  have paired := mapM_eq_ok_iff_forall₂.mp constructed
  simp [evidenceGroups] at paired

/-! ## Extraction -/

/-- The only constraint of a kind, if there is one. -/
def constraintByKind (constraints : List CanonicalConstraint) (kind : ConstraintKind) :
    Except Fault (Option CanonicalConstraint) := do
  let found := constraints.filter fun constraint => constraint.kind = kind
  require (found.length ≤ 1) (.value s!"canonical {kind.value} constraint is ambiguous")
  return found.head?

/-- The constraints of a result that are signals. -/
def signalConstraints (constraints : ConstraintNormalizationResult) : List CanonicalConstraint :=
  constraints.constraints.filter fun constraint => constraint.kind ∈ constraintKinds

/-- The constraints among the signals. -/
structure ConstraintSignals where
  latency : Option CanonicalConstraint
  quality : Option CanonicalConstraint
  privacy : Option CanonicalConstraint
  cost : Option CanonicalConstraint

/-- The only constraint of each kind. -/
def constraintSignals (constraints : List CanonicalConstraint) :
    Except Fault ConstraintSignals := do
  let latency ← constraintByKind constraints .latency
  let quality ← constraintByKind constraints .quality
  let privacy ← constraintByKind constraints .privacy
  let cost ← constraintByKind constraints .cost
  return ⟨latency, quality, privacy, cost⟩

/-- The signals of a request with its constraints and the evidence. -/
def signalsOf (normalization : NormalizationResult) (request : WorkloadRequest)
    (constraints : ConstraintSignals) (evidence : List SignalEvidence) (present : evidence ≠ []) :
    WorkloadSignals where
  requestId := normalization.requestId
  workloadId := normalization.workloadId
  sessionId := normalization.sessionId
  textInputPresent := modalityPresence request "text"
  imageInputPresent := modalityPresence request "image"
  audioInputPresent := modalityPresence request "audio"
  videoInputPresent := modalityPresence request "video"
  structuredDataPresent := modalityPresence request "structured_data"
  codeInputPresent := modalityPresence request "code"
  explicitModalities := stringValues (explicitModalities request)
  explicitModalityCount := (explicitModalities request).length
  textCharacterCount := textCharacterCount request
  inputItemCount := countItems request.input "items"
  messageCount := countItems request.input "messages"
  segmentCount := countItems request.input "segments"
  attachmentCount := attachmentCount request
  explicitContextSupplied := explicitContextSupplied request
  conversationContextPresent := conversationContextPresent request
  longContextRequested := explicitBool request.context "long_context"
  contextReferences := stringValues (contextReferences request)
  toolUseRequested := explicitBool request.input "tool_use"
  declaredToolNames := stringValues (declaredToolNames request)
  externalActionRequired := explicitBool request.input "external_action_required"
  latencyConstraint := constraints.latency
  qualityConstraint := constraints.quality
  privacyConstraint := constraints.privacy
  costConstraint := constraints.cost
  outputType := outputType request
  structuredOutputRequired := explicitBool request.input "structured_output_required"
  streamingRequested := explicitBool request.input "streaming"
  evidence := .of SignalEvidence.key evidence present
  identity_nonblank := normalization.identity_nonblank
  texts_canonical := by simp [stringValues_stringValues]

/-- Extract the signals of a normalized request with its canonical constraints. -/
def extractWorkloadSignals (normalization : NormalizationResult)
    (constraints : ConstraintNormalizationResult) : Except Fault WorkloadSignals :=
  match normalization.normalized, normalization.normalizedRequest with
  | true, some request => do
      require (constraints.canonicalized = true)
        (.value "canonical constraints must be complete")
      require (∀ text ∈ [normalization.requestId, normalization.workloadId,
        normalization.sessionId], Text.Nonblank text)
        (.value "normalization identity must be nonblank")
      require (constraints.identity = normalization.identity)
        (.value "constraint identity does not match normalized request identity")
      let evidence ← signalEvidence request (signalConstraints constraints)
      let signals ← constraintSignals (signalConstraints constraints)
      if present : evidence ≠ [] then
        return signalsOf normalization request signals evidence present
      else .error (.value "evidence must not be empty")
  | _, _ => .error (.value "normalization must be complete")

/-! ## When extraction succeeds -/

/-- The constraints of a kind. -/
def ofKind (constraints : List CanonicalConstraint) (kind : ConstraintKind) :
    List CanonicalConstraint :=
  constraints.filter fun constraint => constraint.kind = kind

/-- The error about a kind of which there are several constraints. -/
def ambiguous (kind : ConstraintKind) : Fault :=
  .value s!"canonical {kind.value} constraint is ambiguous"

theorem constraintByKind_eq_ok_iff {constraints : List CanonicalConstraint}
    {kind : ConstraintKind} {found : Option CanonicalConstraint} :
    constraintByKind constraints kind = .ok found ↔
      (ofKind constraints kind).length ≤ 1 ∧ (ofKind constraints kind).head? = found := by
  simp only [constraintByKind, bind_eq_ok, require_eq_ok, exists_const, pure_eq_ok,
    Except.ok.injEq, ofKind]

theorem constraintByKind_eq_error_iff {constraints : List CanonicalConstraint}
    {kind : ConstraintKind} {fault : Fault} :
    constraintByKind constraints kind = .error fault ↔
      ¬ (ofKind constraints kind).length ≤ 1 ∧ fault = ambiguous kind := by
  simp only [constraintByKind, bind_eq_error, require_eq_error, pure_eq_ok, reduceCtorEq, and_false,
    exists_false, or_false, ofKind, ambiguous]

theorem constraintSignals_eq_ok_iff {constraints : List CanonicalConstraint}
    {signals : ConstraintSignals} : constraintSignals constraints = .ok signals ↔
      (∀ kind ∈ constraintKinds, (ofKind constraints kind).length ≤ 1) ∧
        signals = ⟨(ofKind constraints .latency).head?, (ofKind constraints .quality).head?,
          (ofKind constraints .privacy).head?, (ofKind constraints .cost).head?⟩ := by
  simp only [constraintSignals, bind_eq_ok, constraintByKind_eq_ok_iff, pure_eq_ok,
    Except.ok.injEq, constraintKinds, List.forall_mem_cons, List.not_mem_nil, false_implies,
    implies_true, and_true]
  constructor
  · rintro ⟨_, ⟨latency, rfl⟩, _, ⟨quality, rfl⟩, _, ⟨privacy, rfl⟩, _, ⟨cost, rfl⟩, rfl⟩
    exact ⟨⟨latency, quality, privacy, cost⟩, rfl⟩
  · rintro ⟨⟨latency, quality, privacy, cost⟩, rfl⟩
    exact ⟨_, ⟨latency, rfl⟩, _, ⟨quality, rfl⟩, _, ⟨privacy, rfl⟩, _, ⟨cost, rfl⟩, rfl⟩

theorem ambiguous_of_constraintSignals {constraints : List CanonicalConstraint} {fault : Fault}
    (refused : constraintSignals constraints = .error fault) :
    ∃ kind ∈ constraintKinds, fault = ambiguous kind := by
  simp only [constraintSignals, bind_eq_error, constraintByKind_eq_error_iff, pure_eq_ok,
    reduceCtorEq, and_false, exists_false, or_false] at refused
  rcases refused with ⟨_, rfl⟩ | ⟨_, _, ⟨_, rfl⟩ | ⟨_, _, ⟨_, rfl⟩ | ⟨_, _, _, rfl⟩⟩⟩
  · exact ⟨.latency, by decide, rfl⟩
  · exact ⟨.quality, by decide, rfl⟩
  · exact ⟨.privacy, by decide, rfl⟩
  · exact ⟨.cost, by decide, rfl⟩

theorem ofKind_signalConstraints {constraints : ConstraintNormalizationResult}
    {kind : ConstraintKind} (member : kind ∈ constraintKinds) :
    ofKind (signalConstraints constraints) kind = ofKind constraints.constraints kind := by
  rw [ofKind, signalConstraints, List.filter_filter, ofKind]
  refine List.filter_congr fun constraint _ => ?_
  by_cases same : constraint.kind = kind
  · simp [same, member]
  · simp [same]

variable {normalization : NormalizationResult} {constraints : ConstraintNormalizationResult}
  {request : WorkloadRequest}

/-- Extraction from a normalized request and canonical constraints of one identity comes down to
the constraint signals. -/
theorem extract_eq (given : normalization.normalizedRequest = some request)
    (canonicalized : constraints.canonicalized = true)
    (same : constraints.identity = normalization.identity) :
    ∃ evidence, ∃ present : evidence ≠ [],
      extractWorkloadSignals normalization constraints =
        constraintSignals (signalConstraints constraints) >>= fun signals =>
          .ok (signalsOf normalization request signals evidence present) := by
  have normalized : normalization.normalized = true := by
    rw [← normalization.request_iff, given, Option.isSome_some]
  obtain ⟨evidence, made, present⟩ :=
    exists_signalEvidence request (signalConstraints constraints)
  refine ⟨evidence, present, ?_⟩
  unfold extractWorkloadSignals
  rw [normalized, given]
  simp only [require_of_true canonicalized, require_of_true normalization.identity_nonblank,
    require_of_true same, ok_bind, made]
  cases constraintSignals (signalConstraints constraints) with
  | error fault => rfl
  | ok signals =>
      rw [ok_bind, dif_pos present]
      rfl

end Intelligence
end MercuryX
