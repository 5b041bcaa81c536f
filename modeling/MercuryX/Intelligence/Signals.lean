import MercuryX.Gateway.Constraints
import MercuryX.Intelligence.Models

/-!
# Workload signals

What a request says explicitly about the workload. A signal that the request does not mention is
absent, which differs from a signal that is denied.
-/

namespace MercuryX
namespace Intelligence

open Foundation
open Gateway (CanonicalConstraint)

/-- The distinct nonblank texts of a list, stripped and in order. -/
def stringValues (values : List String) : List String :=
  canonical id ((values.map Text.strip).filter fun text => text ≠ "")

theorem mem_stringValues {values : List String} {text : String} :
    text ∈ stringValues values ↔
      ∃ value ∈ values, Text.Nonblank value ∧ Text.strip value = text := by
  simp only [stringValues, mem_canonical, List.mem_filter, List.mem_map, decide_eq_true_eq]
  constructor
  · rintro ⟨⟨value, member, rfl⟩, visible⟩
    exact ⟨value, member, visible, rfl⟩
  · rintro ⟨value, member, visible, rfl⟩
    exact ⟨⟨value, member, rfl⟩, visible⟩

theorem stringValues_stringValues (values : List String) :
    stringValues (stringValues values) = stringValues values := by
  have stripped : (stringValues values).map Text.strip = stringValues values := by
    conv_rhs => rw [← List.map_id (stringValues values)]
    refine List.map_congr_left fun text member => ?_
    obtain ⟨value, _, _, rfl⟩ := mem_stringValues.mp member
    exact Text.strip_strip value
  have visible : (stringValues values).filter (fun text => text ≠ "") = stringValues values := by
    refine List.filter_eq_self.mpr fun text member => ?_
    obtain ⟨value, _, visible, rfl⟩ := mem_stringValues.mp member
    exact decide_eq_true visible
  rw [stringValues, stripped, visible]
  exact canonical_canonical id _

/-- The source fields behind a group of signals. -/
structure SignalEvidence where
  signalGroup : String
  sourceFields : List String
  /-- The group is nonblank. -/
  signalGroup_nonblank : Text.Nonblank signalGroup
  /-- The source fields are in canonical form, and there is one. -/
  sourceFields_canonical : stringValues sourceFields = sourceFields ∧ sourceFields ≠ []

instance : DecidableEq SignalEvidence := fun left right =>
  decidable_of_iff (left.signalGroup = right.signalGroup ∧
      left.sourceFields = right.sourceFields) (by
    cases left
    cases right
    simp)

/-- Evidence of signals is ordered by group and source fields. -/
def SignalEvidence.key (evidence : SignalEvidence) : String ×ₗ List String :=
  toLex (evidence.signalGroup, evidence.sourceFields)

/-- The explicit signals of a request. -/
structure WorkloadSignals where
  requestId : String
  workloadId : String
  sessionId : String
  textInputPresent : Option Bool
  imageInputPresent : Option Bool
  audioInputPresent : Option Bool
  videoInputPresent : Option Bool
  structuredDataPresent : Option Bool
  codeInputPresent : Option Bool
  explicitModalities : List String
  explicitModalityCount : Int
  textCharacterCount : Option Int
  inputItemCount : Option Int
  messageCount : Option Int
  segmentCount : Option Int
  attachmentCount : Option Int
  explicitContextSupplied : Option Bool
  conversationContextPresent : Option Bool
  longContextRequested : Option Bool
  contextReferences : List String
  toolUseRequested : Option Bool
  declaredToolNames : List String
  externalActionRequired : Option Bool
  latencyConstraint : Option CanonicalConstraint
  qualityConstraint : Option CanonicalConstraint
  privacyConstraint : Option CanonicalConstraint
  costConstraint : Option CanonicalConstraint
  outputType : Option String
  structuredOutputRequired : Option Bool
  streamingRequested : Option Bool
  evidence : CanonicalTuple SignalEvidence SignalEvidence.key
  /-- Identity fields are nonblank. -/
  identity_nonblank : ∀ text ∈ [requestId, workloadId, sessionId], Text.Nonblank text
  /-- Text collections are in canonical form. -/
  texts_canonical : ∀ texts ∈ [explicitModalities, contextReferences, declaredToolNames],
    stringValues texts = texts

/-- A signal that is present and affirmed. -/
def affirmed (signal : Option Bool) : Bool := signal = some true

/-- Tools are requested or declared. -/
def WorkloadSignals.hasTools (signals : WorkloadSignals) : Bool :=
  affirmed signals.toolUseRequested || !signals.declaredToolNames.isEmpty

/-- Context is referenced. -/
def WorkloadSignals.hasRetrieval (signals : WorkloadSignals) : Bool :=
  !signals.contextReferences.isEmpty

end Intelligence
end MercuryX
