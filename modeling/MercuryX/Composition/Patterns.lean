import MercuryX.Composition.Contracts

/-!
# Certified patterns

The seven shapes that compositions are instantiated from. Each is one path of stages with fixed
roles, and passes the check that its constructor makes.
-/

namespace MercuryX
namespace Composition

open Foundation
open MercuryX.Graph (GraphDependencyType)

/-- When a pattern applies. -/
inductive PatternApplicability where
  | singleCapable
  | verificationRequired
  | critiqueRequired
  | specialistReturnRequired
  | retrievalReturnRequired
  | toolReturnRequired
  | specialistVerificationRequired
  deriving DecidableEq, Repr

/-- A stage of a pattern. -/
structure PatternSlot where
  stageId : String
  role : CompositionRole
  /-- Stages of one group are bound to one record. -/
  identityGroup : Option String := none
  /-- The stage id is nonblank. -/
  stageId_nonblank : Text.Nonblank stageId := by exact Text.nonblank_literal rfl

instance : DecidableEq PatternSlot := fun left right =>
  decidable_of_iff (left.stageId = right.stageId ∧ left.role = right.role ∧
      left.identityGroup = right.identityGroup) (by
    cases left
    cases right
    simp)

/-- A handoff of a pattern. -/
structure PatternEdge where
  sourceStageId : String
  targetStageId : String
  dependencyType : GraphDependencyType := .data
  /-- The source id is nonblank. -/
  source_nonblank : Text.Nonblank sourceStageId := by exact Text.nonblank_literal rfl
  /-- The target id is nonblank. -/
  target_nonblank : Text.Nonblank targetStageId := by exact Text.nonblank_literal rfl

instance : DecidableEq PatternEdge := fun left right =>
  decidable_of_iff (left.sourceStageId = right.sourceStageId ∧
      left.targetStageId = right.targetStageId ∧ left.dependencyType = right.dependencyType) (by
    cases left
    cases right
    simp)

/-- A pattern of stages and handoffs. -/
structure CertifiedCompositionPattern where
  topology : CertifiedTopology
  patternId : String
  applicability : PatternApplicability
  slots : List PatternSlot
  edges : List PatternEdge
  maxNodes : Nat
  /-- The id is nonblank. -/
  patternId_nonblank : Text.Nonblank patternId := by exact Text.nonblank_literal rfl

instance : DecidableEq CertifiedCompositionPattern := fun left right =>
  decidable_of_iff (left.topology = right.topology ∧ left.patternId = right.patternId ∧
      left.applicability = right.applicability ∧ left.slots = right.slots ∧
      left.edges = right.edges ∧ left.maxNodes = right.maxNodes) (by
    cases left
    cases right
    simp)

/-! ## The shape of a pattern -/

/-- The roles of a topology, in order. -/
def roleSequences : CertifiedTopology → List CompositionRole
  | .single => [.primary]
  | .primaryVerifier => [.primary, .verifier]
  | .primaryCritic => [.primary, .critic]
  | .primarySpecialistPrimary => [.primary, .specialist, .primary]
  | .primaryRetrievalPrimary => [.primary, .retrievalAugmenter, .primary]
  | .primaryToolPrimary => [.primary, .toolModel, .primary]
  | .primarySpecialistVerifier => [.primary, .specialist, .verifier]

/-- When the pattern of a topology applies. -/
def applicabilityOf : CertifiedTopology → PatternApplicability
  | .single => .singleCapable
  | .primaryVerifier => .verificationRequired
  | .primaryCritic => .critiqueRequired
  | .primarySpecialistPrimary => .specialistReturnRequired
  | .primaryRetrievalPrimary => .retrievalReturnRequired
  | .primaryToolPrimary => .toolReturnRequired
  | .primarySpecialistVerifier => .specialistVerificationRequired

/-- The pattern id of a topology. -/
def patternIds (topology : CertifiedTopology) : String :=
  "pattern-" ++ String.ofList (topology.value.toList.map fun c => if c = '_' then '-' else c) ++
    "-v1"

/-- The handoffs between roles that patterns may have. -/
def allowedTransitions : List (CompositionRole × CompositionRole) :=
  [(.primary, .verifier), (.primary, .critic), (.primary, .specialist),
    (.primary, .retrievalAugmenter), (.primary, .toolModel), (.specialist, .primary),
    (.specialist, .verifier), (.retrievalAugmenter, .primary), (.toolModel, .primary)]

/-- The topologies that return to the primary model. -/
def returnTopologies : List CertifiedTopology :=
  [.primarySpecialistPrimary, .primaryRetrievalPrimary, .primaryToolPrimary]

namespace CertifiedCompositionPattern

/-- The ids of the stages. -/
def stageIds (pattern : CertifiedCompositionPattern) : List String :=
  pattern.slots.map PatternSlot.stageId

/-- The arrows of the handoffs. -/
def arrows (pattern : CertifiedCompositionPattern) : List (String × String) :=
  pattern.edges.map fun edge => (edge.sourceStageId, edge.targetStageId)

/-- The role of a stage. -/
def roleOf (pattern : CertifiedCompositionPattern) (stageId : String) : Option CompositionRole :=
  (pattern.slots.find? fun slot => slot.stageId = stageId).map PatternSlot.role

/-- The role of a stage, in the order in which stages follow one another. -/
def orderedRoles (pattern : CertifiedCompositionPattern) : List (Option CompositionRole) :=
  (stageOrder pattern.stageIds pattern.arrows).map pattern.roleOf

/-- The shape that the constructor of a pattern requires. -/
structure MatchesCertifiedShape (pattern : CertifiedCompositionPattern) : Prop where
  /-- The id is that of the topology. -/
  pattern_id : pattern.patternId = patternIds pattern.topology
  /-- The applicability is that of the topology. -/
  applicability : pattern.applicability = applicabilityOf pattern.topology
  /-- There are as many slots as roles. -/
  max_nodes : pattern.maxNodes = (roleSequences pattern.topology).length ∧
    pattern.slots.length = pattern.maxNodes ∧ pattern.maxNodes ≤ maxCompositionNodes
  /-- Stages are told apart. -/
  stageIds_nodup : pattern.stageIds.Nodup
  /-- Handoffs pass data between stages whose roles allow it. -/
  edges_allowed : ∀ edge ∈ pattern.edges, edge.dependencyType = .data ∧
    ∃ transition ∈ allowedTransitions, pattern.roleOf edge.sourceStageId = some transition.1 ∧
      pattern.roleOf edge.targetStageId = some transition.2
  /-- The stages form a connected graph without cycles. -/
  graph_valid : checkStageGraph pattern.stageIds pattern.arrows = .ok ()
  /-- The stages have the roles of the topology, in order. -/
  roles : pattern.orderedRoles = (roleSequences pattern.topology).map some
  /-- The stages form one path. -/
  path : pattern.edges.length = pattern.slots.length - 1
  /-- Exactly the primary stages of a return topology share an identity. -/
  identity_groups : ∀ slot ∈ pattern.slots, slot.identityGroup =
    if pattern.topology ∈ returnTopologies ∧ slot.role = .primary then some "primary" else none

end CertifiedCompositionPattern

/-! ## The certified patterns -/

/-- The stage that opens a return topology. -/
def primaryIn : PatternSlot := ⟨"primary-in", .primary, some "primary", by decide⟩

/-- The stage that closes a return topology. -/
def primaryOut : PatternSlot := ⟨"primary-out", .primary, some "primary", by decide⟩

/-- The certified patterns, in the order of the topologies. -/
def certifiedPatterns : List CertifiedCompositionPattern := [
  { topology := .single
    patternId := "pattern-single-v1"
    applicability := .singleCapable
    slots := [{ stageId := "primary", role := .primary }]
    edges := []
    maxNodes := 1 },
  { topology := .primaryVerifier
    patternId := "pattern-primary-verifier-v1"
    applicability := .verificationRequired
    slots := [{ stageId := "primary", role := .primary },
      { stageId := "verifier", role := .verifier }]
    edges := [{ sourceStageId := "primary", targetStageId := "verifier" }]
    maxNodes := 2 },
  { topology := .primaryCritic
    patternId := "pattern-primary-critic-v1"
    applicability := .critiqueRequired
    slots := [{ stageId := "primary", role := .primary },
      { stageId := "critic", role := .critic }]
    edges := [{ sourceStageId := "primary", targetStageId := "critic" }]
    maxNodes := 2 },
  { topology := .primarySpecialistPrimary
    patternId := "pattern-primary-specialist-primary-v1"
    applicability := .specialistReturnRequired
    slots := [primaryIn, { stageId := "specialist", role := .specialist }, primaryOut]
    edges := [{ sourceStageId := "primary-in", targetStageId := "specialist" },
      { sourceStageId := "specialist", targetStageId := "primary-out" }]
    maxNodes := 3 },
  { topology := .primaryRetrievalPrimary
    patternId := "pattern-primary-retrieval-primary-v1"
    applicability := .retrievalReturnRequired
    slots := [primaryIn, { stageId := "retrieval-augmenter", role := .retrievalAugmenter },
      primaryOut]
    edges := [{ sourceStageId := "primary-in", targetStageId := "retrieval-augmenter" },
      { sourceStageId := "retrieval-augmenter", targetStageId := "primary-out" }]
    maxNodes := 3 },
  { topology := .primaryToolPrimary
    patternId := "pattern-primary-tool-primary-v1"
    applicability := .toolReturnRequired
    slots := [primaryIn, { stageId := "tool-model", role := .toolModel }, primaryOut]
    edges := [{ sourceStageId := "primary-in", targetStageId := "tool-model" },
      { sourceStageId := "tool-model", targetStageId := "primary-out" }]
    maxNodes := 3 },
  { topology := .primarySpecialistVerifier
    patternId := "pattern-primary-specialist-verifier-v1"
    applicability := .specialistVerificationRequired
    slots := [{ stageId := "primary", role := .primary },
      { stageId := "specialist", role := .specialist },
      { stageId := "verifier", role := .verifier }]
    edges := [{ sourceStageId := "primary", targetStageId := "specialist" },
      { sourceStageId := "specialist", targetStageId := "verifier" }]
    maxNodes := 3 }]

/-- The certified pattern of a topology. -/
def getCertifiedPattern (topology : CertifiedTopology) : Option CertifiedCompositionPattern :=
  certifiedPatterns.find? fun pattern => pattern.topology = topology

theorem certifiedPatterns_match :
    ∀ pattern ∈ certifiedPatterns, pattern.MatchesCertifiedShape := by
  intro pattern certified
  fin_cases certified
  all_goals constructor
  all_goals decide

theorem getCertifiedPattern_topology :
    ∀ pattern ∈ certifiedPatterns, getCertifiedPattern pattern.topology = some pattern := by
  decide

end Composition
end MercuryX
