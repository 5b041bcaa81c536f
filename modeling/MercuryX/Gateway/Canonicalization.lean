import MercuryX.Foundation.Merging
import MercuryX.Gateway.Results

/-!
# Constraint canonicalization

The constraints of a request are those that its fields imply and any that are added. They are
merged by identity and meaning; a result is canonical when no identity stands for two constraints
and the request is the one that the identity names.
-/

namespace MercuryX
namespace Gateway

open Foundation

/-- The text of a constraint kind. -/
def ConstraintKind.value : ConstraintKind → String
  | latency => "latency"
  | quality => "quality"
  | cost => "cost"
  | privacy => "privacy"
  | priority => "priority"
  | region => "region"
  | capability => "capability"

/-! ## Construction -/

/-- The content of a constraint. -/
structure ConstraintFields where
  constraintId : String
  kind : ConstraintKind
  operator : String
  value : ConstraintValue
  unit : Option String
  required : Bool
  sourceField : String

namespace ConstraintFields

/-- Text fields are nonblank when present, and so is a text value. -/
def Valid (fields : ConstraintFields) : Prop :=
  (∀ text ∈ [fields.constraintId, fields.operator, fields.sourceField] ++ fields.unit.toList,
    Text.Nonblank text) ∧ ∀ text, fields.value = .text text → Text.Nonblank text

/-- A value that is not a blank text. -/
def visible : ConstraintValue → Prop
  | .text text => Text.Nonblank text
  | _ => True

instance (value : ConstraintValue) : Decidable (visible value) := by
  cases value <;> unfold visible <;> infer_instance

/-- The checks of a constraint. -/
def validate (fields : ConstraintFields) : Except Fault Unit := do
  let evidence (field text : String) := rule "CanonicalConstraint" field (Text.Nonblank text)
    "constraint evidence must be non-empty"
  evidence "constraint_id" fields.constraintId
  evidence "operator" fields.operator
  rule "CanonicalConstraint" "value" (visible fields.value) "constraint value must be non-empty"
  forEach (evidence "unit") fields.unit.toList
  evidence "source_field" fields.sourceField

theorem validate_eq_ok_iff {fields : ConstraintFields} {done : Unit} :
    fields.validate = .ok done ↔ fields.Valid := by
  have value : visible fields.value ↔ ∀ text, fields.value = .text text → Text.Nonblank text := by
    cases fields.value <;> simp [visible]
  simp only [validate, Valid, bind_eq_ok, rule_eq_ok, forEach_eq_ok, exists_const, value,
    List.forall_mem_append, List.forall_mem_cons, List.not_mem_nil, false_implies, implies_true,
    and_true]
  constructor
  · rintro ⟨constraintId, operator, value, unit, sourceField⟩
    exact ⟨⟨⟨constraintId, operator, sourceField⟩, unit⟩, value⟩
  · rintro ⟨⟨⟨constraintId, operator, sourceField⟩, unit⟩, value⟩
    exact ⟨constraintId, operator, value, unit, sourceField⟩

end ConstraintFields

/-- The content of a constraint that passed its checks. -/
def CanonicalConstraint.fields (constraint : CanonicalConstraint) : ConstraintFields where
  constraintId := constraint.constraintId
  kind := constraint.kind
  operator := constraint.operator
  value := constraint.value
  unit := constraint.unit
  required := constraint.required
  sourceField := constraint.sourceField

/-- Construct a constraint. -/
def CanonicalConstraint.construct : ConstraintFields → Except Fault CanonicalConstraint :=
  checked ConstraintFields.validate ConstraintFields.validate_eq_ok_iff fun fields valid =>
    ⟨fields.constraintId, fields.kind, fields.operator, fields.value, fields.unit,
      fields.required, fields.sourceField, valid.1, valid.2⟩

theorem CanonicalConstraint.fields_of_construct {fields : ConstraintFields}
    {constraint : CanonicalConstraint} (constructed : construct fields = .ok constraint) :
    constraint.fields = fields := by
  obtain ⟨_, rfl⟩ := checked_eq_ok_iff.mp constructed
  rfl

/-! ## Constraints of a request -/

/-- A latency or a cost as the value of a constraint. -/
def ConstraintValue.ofBound : WithTop ℚ → ConstraintValue
  | none => infinite false
  | some bound => number bound

/-- The constraint that a hardware text of a request stands for: a region, or a capability. -/
def hardwareConstraint (workloadId : String) (entry : String × Nat) : ConstraintFields :=
  let text := Text.strip entry.1
  let (kind, value) := match text.toList.dropPrefix? "region:".toList with
    | some rest => (ConstraintKind.region, Text.strip (String.ofList rest))
    | none => (ConstraintKind.capability, text)
  { constraintId := s!"{workloadId}:{kind.value}:{entry.2}"
    kind := kind
    operator := "equals"
    value := .text value
    unit := none
    required := true
    sourceField := "hardware_constraints" }

/-- The constraints that the fields of a request imply. -/
def constraintFields (workload : WorkloadRequest) : List ConstraintFields :=
  [{ constraintId := s!"{workload.workloadId}:latency"
     kind := .latency
     operator := "less_than_or_equal"
     value := .ofBound workload.latencyTargetMs
     unit := some "ms"
     required := true
     sourceField := "latency_target_ms" },
   { constraintId := s!"{workload.workloadId}:quality"
     kind := .quality
     operator := "greater_than_or_equal"
     value := .number workload.qualityTarget
     unit := some "score"
     required := true
     sourceField := "quality_target" },
   { constraintId := s!"{workload.workloadId}:privacy"
     kind := .privacy
     operator := "equals"
     value := .text workload.privacyLevel
     unit := none
     required := true
     sourceField := "privacy_level" },
   { constraintId := s!"{workload.workloadId}:priority"
     kind := .priority
     operator := "equals"
     value := .number workload.priority
     unit := some "priority"
     required := true
     sourceField := "priority" }] ++
  (workload.costBudget.map fun budget =>
    { constraintId := s!"{workload.workloadId}:cost"
      kind := .cost
      operator := "less_than_or_equal"
      value := .ofBound budget
      unit := some "budget"
      required := true
      sourceField := "cost_budget" }).toList ++
  workload.hardwareConstraints.zipIdx.map (hardwareConstraint workload.workloadId)

/-- The constraints of a request, in canonical form. -/
def workloadConstraints (workload : WorkloadRequest) : Except Fault (List CanonicalConstraint) :=
  (constraintFields workload).mapM CanonicalConstraint.construct

/-! ## Canonicalization -/

/-- What a constraint means. -/
abbrev SemanticKey :=
  ConstraintKind × String × ConstraintValue × Option String × Bool × String

/-- What the content of a constraint means, apart from its identity. -/
def ConstraintFields.semanticKey (fields : ConstraintFields) : SemanticKey :=
  (fields.kind, fields.operator, fields.value, fields.unit, fields.required, fields.sourceField)

/-- What a constraint means, apart from its identity. -/
def CanonicalConstraint.semanticKey (constraint : CanonicalConstraint) : SemanticKey :=
  (constraint.kind, constraint.operator, constraint.value, constraint.unit, constraint.required,
    constraint.sourceField)

/-- The constraints of a list, merged by identity and meaning. -/
def mergedConstraints (candidates : List CanonicalConstraint) : Merged CanonicalConstraint :=
  .all CanonicalConstraint.constraintId CanonicalConstraint.semanticKey candidates

/-- The issues of canonicalization. -/
def canonicalizationIssues (identity : GatewayIdentity) (workload : WorkloadRequest)
    (conflicts : List CanonicalConstraint) : List String :=
  (conflicts.map fun candidate => "constraint conflict for " ++ candidate.constraintId) ++
    (if identity.workloadId ≠ workload.workloadId then
      ["workload identity does not match constraint source"] else []) ++
    (if some identity.sessionId ≠ workload.sessionId then
      ["session identity does not match constraint source"] else [])

theorem canonicalizationIssues_nonblank {identity : GatewayIdentity} {workload : WorkloadRequest}
    {conflicts : List CanonicalConstraint} :
    ∀ issue ∈ canonicalizationIssues identity workload conflicts, Text.Nonblank issue := by
  simp only [canonicalizationIssues, List.forall_mem_append]
  refine ⟨⟨fun issue member => ?_, ?_⟩, ?_⟩
  · obtain ⟨candidate, _, rfl⟩ := List.mem_map.mp member
    exact Text.nonblank_append_left (by decide) _
  · split
    · decide
    · simp
  · split
    · decide
    · simp

/-- The result of merging the candidates for an identity and a request. -/
def constraintResult (identity : GatewayIdentity) (workload : WorkloadRequest)
    (merged : Merged CanonicalConstraint) : ConstraintNormalizationResult where
  requestId := identity.requestId
  workloadId := identity.workloadId
  sessionId := identity.sessionId
  constraints := merged.kept
  issues := canonicalizationIssues identity workload merged.conflicts
  canonicalized := (canonicalizationIssues identity workload merged.conflicts).isEmpty
  identity_nonblank := identity.texts_nonblank
  issues_nonblank := canonicalizationIssues_nonblank
  failure_explained failed clear := by
    rw [clear] at failed
    contradiction

/-- Bring the constraints of a request into canonical form, with the ones that are added. -/
def canonicalizeGatewayConstraints (identity : GatewayIdentity) (workload : WorkloadRequest)
    (additional : List CanonicalConstraint) : Except Fault ConstraintNormalizationResult := do
  let own ← workloadConstraints workload
  return constraintResult identity workload (mergedConstraints (own ++ additional))

/-- The candidates for an identity and a request: what the request implies, and what is added. -/
def candidateFields (workload : WorkloadRequest) (additional : List CanonicalConstraint) :
    List ConstraintFields :=
  constraintFields workload ++ additional.map CanonicalConstraint.fields

section Canonicalized

variable {identity : GatewayIdentity} {workload : WorkloadRequest}
  {additional : List CanonicalConstraint} {result : ConstraintNormalizationResult}

theorem exists_merged (returned : canonicalizeGatewayConstraints identity workload additional =
    .ok result) : ∃ candidates, candidates.map CanonicalConstraint.fields =
      candidateFields workload additional ∧
        result = constraintResult identity workload (mergedConstraints candidates) := by
  simp only [canonicalizeGatewayConstraints, bind_eq_ok, pure_eq_ok, Except.ok.injEq] at returned
  obtain ⟨own, constructed, rfl⟩ := returned
  refine ⟨own ++ additional, ?_, rfl⟩
  have fields : own.map CanonicalConstraint.fields = (constraintFields workload).map id :=
    map_of_mapM_eq_ok (fun _ _ made => CanonicalConstraint.fields_of_construct made) constructed
  rw [List.map_append, fields, List.map_id, candidateFields]

theorem canonicalized_iff {merged : Merged CanonicalConstraint} :
    (constraintResult identity workload merged).canonicalized = true ↔
      merged.conflicts = [] ∧ identity.workloadId = workload.workloadId ∧
        some identity.sessionId = workload.sessionId := by
  simp only [constraintResult, canonicalizationIssues, List.isEmpty_iff, List.append_eq_nil_iff,
    List.map_eq_nil_iff, ite_eq_right_iff, List.cons_ne_nil, imp_false, not_not, ne_eq, and_assoc]

/-- A canonical result keeps at most one constraint of a kind exactly when all candidates of the
kind mean the same. -/
theorem at_most_one_of_kind_iff
    (returned : canonicalizeGatewayConstraints identity workload additional = .ok result)
    (canonical : result.canonicalized = true) (kind : ConstraintKind) :
    (result.constraints.filter fun constraint => constraint.kind = kind).length ≤ 1 ↔
      ∀ left ∈ candidateFields workload additional, ∀ right ∈ candidateFields workload additional,
        left.kind = kind → right.kind = kind → left.semanticKey = right.semanticKey := by
  obtain ⟨candidates, fields, rfl⟩ := exists_merged returned
  have clear := (canonicalized_iff.mp canonical).1
  have covers : Merged.Covers CanonicalConstraint.constraintId CanonicalConstraint.semanticKey
      candidates (mergedConstraints candidates) := Merged.covers_all candidates
  have few := covers.at_most_one_iff clear fun key => key.1 = kind
  simp only [decide_eq_true_eq] at few
  rw [← fields]
  simp only [List.forall_mem_map]
  exact few

theorem exists_kept
    (returned : canonicalizeGatewayConstraints identity workload additional = .ok result)
    (canonical : result.canonicalized = true) {candidate : ConstraintFields}
    (member : candidate ∈ candidateFields workload additional) :
    ∃ constraint ∈ result.constraints, constraint.semanticKey = candidate.semanticKey := by
  obtain ⟨candidates, fields, rfl⟩ := exists_merged returned
  have clear := (canonicalized_iff.mp canonical).1
  have covers : Merged.Covers CanonicalConstraint.constraintId CanonicalConstraint.semanticKey
      candidates (mergedConstraints candidates) := Merged.covers_all candidates
  rw [← fields] at member
  obtain ⟨record, seen, rfl⟩ := List.mem_map.mp member
  exact List.mem_map.mp (covers.covered clear record seen)

end Canonicalized

end Gateway
end MercuryX
