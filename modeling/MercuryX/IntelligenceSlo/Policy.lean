import MercuryX.Foundation.Dict
import MercuryX.IntelligenceSlo.Contracts

/-!
# Policy layers

Two ways to merge layers of requirements into one requirement for each metric. Both let a later
requirement replace an earlier one, and refuse some replacements of a HARD one; neither compares
all that a requirement says. The merged requirements keep the inherited HARD ones exactly when the
last requirement on a metric tightens every HARD one on it.
-/

namespace MercuryX
namespace IntelligenceSlo

open Foundation

/-! ## Merging -/

/-- What a layer of policy applies to. -/
inductive PolicyScope where
  | organization
  | tenant
  | application
  | workloadClass
  | workload
  deriving DecidableEq, Repr

namespace PolicyScope

/-- The text of a scope. -/
def value : PolicyScope → String
  | organization => "ORGANIZATION"
  | tenant => "TENANT"
  | application => "APPLICATION"
  | workloadClass => "WORKLOAD_CLASS"
  | workload => "WORKLOAD"

/-- The position of a scope, widest first. -/
def order : PolicyScope → Nat
  | organization => 0
  | tenant => 1
  | application => 2
  | workloadClass => 3
  | workload => 4

end PolicyScope

/-- A layer of requirements. -/
structure PolicyLayer where
  layerId : String
  scope : PolicyScope
  requirements : List IntelligenceRequirement
  provenanceIds : List String

/-- The failure of a merge. -/
def weakeningFault : Fault := .value "cannot weaken inherited HARD constraint"

/-- A replacement that gives up a HARD kind. -/
def losesKind (existing new : IntelligenceRequirement) : Bool :=
  existing.kind = .hard && new.kind ≠ .hard

/-- A replacement of a HARD requirement that the merge of typed layers takes for a weakening. -/
def weakens (existing new : IntelligenceRequirement) : Bool :=
  existing.kind = .hard && (new.kind ≠ .hard ||
    match existing.operator, existing.threshold, new.threshold with
    | some ">=", some old, some threshold => threshold < old
    | some "<=", some old, some threshold => old < threshold
    | _, _, _ => false)

/-- Merge named lists of requirements, later ones over earlier ones. -/
def mergePolicyLayers (layers : List (String × List IntelligenceRequirement)) :
    Except Fault (List IntelligenceRequirement × List String) := do
  let merged ← Dict.assignAll IntelligenceRequirement.metricId losesKind weakeningFault
    (layers.flatMap Prod.snd)
  return (sortOn IntelligenceRequirement.requirementId merged.values,
    layers.flatMap fun layer =>
      layer.2.map fun requirement => layer.1 ++ ":" ++ requirement.requirementId)

/-- Layers in the order of their scopes, widest first. -/
def layersInOrder (layers : List PolicyLayer) : List PolicyLayer :=
  sortOn (fun layer => layer.scope.order) layers

/-- The requirements of typed layers, in the order in which they are merged. -/
def requirementsInOrder (layers : List PolicyLayer) : List IntelligenceRequirement :=
  (layersInOrder layers).flatMap PolicyLayer.requirements

/-- Merge typed layers, those of narrower scopes over those of wider ones. -/
def mergeTypedPolicyLayers (layers : List PolicyLayer) :
    Except Fault (List IntelligenceRequirement × List String) := do
  let merged ← Dict.assignAll IntelligenceRequirement.metricId weakens weakeningFault
    (requirementsInOrder layers)
  return (sortOn IntelligenceRequirement.metricId merged.values,
    canonical id ((layersInOrder layers).flatMap fun layer =>
      layer.requirements.flatMap fun requirement =>
        (layer.scope.value ++ ":" ++ layer.layerId ++ ":" ++ requirement.requirementId) ::
          layer.provenanceIds))

/-! ## What merging keeps -/

/-- Whatever satisfies a merged requirement satisfies every HARD requirement on its metric. -/
def KeepsHard (requirements merged : List IntelligenceRequirement) : Prop :=
  ∀ new ∈ merged, ∀ old ∈ requirements, old.metricId = new.metricId → old.kind = .hard →
    ∀ meaning value, new.Satisfied meaning value → old.Satisfied meaning value

/-- The last requirement on a metric. -/
def lastOn (metricId : String) (requirements : List IntelligenceRequirement) :
    Option IntelligenceRequirement :=
  requirements.reverse.find? fun requirement => requirement.metricId = metricId

/-- The last requirement on a metric tightens every HARD requirement on it. -/
def LastTightens (requirements : List IntelligenceRequirement) : Prop :=
  ∀ old ∈ requirements, old.kind = .hard → ∀ new ∈ lastOn old.metricId requirements,
    new.tightens old

instance (requirements : List IntelligenceRequirement) : Decidable (LastTightens requirements) :=
  inferInstanceAs (Decidable (∀ old ∈ requirements, old.kind = .hard →
    ∀ new ∈ lastOn old.metricId requirements, new.tightens old))

theorem mem_lastOn {metricId : String} {requirements : List IntelligenceRequirement}
    {new : IntelligenceRequirement} (last : lastOn metricId requirements = some new) :
    new ∈ requirements ∧ new.metricId = metricId :=
  ⟨List.mem_reverse.mp (List.mem_of_find?_eq_some last), by simpa using List.find?_some last⟩

theorem exists_lastOn {requirements : List IntelligenceRequirement}
    {old : IntelligenceRequirement} (member : old ∈ requirements) :
    ∃ new, lastOn old.metricId requirements = some new :=
  Option.isSome_iff_exists.mp (List.find?_isSome.mpr ⟨old, List.mem_reverse.mpr member, by simp⟩)

theorem indexed_get?_eq_lastOn (requirements : List IntelligenceRequirement) (metricId : String) :
    (Dict.indexed IntelligenceRequirement.metricId requirements).get? metricId =
      lastOn metricId requirements :=
  Dict.indexed_get?_eq_find? requirements metricId

theorem lastOn_concat (metricId : String) (requirements : List IntelligenceRequirement)
    (new : IntelligenceRequirement) : lastOn metricId (requirements ++ [new]) =
      if new.metricId = metricId then some new else lastOn metricId requirements := by
  by_cases same : new.metricId = metricId <;> simp [lastOn, same]

section Assigned

variable {refuses : IntelligenceRequirement → IntelligenceRequirement → Bool}
  {requirements : List IntelligenceRequirement} {merged : Dict String IntelligenceRequirement}

theorem mem_values_iff_lastOn (assigned : Dict.assignAll IntelligenceRequirement.metricId refuses
      weakeningFault requirements = .ok merged) {new : IntelligenceRequirement} :
    new ∈ merged.values ↔ lastOn new.metricId requirements = some new := by
  obtain rfl := Dict.eq_indexed_of_assignAll assigned
  simp only [Dict.mem_values_iff, indexed_get?_eq_lastOn]
  constructor
  · rintro ⟨metricId, last⟩
    rwa [(mem_lastOn last).2]
  · exact fun last => ⟨new.metricId, last⟩

/-- A property of the HARD requirements on a metric and its last requirement holds along a merge
when replacements that are not refused preserve it. -/
theorem relation_lastOn {relation : IntelligenceRequirement → IntelligenceRequirement → Prop}
    (reflexive : ∀ old ∈ requirements, relation old old)
    (preserved : ∀ old ∈ requirements, ∀ existing ∈ requirements, ∀ new ∈ requirements,
      existing.metricId = old.metricId → new.metricId = old.metricId → relation old existing →
      refuses existing new = false → relation old new)
    (assigned : Dict.assignAll IntelligenceRequirement.metricId refuses weakeningFault
      requirements = .ok merged) {old new : IntelligenceRequirement} (member : old ∈ requirements)
    (last : lastOn old.metricId requirements = some new) : relation old new := by
  induction requirements using List.reverseRecOn generalizing merged new with
  | nil => nomatch member
  | append_singleton requirements latest induction =>
      obtain ⟨before, earlier, willing, rfl⟩ := Dict.assignAll_concat_eq_ok_iff.mp assigned
      obtain rfl := Dict.eq_indexed_of_assignAll earlier
      have inside : ∀ item ∈ requirements, item ∈ requirements ++ [latest] := fun item =>
        List.mem_append_left _
      have related : ∀ existing, old ∈ requirements →
          lastOn old.metricId requirements = some existing → relation old existing :=
        fun existing older => induction (fun item known => reflexive item (inside item known))
          (fun old known existing found new next => preserved old (inside old known) existing
            (inside existing found) new (inside new next)) earlier older
      rw [lastOn_concat] at last
      by_cases same : latest.metricId = old.metricId
      · obtain rfl : latest = new := by simpa [same] using last
        rcases List.mem_append.mp member with older | isLatest
        · obtain ⟨existing, found⟩ := exists_lastOn older
          obtain ⟨present, keyed⟩ := mem_lastOn found
          refine preserved old member existing (inside existing present) latest (by simp) keyed same
            (related existing older found) (willing existing ?_)
          rw [indexed_get?_eq_lastOn, same, found]
        · rw [List.mem_singleton.mp isLatest]
          exact reflexive latest (by simp)
      · rw [if_neg same] at last
        rcases List.mem_append.mp member with older | isLatest
        · exact related new older last
        · rw [List.mem_singleton.mp isLatest] at same
          exact absurd rfl same

/-- Where a HARD requirement may only be replaced by a HARD one, the last requirement on its metric
is HARD. -/
theorem hard_of_lastOn (strict : ∀ existing new, existing.kind = .hard →
      refuses existing new = false → new.kind = .hard)
    (assigned : Dict.assignAll IntelligenceRequirement.metricId refuses weakeningFault
      requirements = .ok merged) {old new : IntelligenceRequirement} (member : old ∈ requirements)
    (hard : old.kind = .hard) (last : lastOn old.metricId requirements = some new) :
    new.kind = .hard := by
  let relation : IntelligenceRequirement → IntelligenceRequirement → Prop :=
    fun first second => first.kind = .hard → second.kind = .hard
  have related : relation old new := by
    refine relation_lastOn (fun _ _ => id) ?_ assigned member last
    intro first _ existing _ second _ _ _ kept willing firstHard
    exact strict existing second (kept firstHard) willing
  exact related hard

/-- What a merge leaves keeps the HARD requirements exactly when the last requirement on a metric
tightens them. -/
theorem keepsHard_iff_lastTightens (strict : ∀ existing new, existing.kind = .hard →
      refuses existing new = false → new.kind = .hard)
    (assigned : Dict.assignAll IntelligenceRequirement.metricId refuses weakeningFault
      requirements = .ok merged) {left : List IntelligenceRequirement}
    (perm : left.Perm merged.values) :
    KeepsHard requirements left ↔ LastTightens requirements := by
  have mem_left : ∀ new, new ∈ left ↔ lastOn new.metricId requirements = some new := fun new =>
    perm.mem_iff.trans (mem_values_iff_lastOn assigned)
  have tight_iff : ∀ old ∈ requirements, old.kind = .hard → ∀ new,
      lastOn old.metricId requirements = some new → (new.tightens old ↔
        ∀ meaning value, new.Satisfied meaning value → old.Satisfied meaning value) := by
    intro old member hard new last
    have newHard := hard_of_lastOn strict assigned member hard last
    exact IntelligenceRequirement.tightens_iff (by simp [newHard]) (by simp [hard])
  constructor
  · intro keeps old member hard new last
    have keyed := (mem_lastOn last).2
    rw [tight_iff old member hard new last]
    exact keeps new ((mem_left new).mpr (by rwa [keyed])) old member keyed.symm hard
  · intro tightens new inLeft old member keyed hard
    have last : lastOn old.metricId requirements = some new := by
      rw [keyed]
      exact (mem_left new).mp inLeft
    exact (tight_iff old member hard new last).mp (tightens old member hard new last)

end Assigned

theorem hard_of_not_losesKind {existing new : IntelligenceRequirement}
    (hard : existing.kind = .hard) (willing : losesKind existing new = false) :
    new.kind = .hard := by
  simpa [losesKind, hard] using willing

theorem hard_of_not_weakens {existing new : IntelligenceRequirement}
    (hard : existing.kind = .hard) (willing : weakens existing new = false) :
    new.kind = .hard := by
  simp only [weakens, hard, decide_true, Bool.true_and, Bool.or_eq_false_iff] at willing
  simpa using willing.1

/-- The comparison that the merge of typed layers makes is enough on a metric whose requirements
all bound it from below by `>=`, or all from above by `<=`. -/
theorem tightens_of_oneSided {layers : List PolicyLayer}
    {merged : Dict String IntelligenceRequirement}
    (assigned : Dict.assignAll IntelligenceRequirement.metricId weakens weakeningFault
      (requirementsInOrder layers) = .ok merged) {operator : String}
    (bounds : operator = ">=" ∨ operator = "<=") {old new : IntelligenceRequirement}
    (oneSided : ∀ item ∈ requirementsInOrder layers, item.metricId = old.metricId →
      item.operator = some operator)
    (member : old ∈ requirementsInOrder layers) (hard : old.kind = .hard)
    (last : lastOn old.metricId (requirementsInOrder layers) = some new) : new.tightens old := by
  let relation : IntelligenceRequirement → IntelligenceRequirement → Prop := fun first second =>
    first.metricId = old.metricId → first.kind = .hard →
      second.kind = .hard ∧ second.tightens first
  have related : relation old new := by
    refine relation_lastOn ?_ ?_ assigned member last
    · intro first firstMember firstKeyed firstHard
      obtain ⟨_, threshold, _, hasThreshold⟩ :=
        first.exists_comparison (by simp [firstHard])
      have hasOperator := oneSided first firstMember firstKeyed
      refine ⟨firstHard, ?_⟩
      rcases bounds with rfl | rfl <;>
        simp [IntelligenceRequirement.tightens, hasOperator, hasThreshold, Comparison.ofOperator,
          Comparison.entails]
    · intro first firstMember existing existingMember second secondMember existingKeyed secondKeyed
        kept willing firstKeyed firstHard
      obtain ⟨existingHard, tight⟩ := kept firstKeyed firstHard
      have secondHard := hard_of_not_weakens existingHard willing
      obtain ⟨_, firstThreshold, _, hasFirst⟩ := first.exists_comparison (by simp [firstHard])
      obtain ⟨_, existingThreshold, _, hasExisting⟩ :=
        existing.exists_comparison (by simp [existingHard])
      obtain ⟨_, secondThreshold, _, hasSecond⟩ := second.exists_comparison (by simp [secondHard])
      have firstOperator := oneSided first firstMember firstKeyed
      have existingOperator :=
        oneSided existing existingMember (existingKeyed.trans firstKeyed)
      have secondOperator := oneSided second secondMember (secondKeyed.trans firstKeyed)
      refine ⟨secondHard, ?_⟩
      rcases bounds with rfl | rfl
      all_goals
        simp only [IntelligenceRequirement.tightens, firstOperator, existingOperator,
          secondOperator, hasFirst, hasExisting, hasSecond, Comparison.ofOperator,
          Comparison.entails, decide_eq_true_eq] at tight ⊢
        simp [weakens, existingHard, secondHard, existingOperator, hasExisting, hasSecond]
          at willing
        order
  exact (related rfl hard).2

/-! ## Inherited HARD requirements -/

theorem typed_keepsHard_iff {layers : List PolicyLayer} {merged : List IntelligenceRequirement}
    {provenance : List String}
    (accepted : mergeTypedPolicyLayers layers = .ok (merged, provenance)) :
    KeepsHard (requirementsInOrder layers) merged ↔ LastTightens (requirementsInOrder layers) := by
  simp only [mergeTypedPolicyLayers, bind_eq_ok, pure_eq_ok, Except.ok.injEq,
    Prod.mk.injEq] at accepted
  obtain ⟨_, assigned, rfl, _⟩ := accepted
  exact keepsHard_iff_lastTightens (fun _ _ => hard_of_not_weakens) assigned (sortOn_perm _ _)

theorem named_keepsHard_iff {layers : List (String × List IntelligenceRequirement)}
    {merged : List IntelligenceRequirement} {provenance : List String}
    (accepted : mergePolicyLayers layers = .ok (merged, provenance)) :
    KeepsHard (layers.flatMap Prod.snd) merged ↔ LastTightens (layers.flatMap Prod.snd) := by
  simp only [mergePolicyLayers, bind_eq_ok, pure_eq_ok, Except.ok.injEq,
    Prod.mk.injEq] at accepted
  obtain ⟨_, assigned, rfl, _⟩ := accepted
  exact keepsHard_iff_lastTightens (fun _ _ => hard_of_not_losesKind) assigned (sortOn_perm _ _)

/-- For both merges, whatever satisfies the merged requirements satisfies every HARD requirement of
every layer exactly when the last requirement on each metric tightens the HARD ones on it. -/
theorem mergedPolicy_keepsHard_iff (layers : List PolicyLayer)
    (named : List (String × List IntelligenceRequirement)) :
    (∀ merged provenance, mergeTypedPolicyLayers layers = .ok (merged, provenance) →
      (KeepsHard (requirementsInOrder layers) merged ↔
        LastTightens (requirementsInOrder layers))) ∧
    ∀ merged provenance, mergePolicyLayers named = .ok (merged, provenance) →
      (KeepsHard (named.flatMap Prod.snd) merged ↔ LastTightens (named.flatMap Prod.snd)) :=
  ⟨fun _ _ => typed_keepsHard_iff, fun _ _ => named_keepsHard_iff⟩

/-- A HARD requirement on the primary quality. -/
def qualityRequirement (operator : String) (threshold : ℚ) : IntelligenceRequirement where
  requirementId := "quality"
  metricId := "quality.primary"
  kind := .hard
  threshold := some threshold
  operator := some operator
  sourceId := "application"
  typed := by simp
  texts_nonblank := by decide

/-- A layer of one requirement. -/
def layerOf (scope : PolicyScope) (requirement : IntelligenceRequirement) : PolicyLayer :=
  ⟨"layer", scope, [requirement], ["policy"]⟩

theorem mergedPolicy_keepsHard_floors :
    KeepsHard [qualityRequirement ">=" 0.9, qualityRequirement ">=" 0.95]
      [qualityRequirement ">=" 0.95] :=
  ((mergedPolicy_keepsHard_iff [layerOf .application (qualityRequirement ">=" 0.95),
      layerOf .organization (qualityRequirement ">=" 0.9)] []).1 _
      ["APPLICATION:layer:quality", "ORGANIZATION:layer:quality", "policy"]
      (by decide +kernel)).mpr (by decide +kernel)

/-- A cap takes the place of an inherited floor in typed layers, and a lower floor in named ones. -/
theorem mergedPolicy_loses_floor :
    (¬ ∀ layers merged provenance, mergeTypedPolicyLayers layers = .ok (merged, provenance) →
      KeepsHard (requirementsInOrder layers) merged) ∧
    ¬ ∀ layers merged provenance, mergePolicyLayers layers = .ok (merged, provenance) →
      KeepsHard (layers.flatMap Prod.snd) merged := by
  constructor
  · intro claim
    let layers := [layerOf .organization (qualityRequirement ">=" 0.9),
      layerOf .application (qualityRequirement "<=" 0.95)]
    have accepted : mergeTypedPolicyLayers layers = .ok ([qualityRequirement "<=" 0.95],
      ["APPLICATION:layer:quality", "ORGANIZATION:layer:quality", "policy"]) := by decide +kernel
    have loose : ¬ LastTightens (requirementsInOrder layers) := by decide +kernel
    exact loose ((typed_keepsHard_iff accepted).mp (claim _ _ _ accepted))
  · intro claim
    let layers := [("org", [qualityRequirement ">=" 0.9]), ("app", [qualityRequirement ">=" 0.5])]
    have accepted : mergePolicyLayers layers = .ok ([qualityRequirement ">=" 0.5],
      ["org:quality", "app:quality"]) := by decide +kernel
    have loose : ¬ LastTightens (layers.flatMap Prod.snd) := by decide +kernel
    exact loose ((named_keepsHard_iff accepted).mp (claim _ _ _ accepted))

end IntelligenceSlo
end MercuryX
