import MercuryX.Foundation.Layouts
import MercuryX.Foundation.Rounding
import MercuryX.Contracts

/-!
# Fairness over queue generations

A workload that waits is passed by queue generations, and its age counts the passes. A call for
another workload, and a call that is not later than the state, is refused and changes nothing, so
the age counts the calls that are later than every call before them. Along a run the boost of a
workload only rises, and its fingerprint says all that was counted.
-/

namespace MercuryX
namespace QualityScheduler

open Foundation

/-! ## Fairness states -/

/-- Whose age is counted. -/
structure Lineage where
  workloadId : String
  tenantId : String
  workloadClass : String
  deriving DecidableEq

/-- The content of a fairness state. -/
structure FairnessContent extends Lineage where
  logicalAge : Int
  queueGeneration : Int
  deriving DecidableEq

namespace FairnessContent

/-- What the fingerprint of a fairness state is computed from. -/
def payload (content : FairnessContent) : Json := .obj [
  ("workload_id", .str content.workloadId), ("tenant_id", .str content.tenantId),
  ("workload_class", .str content.workloadClass), ("logical_age", .int content.logicalAge),
  ("queue_generation", .int content.queueGeneration)]

/-- Ages are not negative and generations start at one. -/
def InRange (content : FairnessContent) : Prop :=
  0 ≤ content.logicalAge ∧ 1 ≤ content.queueGeneration

/-- The checks of a fairness state. -/
def validate (content : FairnessContent) : Except Fault Unit := do
  fieldGe "FairnessState" "logical_age" 0 content.logicalAge
  fieldGe "FairnessState" "queue_generation" 1 content.queueGeneration

theorem validate_eq_ok_iff {content : FairnessContent} {done : Unit} :
    content.validate = .ok done ↔ content.InRange := by
  simp [validate, InRange]

end FairnessContent

/-- How long a workload has waited. -/
structure FairnessState extends FairnessContent where
  fingerprint : String
  /-- The age and the generation are in range. -/
  in_range : toFairnessContent.InRange

/-- Construct a fairness state from its content under a fingerprint. -/
def FairnessState.construct (fingerprint : String) (content : FairnessContent) :
    Except Fault FairnessState :=
  checked FairnessContent.validate FairnessContent.validate_eq_ok_iff
    (fun content valid => ⟨content, fingerprint, valid⟩) content

/-! ## Advancing -/

/-- The workload and the queue generation that a state is advanced to. -/
structure FairnessCall extends Lineage where
  queueGeneration : Int

variable (digest : Digest)

/-- The age that a call leads to. -/
def advancedAge (previous : Option FairnessState) (call : FairnessCall) : Except Fault Int :=
  match previous with
  | none => .ok 0
  | some state => do
      require (state.toLineage = call.toLineage) (.value "fairness lineage mismatch")
      require (state.queueGeneration < call.queueGeneration) (.value "stale fairness generation")
      return state.logicalAge + 1

/-- Advance the fairness state of a workload, or open it. -/
def advanceFairnessState (previous : Option FairnessState) (call : FairnessCall) :
    Except Fault FairnessState := do
  let age ← advancedAge previous call
  let content : FairnessContent :=
    { toLineage := call.toLineage, logicalAge := age, queueGeneration := call.queueGeneration }
  FairnessState.construct (digest.hexdigest content.payload) content

/-- The boost of a workload of an age, whether it starves, and why it is boosted. -/
def fairnessAdjustment (logicalAge : Int) (fairnessWeight : ℚ) (starvationCeiling : Int := 20) :
    Except Fault (ℚ × Bool × List String) := do
  require (0 ≤ logicalAge ∧ 1 ≤ starvationCeiling)
    (.value "invalid logical age/starvation ceiling")
  let starved := starvationCeiling ≤ logicalAge
  let boost := min (5 / 10)
    ((logicalAge : ℚ) / (max 1 starvationCeiling : Int) * (25 / 100)) * fairnessWeight
  return (roundTo 6 boost, decide starved,
    [if starved then "STARVATION_GUARD" else "AGE_FAIRNESS"])

/-- The fairness of one workload as a machine of calls. -/
def passes : Machine (Option FairnessState) FairnessCall Unit Fault :=
  .ofFunction fun previous call => do
    let next ← advanceFairnessState digest previous call
    return some next

/-! ## What a call changes -/

/-- A call for the workload of the state, if there is one, and later than it. -/
structure Admits (previous : Option FairnessState) (call : FairnessCall) : Prop where
  /-- Generations start at one. -/
  positive : 1 ≤ call.queueGeneration
  /-- The call is for the workload of the state. -/
  lineage : ∀ state ∈ previous, state.toLineage = call.toLineage
  /-- The call is later than the state. -/
  later : ∀ state ∈ previous, state.queueGeneration < call.queueGeneration

/-- The content that an admitted call leads to. -/
def advancedContent (previous : Option FairnessState) (call : FairnessCall) : FairnessContent where
  toLineage := call.toLineage
  logicalAge := previous.elim 0 fun state => state.logicalAge + 1
  queueGeneration := call.queueGeneration

variable {digest}

section Advance

variable {previous : Option FairnessState} {call : FairnessCall} {next : FairnessState}

theorem advancedContent_inRange (previous : Option FairnessState) (call : FairnessCall) :
    (advancedContent previous call).InRange ↔ 1 ≤ call.queueGeneration := by
  refine and_iff_right ?_
  cases previous with
  | none => exact le_rfl
  | some state => exact state.in_range.1.trans (Int.le_add_one le_rfl)

theorem admits_none_iff : Admits none call ↔ 1 ≤ call.queueGeneration := by
  refine ⟨Admits.positive, fun positive => ⟨positive, ?_, ?_⟩⟩ <;> rintro _ ⟨⟩

theorem advancedAge_eq_ok_iff {age : Int} : advancedAge previous call = .ok age ↔
    ((∀ state ∈ previous, state.toLineage = call.toLineage) ∧
      ∀ state ∈ previous, state.queueGeneration < call.queueGeneration) ∧
    (advancedContent previous call).logicalAge = age := by
  cases previous with
  | none => simp [advancedAge, advancedContent]
  | some state => simp [advancedAge, advancedContent, and_assoc]

theorem FairnessState.construct_eq_ok_iff {fingerprint : String} {content : FairnessContent} :
    FairnessState.construct fingerprint content = .ok next ↔
      content.InRange ∧ next.toFairnessContent = content ∧ next.fingerprint = fingerprint := by
  obtain ⟨made, madeFingerprint, inRange⟩ := next
  rw [construct, checked_eq_ok_iff]
  constructor
  · rintro ⟨valid, same⟩
    obtain ⟨rfl, rfl⟩ := FairnessState.mk.inj same
    exact ⟨valid, rfl, rfl⟩
  · rintro ⟨valid, same, sameFingerprint⟩
    obtain rfl : made = content := same
    obtain rfl : madeFingerprint = fingerprint := sameFingerprint
    exact ⟨valid, rfl⟩

theorem advance_eq_ok_iff : advanceFairnessState digest previous call = .ok next ↔
    Admits previous call ∧ next.toFairnessContent = advancedContent previous call ∧
      next.fingerprint = digest.hexdigest next.payload := by
  simp only [advanceFairnessState, bind_eq_ok, FairnessState.construct_eq_ok_iff,
    advancedAge_eq_ok_iff]
  constructor
  · rintro ⟨age, ⟨⟨lineage, later⟩, rfl⟩, inRange, same, fingerprint⟩
    exact ⟨⟨inRange.2, lineage, later⟩, same, by rw [fingerprint, same]⟩
  · rintro ⟨admits, same, fingerprint⟩
    refine ⟨_, ⟨⟨admits.lineage, admits.later⟩, rfl⟩,
      (advancedContent_inRange previous call).mpr admits.positive, same, ?_⟩
    rw [fingerprint, same]
    rfl

theorem passes_step {answer : Unit} {reached : Option FairnessState} :
    (passes digest).step previous call = (.ok answer, reached) ↔
      ∃ state, advanceFairnessState digest previous call = .ok state ∧ some state = reached := by
  rw [passes, Machine.ofFunction_step_ok]
  simp only [bind_eq_ok, pure_eq_ok, Except.ok.injEq]

variable (digest) in
theorem exists_advance (admits : Admits previous call) :
    ∃ next, advanceFairnessState digest previous call = .ok next := by
  have inRange := (advancedContent_inRange previous call).mpr admits.positive
  exact ⟨⟨_, digest.hexdigest (advancedContent previous call).payload, inRange⟩,
    advance_eq_ok_iff.mpr ⟨admits, rfl, rfl⟩⟩

theorem passes_succeeds_iff : (passes digest).Succeeds previous call ↔ Admits previous call := by
  rw [Machine.succeeds_iff]
  simp only [passes_step]
  constructor
  · rintro ⟨_, _, _, accepted, _⟩
    exact (advance_eq_ok_iff.mp accepted).1
  · intro admits
    obtain ⟨next, accepted⟩ := exists_advance digest admits
    exact ⟨(), some next, next, accepted, rfl⟩

end Advance

/-! ## What a run counts -/

/-- The call that opens the state. -/
def opening (calls : List FairnessCall) : Option FairnessCall :=
  calls.find? fun call => 1 ≤ call.queueGeneration

/-- After the calls, the call is the first of a generation, or it is for the workload of that call
and later than every call for it. -/
structure Due (calls : List FairnessCall) (call : FairnessCall) : Prop where
  /-- Generations start at one. -/
  positive : 1 ≤ call.queueGeneration
  /-- The call is for the workload that was opened. -/
  lineage : ∀ first ∈ opening calls, first.toLineage = call.toLineage
  /-- The call is later than every call for the workload. -/
  later : ∀ earlier ∈ calls, earlier.toLineage = call.toLineage →
    earlier.queueGeneration < call.queueGeneration

variable (digest) in
/-- A state counts the calls that were accepted. -/
structure Counts (calls : List FairnessCall) (state : FairnessState) : Prop where
  /-- The state is that of the workload that was opened. -/
  lineage : ∃ first ∈ opening calls, first.toLineage = state.toLineage ∧
    state.logicalAge ≤ state.queueGeneration - first.queueGeneration
  /-- The state is of the generation of a call for it. -/
  reached : ∃ call ∈ calls, call.toLineage = state.toLineage ∧
    call.queueGeneration = state.queueGeneration
  /-- No call for it is later. -/
  latest : ∀ call ∈ calls, call.toLineage = state.toLineage →
    call.queueGeneration ≤ state.queueGeneration
  /-- The first accepted call opened the state, and each further one was counted. -/
  counted : state.logicalAge + 1 = ((passes digest).succeeded none calls).length
  /-- The fingerprint covers the state. -/
  fingerprint : state.fingerprint = digest.hexdigest state.payload

section Counting

variable {calls : List FairnessCall} {call : FairnessCall} {previous : Option FairnessState}
  {state next : FairnessState}

theorem opening_append (calls : List FairnessCall) (call : FairnessCall) :
    opening (calls ++ [call]) =
      (opening calls).or (if 1 ≤ call.queueGeneration then some call else none) := by
  simp only [opening, List.find?_append, List.find?_singleton, decide_eq_true_eq]

theorem opening_eq_none_iff : opening calls = none ↔ ∀ call ∈ calls, call.queueGeneration < 1 := by
  simp [opening]

theorem of_opening (first : call ∈ opening calls) : call ∈ calls ∧ 1 ≤ call.queueGeneration :=
  ⟨List.mem_of_find?_eq_some first, by simpa using List.find?_some first⟩

theorem Counts.admits_iff (counts : Counts digest calls state) :
    Admits (some state) call ↔ Due calls call := by
  obtain ⟨first, opened, ofFirst, _⟩ := counts.lineage
  constructor
  · rintro ⟨positive, lineage, later⟩
    have same := lineage state rfl
    refine ⟨positive, ?_, fun earlier member ofCall => ?_⟩
    · intro other alsoOpened
      obtain rfl := Option.mem_unique opened alsoOpened
      exact ofFirst.trans same
    · exact (counts.latest earlier member (ofCall.trans same.symm)).trans_lt (later state rfl)
  · rintro ⟨positive, lineage, later⟩
    have same : state.toLineage = call.toLineage := ofFirst.symm.trans (lineage first opened)
    obtain ⟨last, member, ofLast, generation⟩ := counts.reached
    refine ⟨positive, ?_, ?_⟩ <;> rintro _ ⟨⟩
    · exact same
    · exact generation ▸ later last member (ofLast.trans same)

theorem due_of_unopened (unopened : opening calls = none) :
    Due calls call ↔ 1 ≤ call.queueGeneration := by
  refine ⟨Due.positive, fun positive => ⟨positive, ?_, fun earlier member _ => ?_⟩⟩
  · rw [unopened]
    rintro _ ⟨⟩
  · exact (opening_eq_none_iff.mp unopened earlier member).trans_le positive

theorem run_accepted (reached : (passes digest).run none calls = previous)
    (accepted : advanceFairnessState digest previous call = .ok next) :
    (passes digest).run none (calls ++ [call]) = some next ∧
      (passes digest).succeeded none (calls ++ [call]) =
        (passes digest).succeeded none calls ++ [call] := by
  have step : (passes digest).step ((passes digest).run none calls) call = (.ok (), some next) :=
    passes_step.mpr ⟨next, reached ▸ accepted, rfl⟩
  constructor
  · rw [Machine.run_append, Machine.run_cons, Machine.after_ok step, Machine.run_nil]
  · rw [Machine.succeeded_append, Machine.succeeded_ok step]
    rfl

theorem run_refused (reached : (passes digest).run none calls = previous)
    (refused : ¬ Admits previous call) :
    (passes digest).run none (calls ++ [call]) = previous ∧
      (passes digest).succeeded none (calls ++ [call]) =
        (passes digest).succeeded none calls := by
  have failed : ¬ (passes digest).Succeeds ((passes digest).run none calls) call :=
    mt passes_succeeds_iff.mp (reached ▸ refused)
  match step : (passes digest).step ((passes digest).run none calls) call with
  | (.ok answer, next) => exact absurd (Machine.succeeds_iff.mpr ⟨answer, next, step⟩) failed
  | (.error raised, next) =>
      constructor
      · rw [Machine.run_append, Machine.run_cons, Machine.after_error step, Machine.run_nil,
          reached]
      · rw [Machine.succeeded_append, Machine.succeeded_error step]
        exact List.append_nil _

theorem opening_append_of_opened (first : call ∈ opening calls) (last : FairnessCall) :
    opening (calls ++ [last]) = some call := by
  rw [opening_append, Option.mem_def.mp first, Option.some_or]

theorem counts_first (reached : (passes digest).run none calls = none)
    (unopened : opening calls = none) (nothing : (passes digest).succeeded none calls = [])
    (accepted : advanceFairnessState digest none call = .ok next) :
    Counts digest (calls ++ [call]) next := by
  obtain ⟨admits, same, fingerprint⟩ := advance_eq_ok_iff.mp accepted
  have extended := (run_accepted reached accepted).2
  obtain ⟨⟨lineage, age, generation⟩, _, inRange⟩ := next
  obtain ⟨rfl, rfl, rfl⟩ := FairnessContent.mk.inj same
  refine ⟨⟨call, ?_, rfl, by simp⟩, ⟨call, by simp, rfl, rfl⟩, ?_, ?_, fingerprint⟩
  · rw [opening_append, unopened, Option.none_or, if_pos admits.positive]
    rfl
  · intro earlier member _
    rcases List.mem_append.mp member with before | last
    · exact ((opening_eq_none_iff.mp unopened earlier before).trans_le admits.positive).le
    · rw [List.mem_singleton.mp last]
  · rw [extended, nothing]
    rfl

theorem Counts.accepted (counts : Counts digest calls state)
    (reached : (passes digest).run none calls = some state)
    (accepted : advanceFairnessState digest (some state) call = .ok next) :
    Counts digest (calls ++ [call]) next := by
  obtain ⟨admits, same, fingerprint⟩ := advance_eq_ok_iff.mp accepted
  have extended := (run_accepted reached accepted).2
  obtain ⟨first, opened, ofFirst, spread⟩ := counts.lineage
  have ofState := admits.lineage state rfl
  have later := admits.later state rfl
  obtain ⟨⟨lineage, age, generation⟩, _, inRange⟩ := next
  obtain ⟨rfl, rfl, rfl⟩ := FairnessContent.mk.inj same
  refine ⟨⟨first, opening_append_of_opened opened call, ofFirst.trans ofState, ?_⟩,
    ⟨call, by simp, rfl, rfl⟩, ?_, ?_, fingerprint⟩
  · simp only [Option.elim_some]
    omega
  · intro earlier member ofCall
    rcases List.mem_append.mp member with before | last
    · exact (counts.latest earlier before (ofCall.trans ofState.symm)).trans later.le
    · rw [List.mem_singleton.mp last]
  · rw [extended, List.length_append, Nat.cast_add, ← counts.counted]
    rfl

theorem Counts.refused (counts : Counts digest calls state)
    (reached : (passes digest).run none calls = some state)
    (refused : ¬ Admits (some state) call) : Counts digest (calls ++ [call]) state := by
  obtain ⟨first, opened, ofFirst, spread⟩ := counts.lineage
  obtain ⟨last, member, ofLast, generation⟩ := counts.reached
  refine ⟨⟨first, opening_append_of_opened opened call, ofFirst, spread⟩,
    ⟨last, by simp [member], ofLast, generation⟩, ?_, ?_, counts.fingerprint⟩
  · intro earlier member ofState
    rcases List.mem_append.mp member with before | last
    · exact counts.latest earlier before ofState
    · obtain rfl := List.mem_singleton.mp last
      by_contra later
      have valid := state.in_range.2
      refine refused ⟨by omega, ?_, ?_⟩ <;> rintro _ ⟨⟩
      · exact ofState.symm
      · omega
  · rw [(run_refused reached refused).2]
    exact counts.counted

variable (digest) in
/-- A run reaches no state where no call is of a generation, and else a state that counts. -/
theorem run_cases (calls : List FairnessCall) :
    ((passes digest).run none calls = none ∧ opening calls = none ∧
      (passes digest).succeeded none calls = []) ∨
    ∃ state, (passes digest).run none calls = some state ∧ Counts digest calls state := by
  -- the calls are taken from the last one, which finds the state of those before it
  induction calls using List.reverseRecOn with
  | nil => exact .inl ⟨rfl, rfl, rfl⟩
  | append_singleton calls call induction =>
      rcases induction with ⟨reached, unopened, nothing⟩ | ⟨state, reached, counts⟩
      · by_cases admits : Admits none call
        · obtain ⟨next, accepted⟩ := exists_advance digest admits
          exact .inr ⟨next, (run_accepted reached accepted).1,
            counts_first reached unopened nothing accepted⟩
        · obtain ⟨same, others⟩ := run_refused reached admits
          refine .inl ⟨same, ?_, others.trans nothing⟩
          rw [opening_append, unopened, Option.none_or, if_neg (mt admits_none_iff.mpr admits)]
      · by_cases admits : Admits (some state) call
        · obtain ⟨next, accepted⟩ := exists_advance digest admits
          exact .inr ⟨next, (run_accepted reached accepted).1,
            counts.accepted reached accepted⟩
        · exact .inr ⟨state, (run_refused reached admits).1, counts.refused reached admits⟩

end Counting

/-! ## What age brings -/

section Age

variable {age later ceiling : Int} {weight boost laterBoost : ℚ} {starved laterStarved : Bool}
  {codes laterCodes : List String}

theorem fairnessAdjustment_eq_ok_iff :
    fairnessAdjustment age weight ceiling = .ok (boost, starved, codes) ↔
      (0 ≤ age ∧ 1 ≤ ceiling) ∧
        roundTo 6 (min (5 / 10) ((age : ℚ) / ceiling * (25 / 100)) * weight) = boost ∧
        decide (ceiling ≤ age) = starved ∧
        [if ceiling ≤ age then "STARVATION_GUARD" else "AGE_FAIRNESS"] = codes := by
  simp only [fairnessAdjustment, bind_eq_ok, require_eq_ok, pure_eq_ok, Except.ok.injEq,
    Prod.mk.injEq, exists_and_left, exists_const]
  refine and_congr_right ?_
  rintro ⟨_, positive⟩
  rw [max_eq_right positive]

theorem fairnessAdjustment_mono (older : age ≤ later) (positive : 0 < weight)
    (adjusted : fairnessAdjustment age weight ceiling = .ok (boost, starved, codes))
    (laterAdjusted :
      fairnessAdjustment later weight ceiling = .ok (laterBoost, laterStarved, laterCodes)) :
    boost ≤ laterBoost ∧ (starved = true → laterStarved = true) := by
  obtain ⟨⟨_, one⟩, rfl, rfl, _⟩ := fairnessAdjustment_eq_ok_iff.mp adjusted
  obtain ⟨_, rfl, rfl, _⟩ := fairnessAdjustment_eq_ok_iff.mp laterAdjusted
  have ages : (age : ℚ) ≤ later := by exact_mod_cast older
  have ceilings : (0 : ℚ) < ceiling := by exact_mod_cast (by omega : 0 < ceiling)
  constructor
  · refine roundTo_mono 6 (mul_le_mul_of_nonneg_right (min_le_min le_rfl ?_) positive.le)
    gcongr
  · simp only [decide_eq_true_eq]
    omega

end Age

/-! ## The law of runs -/

/-- The layout of what fingerprints are computed from. -/
def fairnessLayout : Json.Layout := .record [
  ("workload_id", .scalar), ("tenant_id", .scalar), ("workload_class", .scalar),
  ("logical_age", .scalar), ("queue_generation", .scalar)]

theorem distinct_fairnessLayout : Json.Distinct fairnessLayout := by
  simp [fairnessLayout, Json.Distinct, Json.DistinctFields]

theorem fits_fairnessPayload (content : FairnessContent) :
    Json.Fits fairnessLayout content.payload := by
  simp [fairnessLayout, FairnessContent.payload, Json.Fits, Json.FitsFields, Json.IsScalar]

theorem FairnessContent.eq_iff {left right : FairnessContent} : left = right ↔
    left.toLineage = right.toLineage ∧ left.logicalAge = right.logicalAge ∧
      left.queueGeneration = right.queueGeneration := by
  obtain ⟨_, _, _⟩ := left
  obtain ⟨_, _, _⟩ := right
  simp

theorem FairnessContent.payload_injective : Function.Injective FairnessContent.payload := by
  rintro ⟨⟨_, _, _⟩, _, _⟩ ⟨⟨_, _, _⟩, _, _⟩ same
  simpa [FairnessContent.payload, and_assoc] using same

variable (digest) in
/-- What holds after any calls, accepted or not. -/
structure FairnessRun (calls : List FairnessCall) : Prop where
  /-- A call is accepted next exactly if it is due. -/
  accepted : ∀ call, (passes digest).Succeeds ((passes digest).run none calls) call ↔
    Due calls call
  /-- There is a state exactly if some call was of a generation. -/
  opened : (∃ state, (passes digest).run none calls = some state) ↔
    ∃ call ∈ calls, 1 ≤ call.queueGeneration
  /-- The state counts the calls that were accepted. -/
  counts : ∀ state, (passes digest).run none calls = some state → Counts digest calls state
  /-- Calls that were made before change nothing, in whatever order they are made again. -/
  settled : ∀ again ⊆ calls,
    (passes digest).run none (calls ++ again) = (passes digest).run none calls
  /-- The guard is up exactly if more calls were accepted than the ceiling says. -/
  starved : ∀ state weight ceiling boost guard codes,
    (passes digest).run none calls = some state →
    fairnessAdjustment state.logicalAge weight ceiling = .ok (boost, guard, codes) →
    (guard = true ↔ ceiling < ((passes digest).succeeded none calls).length)
  /-- Whatever is called later, the age and the boost do not fall and the guard stays up. -/
  patient : ∀ more state next, (passes digest).run none calls = some state →
    (passes digest).run none (calls ++ more) = some next →
    state.logicalAge ≤ next.logicalAge ∧
      ∀ weight ceiling boost guard codes laterBoost laterGuard laterCodes, 0 < weight →
        fairnessAdjustment state.logicalAge weight ceiling = .ok (boost, guard, codes) →
        fairnessAdjustment next.logicalAge weight ceiling =
          .ok (laterBoost, laterGuard, laterCodes) →
        boost ≤ laterBoost ∧ (guard = true → laterGuard = true)
  /-- Where the digest tells the two states apart, the fingerprint says whose state it is, of which
  generation, and how many calls were accepted. -/
  fingerprint : ∀ others state other,
    (passes digest).run none calls = some state → (passes digest).run none others = some other →
    digest.Tells state.payload other.payload →
    (state.fingerprint = other.fingerprint ↔
      state.toLineage = other.toLineage ∧ state.queueGeneration = other.queueGeneration ∧
        ((passes digest).succeeded none calls).length =
          ((passes digest).succeeded none others).length)

section Run

variable {calls : List FairnessCall} {call : FairnessCall} {state next : FairnessState}

theorem counts_of_run (reached : (passes digest).run none calls = some state) :
    Counts digest calls state := by
  rcases run_cases digest calls with ⟨nothing, _⟩ | ⟨found, reached', counts⟩
  · rw [nothing] at reached
    nomatch reached
  · obtain rfl := Option.some.inj (reached'.symm.trans reached)
    exact counts

/-- A call is admitted after a run exactly if it is due. -/
theorem admits_run_iff : Admits ((passes digest).run none calls) call ↔ Due calls call := by
  rcases run_cases digest calls with ⟨reached, unopened, _⟩ | ⟨state, reached, counts⟩
  · rw [reached, due_of_unopened unopened, admits_none_iff]
  · rw [reached, counts.admits_iff]

theorem not_due_of_mem (member : call ∈ calls) : ¬ Due calls call :=
  fun due => absurd (due.later call member rfl) (lt_irrefl _)

theorem run_again (again : List FairnessCall) (inside : again ⊆ calls) :
    (passes digest).run none (calls ++ again) = (passes digest).run none calls := by
  induction again using List.reverseRecOn with
  | nil => rw [List.append_nil]
  | append_singleton again call induction =>
      obtain ⟨before, last⟩ := List.append_subset.mp inside
      have known : call ∈ calls ++ again := List.mem_append_left _ (last (by simp))
      rw [← List.append_assoc,
        (run_refused rfl (mt admits_run_iff.mp (not_due_of_mem known))).1, induction before]

theorem logicalAge_le {more : List FairnessCall}
    (reached : (passes digest).run none calls = some state)
    (reachedNext : (passes digest).run none (calls ++ more) = some next) :
    state.logicalAge ≤ next.logicalAge := by
  have counted := (counts_of_run reached).counted
  have countedNext := (counts_of_run reachedNext).counted
  rw [Machine.succeeded_append, List.length_append] at countedNext
  omega

theorem fingerprint_eq_iff {others : List FairnessCall}
    (counts : Counts digest calls state) (otherCounts : Counts digest others next)
    (tells : digest.Tells state.payload next.payload) :
    state.fingerprint = next.fingerprint ↔
      state.toLineage = next.toLineage ∧ state.queueGeneration = next.queueGeneration ∧
        ((passes digest).succeeded none calls).length =
          ((passes digest).succeeded none others).length := by
  have counted := counts.counted
  have otherCounted := otherCounts.counted
  rw [counts.fingerprint, otherCounts.fingerprint]
  constructor
  · intro same
    have contents : state.toFairnessContent = next.toFairnessContent :=
      FairnessContent.payload_injective (tells.eq_of_fits distinct_fairnessLayout
        (fits_fairnessPayload _) (fits_fairnessPayload _) same)
    rw [contents] at counted ⊢
    exact ⟨rfl, rfl, by omega⟩
  · rintro ⟨lineage, generation, lengths⟩
    have ages : state.logicalAge = next.logicalAge := by omega
    have contents : state.toFairnessContent = next.toFairnessContent :=
      FairnessContent.eq_iff.mpr ⟨lineage, ages, generation⟩
    rw [contents]

/-- Every run obeys the law. -/
theorem fairnessRun (digest : Digest) (calls : List FairnessCall) : FairnessRun digest calls where
  accepted _ := passes_succeeds_iff.trans admits_run_iff
  opened := by
    rcases run_cases digest calls with ⟨reached, unopened, _⟩ | ⟨state, reached, counts⟩
    · refine iff_of_false ?_ ?_
      · rintro ⟨state, found⟩
        rw [reached] at found
        nomatch found
      · rintro ⟨call, member, positive⟩
        exact absurd positive (not_le.mpr (opening_eq_none_iff.mp unopened call member))
    · obtain ⟨first, opened, _⟩ := counts.lineage
      exact iff_of_true ⟨state, reached⟩ ⟨first, of_opening opened⟩
  counts _ := counts_of_run
  settled := run_again
  starved := by
    intro state weight ceiling boost guard codes reached adjusted
    obtain ⟨_, _, rfl, _⟩ := fairnessAdjustment_eq_ok_iff.mp adjusted
    have counted := (counts_of_run reached).counted
    rw [decide_eq_true_eq]
    omega
  patient := by
    intro more state next reached reachedNext
    have older := logicalAge_le reached reachedNext
    refine ⟨older, ?_⟩
    intro weight ceiling boost guard codes laterBoost laterGuard laterCodes positive adjusted later
    exact fairnessAdjustment_mono older positive adjusted later
  fingerprint _ _ _ reached otherReached :=
    fingerprint_eq_iff (counts_of_run reached) (counts_of_run otherReached)

end Run

end QualityScheduler
end MercuryX
