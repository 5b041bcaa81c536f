import MercuryX.Contracts
import MercuryX.Foundation.Dict

/-!
# Exclusive reservations

The reservation guard remembers one claim for each resource, the latest that succeeded. It refuses
a second agreement as long as the resource stays in one generation; once the resource has moved to
another generation, nothing is left of the earlier claim.
-/

namespace MercuryX
namespace ComputeNegotiator

open Foundation

variable {Resource Agreement Generation : Type} [DecidableEq Resource]

/-- The arguments of one claim. -/
structure ReservationClaim (Resource Agreement Generation : Type) where
  resourceKey : Resource
  agreementId : Agreement
  generation : Generation
  deriving DecidableEq

/-- The claims of the guard, by resource. -/
structure ResourceReservationGuard (Resource Agreement Generation : Type) where
  /-- The agreement and the generation that each resource was claimed for last. -/
  claims : Dict Resource (Agreement × Generation)

namespace ResourceReservationGuard

/-- The guard before any claim. -/
def initial : ResourceReservationGuard Resource Agreement Generation := ⟨Dict.empty⟩

variable [DecidableEq Agreement] [DecidableEq Generation]

/-- The resource is claimed for the generation by another agreement. -/
def refuses (guard : ResourceReservationGuard Resource Agreement Generation)
    (call : ReservationClaim Resource Agreement Generation) : Bool :=
  (guard.claims.get? call.resourceKey).any fun current =>
    current.2 = call.generation && current.1 ≠ call.agreementId

/-- Claim a resource for an agreement in a generation. -/
def claim (guard : ResourceReservationGuard Resource Agreement Generation)
    (call : ReservationClaim Resource Agreement Generation) :
    Except Fault Bool × ResourceReservationGuard Resource Agreement Generation :=
  if guard.refuses call then
    (.error (.value "exclusive resource generation already claimed"), guard)
  else
    (.ok true, ⟨guard.claims.insert call.resourceKey (call.agreementId, call.generation)⟩)

theorem claim_error {guard next : ResourceReservationGuard Resource Agreement Generation}
    {call : ReservationClaim Resource Agreement Generation} {raised : Fault}
    (failed : guard.claim call = (.error raised, next)) : next = guard := by
  unfold claim at failed
  split at failed
  · exact (Prod.mk.inj failed).2.symm
  · nomatch (Prod.mk.inj failed).1

/-- The guard as a machine over claims. -/
def machine : Machine (ResourceReservationGuard Resource Agreement Generation)
    (ReservationClaim Resource Agreement Generation) Bool Fault where
  step := claim
  atomic _ _ _ _ := claim_error

variable {guard : ResourceReservationGuard Resource Agreement Generation}
  {call : ReservationClaim Resource Agreement Generation}

theorem refuses_iff : guard.refuses call = true ↔
    ∃ agreementId, guard.claims.get? call.resourceKey = some (agreementId, call.generation) ∧
      agreementId ≠ call.agreementId := by
  unfold refuses
  rw [Option.any_eq_true]
  constructor
  · rintro ⟨⟨agreementId, generation⟩, found, other⟩
    obtain ⟨rfl, different⟩ := by simpa using other
    exact ⟨agreementId, found, different⟩
  · rintro ⟨agreementId, found, different⟩
    exact ⟨_, found, by simpa using different⟩

theorem succeeds_iff : machine.Succeeds guard call ↔ guard.refuses call = false := by
  simp only [Machine.Succeeds, machine, claim]
  split <;> simp_all

theorem get?_after (resource : Resource) :
    (machine.after guard call).claims.get? resource =
      if resource = call.resourceKey ∧ guard.refuses call = false then
        some (call.agreementId, call.generation)
      else guard.claims.get? resource := by
  simp only [Machine.after, machine, claim]
  cases guard.refuses call with
  | true => simp
  | false =>
      by_cases same : resource = call.resourceKey
      · simp [same, Dict.get?_insert_self]
      · simp [same, Dict.get?_insert_of_ne _ same]

end ResourceReservationGuard

open ResourceReservationGuard

/-! ## Histories of claims -/

/-- The generation of the latest claim on a resource. -/
def lastGeneration (past : List (ReservationClaim Resource Agreement Generation))
    (resource : Resource) : Option Generation :=
  (past.reverse.find? fun call => call.resourceKey = resource).map fun call => call.generation

theorem lastGeneration_concat
    {past : List (ReservationClaim Resource Agreement Generation)}
    {call : ReservationClaim Resource Agreement Generation} {resource : Resource} :
    lastGeneration (past ++ [call]) resource =
    if call.resourceKey = resource then some call.generation
    else lastGeneration past resource := by
  unfold lastGeneration
  rw [List.reverse_concat, List.find?_cons]
  by_cases same : call.resourceKey = resource
  · simp [same]
  · simp [same]

variable [DecidableEq Generation]

/-- The agreement that was the first to claim a resource in a generation. -/
def firstHolder (past : List (ReservationClaim Resource Agreement Generation))
    (resource : Resource) (generation : Generation) : Option Agreement :=
  (past.find? fun call => call.resourceKey = resource ∧ call.generation = generation).map
    fun call => call.agreementId

/-- A claim on a generation that another agreement claimed first comes while the resource has not
been claimed for a different generation since. -/
def Undisplaced (past : List (ReservationClaim Resource Agreement Generation))
    (call : ReservationClaim Resource Agreement Generation) : Prop :=
  ∀ holder, firstHolder past call.resourceKey call.generation = some holder →
    holder ≠ call.agreementId → lastGeneration past call.resourceKey = some call.generation

section Histories

variable {past : List (ReservationClaim Resource Agreement Generation)}
  {call : ReservationClaim Resource Agreement Generation} {resource : Resource}
  {generation : Generation} {agreementId : Agreement}

theorem firstHolder_append (past later : List (ReservationClaim Resource Agreement Generation)) :
    firstHolder (past ++ later) resource generation =
      (firstHolder past resource generation).or (firstHolder later resource generation) := by
  simp only [firstHolder, List.find?_append, Option.map_or]

theorem firstHolder_singleton :
    firstHolder [call] call.resourceKey call.generation = some call.agreementId := by
  simp [firstHolder]

theorem firstHolder_mono (held : firstHolder past resource generation = some agreementId)
    (later : List (ReservationClaim Resource Agreement Generation)) :
    firstHolder (past ++ later) resource generation = some agreementId := by
  rw [firstHolder_append, held, Option.some_or]

theorem exists_of_firstHolder (held : firstHolder past resource generation = some agreementId) :
    ∃ front back, past = front ++ ⟨resource, agreementId, generation⟩ :: back ∧
      firstHolder front resource generation = none := by
  obtain ⟨first, found, rfl⟩ := Option.map_eq_some_iff.mp held
  obtain ⟨matched, front, back, rfl, before⟩ := List.find?_eq_some_iff_append.mp found
  obtain ⟨rfl, rfl⟩ := of_decide_eq_true matched
  refine ⟨front, back, rfl, Option.map_eq_none_iff.mpr (List.find?_eq_none.mpr ?_)⟩
  intro other member
  rw [Bool.not_eq_true, ← Bool.not_eq_true']
  exact before other member

theorem firstHolder_ne_none (last : lastGeneration past resource = some generation) :
    firstHolder past resource generation ≠ none := by
  obtain ⟨call, found, rfl⟩ := Option.map_eq_some_iff.mp last
  have named : call.resourceKey = resource := by simpa using List.find?_some found
  have member := List.mem_reverse.mp (List.mem_of_find?_eq_some found)
  intro unclaimed
  have absent := List.find?_eq_none.mp (Option.map_eq_none_iff.mp unclaimed) call member
  exact absent (by simpa using named)

end Histories

/-! ## Runs -/

variable [DecidableEq Agreement]

/-- What a run of claims must guarantee. -/
structure SafeReservations
    (calls : List (ReservationClaim Resource Agreement Generation)) : Prop where
  /-- A resource is granted to at most one agreement in each generation. -/
  exclusive : ∀ first ∈ machine.succeeded initial calls,
    ∀ second ∈ machine.succeeded initial calls, first.resourceKey = second.resourceKey →
      first.generation = second.generation → first.agreementId = second.agreementId
  /-- A failing claim leaves the guard unchanged. -/
  atomic : ∀ front call back, calls = front ++ call :: back → ∀ raised next,
    (machine.run initial front).claim call = (.error raised, next) →
      next = machine.run initial front

section Runs

variable {past : List (ReservationClaim Resource Agreement Generation)}
  {call : ReservationClaim Resource Agreement Generation}

/-- The guard holds a resource in the generation of the latest claim on it, granted or not. -/
theorem generation_run (past : List (ReservationClaim Resource Agreement Generation))
    (resource : Resource) :
    ((machine.run initial past).claims.get? resource).map Prod.snd =
      lastGeneration past resource := by
  induction past using List.reverseRecOn with
  | nil => rfl
  | append_singleton past call induction =>
      rw [Machine.run_append, Machine.run_cons, Machine.run_nil, get?_after, lastGeneration_concat]
      by_cases same : resource = call.resourceKey
      · subst same
        cases refused : (machine.run initial past).refuses call with
        | false => simp
        | true =>
            -- a refused claim names the generation that the guard holds
            obtain ⟨holder, found, _⟩ := refuses_iff.mp refused
            simp [found]
      · simp only [same, Ne.symm same, false_and, if_false]
        exact induction

/-- Every resource is held by the first to claim it in its generation. -/
def HeldByFirst (past : List (ReservationClaim Resource Agreement Generation)) : Prop :=
  ∀ resource agreementId generation,
    (machine.run initial past).claims.get? resource = some (agreementId, generation) →
      firstHolder past resource generation = some agreementId

theorem firstHolder_of_granted (held : HeldByFirst past) (undisplaced : Undisplaced past call)
    (granted : (machine.run initial past).refuses call = false) :
    firstHolder (past ++ [call]) call.resourceKey call.generation = some call.agreementId := by
  rw [firstHolder_append, firstHolder_singleton]
  cases first : firstHolder past call.resourceKey call.generation with
  | none => rfl
  | some holder =>
      rw [Option.some_or, Option.some_inj]
      by_contra different
      have last := undisplaced holder first different
      rw [← generation_run] at last
      obtain ⟨⟨agreementId, generation⟩, found, rfl⟩ := Option.map_eq_some_iff.mp last
      have same := held call.resourceKey agreementId call.generation found
      rw [first, Option.some_inj] at same
      subst same
      rw [refuses_iff.mpr ⟨holder, found, different⟩] at granted
      contradiction

theorem heldByFirst_run (past : List (ReservationClaim Resource Agreement Generation))
    (undisplaced : ∀ front call back, past = front ++ call :: back → Undisplaced front call) :
    HeldByFirst past := by
  induction past using List.reverseRecOn with
  | nil =>
      intro resource agreementId generation found
      simp [initial] at found
  | append_singleton past call induction =>
      have held : HeldByFirst past := by
        refine induction fun front other back split => ?_
        exact undisplaced front other (back ++ [call]) (by simp [split])
      intro resource agreementId generation found
      rw [Machine.run_append, Machine.run_cons, Machine.run_nil, get?_after] at found
      split at found
      case isTrue moved =>
        obtain ⟨rfl, granted⟩ := moved
        obtain ⟨rfl, rfl⟩ := Prod.mk.inj (Option.some.inj found)
        exact firstHolder_of_granted held (undisplaced past call [] rfl) granted
      case isFalse => exact firstHolder_mono (held resource agreementId generation found) [call]

theorem granted_of_unclaimed
    (unclaimed : firstHolder past call.resourceKey call.generation = none) :
    (machine.run initial past).refuses call = false := by
  by_contra refused
  obtain ⟨holder, found, _⟩ := refuses_iff.mp (Bool.eq_true_of_not_eq_false refused)
  have last := generation_run past call.resourceKey
  rw [found, Option.map_some] at last
  exact firstHolder_ne_none last.symm unclaimed

/-- A run is safe exactly when no claim comes back, for another agreement, to a generation that its
resource has left. -/
theorem safeReservations_iff
    {calls : List (ReservationClaim Resource Agreement Generation)} :
    SafeReservations calls ↔
      ∀ front call back, calls = front ++ call :: back → Undisplaced front call := by
  constructor
  · rintro safe front call back rfl holder first different
    by_contra displaced
    -- then both the first holder and this claim are granted
    have granted : (machine.run initial front).refuses call = false := by
      by_contra refused
      obtain ⟨_, found, _⟩ := refuses_iff.mp (Bool.eq_true_of_not_eq_false refused)
      rw [← generation_run, found] at displaced
      exact displaced rfl
    obtain ⟨before, after, rfl, unclaimed⟩ := exists_of_firstHolder first
    have firstGranted : (machine.run initial before).refuses
        ⟨call.resourceKey, holder, call.generation⟩ = false := granted_of_unclaimed unclaimed
    refine different (safe.exclusive ⟨call.resourceKey, holder, call.generation⟩ ?_ call ?_ rfl rfl)
    · exact Machine.mem_succeeded_iff.mpr
        ⟨before, after ++ call :: back, by simp, succeeds_iff.mpr firstGranted⟩
    · exact Machine.mem_succeeded_iff.mpr ⟨_, back, rfl, succeeds_iff.mpr granted⟩
  · intro undisplaced
    have holder : ∀ call ∈ machine.succeeded initial calls,
        firstHolder calls call.resourceKey call.generation = some call.agreementId := by
      intro call member
      obtain ⟨front, back, rfl, succeeds⟩ := Machine.mem_succeeded_iff.mp member
      have held : HeldByFirst front := by
        refine heldByFirst_run front fun before other after split => ?_
        exact undisplaced before other (after ++ call :: back) (by simp [split])
      have first := firstHolder_of_granted held (undisplaced front call back rfl)
        (succeeds_iff.mp succeeds)
      rw [List.append_cons]
      exact firstHolder_mono first back
    refine ⟨?_, fun front call back _ raised next failed => claim_error failed⟩
    intro first firstMember second secondMember sameResource sameGeneration
    have same := holder first firstMember
    rw [sameResource, sameGeneration, holder second secondMember] at same
    exact (Option.some.inj same).symm

end Runs

/-- Every run of claims is safe. -/
def ReservationsExclusive : Prop :=
  ∀ calls : List (ReservationClaim String String Int), SafeReservations calls

/-- A resource that moved to another generation in between is granted to a second agreement. -/
theorem reservations_shared : ¬ ReservationsExclusive := by
  intro safe
  have same := (safe [⟨"r", "a", 1⟩, ⟨"r", "b", 2⟩, ⟨"r", "c", 1⟩]).exclusive ⟨"r", "a", 1⟩
    (by decide) ⟨"r", "c", 1⟩ (by decide) rfl rfl
  exact absurd same (by decide)

end ComputeNegotiator
end MercuryX
