import Mathlib.Data.List.ReduceOption
import Mathlib.Tactic

/-!
# Fallible computations and machines

A fallible computation checks its requirements one after another and stops at the first that
fails. A machine is a component whose operations either fail, and change nothing, or answer and
move to a next state; a run applies a list of operations in order. The induction over a run is
done here once, for one-state invariants and for relations between two states.
-/

namespace Foundation

/-! ## Requirements -/

section Requirements

variable {Fault : Type}

/-- Go on when the condition holds, otherwise stop with the fault. -/
def require (condition : Prop) [Decidable condition] (fault : Fault) : Except Fault Unit :=
  if condition then .ok () else .error fault

@[simp] theorem require_eq_ok {condition : Prop} [Decidable condition] {fault : Fault}
    {done : Unit} : require condition fault = .ok done ↔ condition := by
  unfold require
  split <;> simp_all

@[simp] theorem require_eq_error {condition : Prop} [Decidable condition] {fault raised : Fault} :
    require condition fault = .error raised ↔ ¬ condition ∧ raised = fault := by
  unfold require
  split <;> simp_all [eq_comm]

theorem require_of_true {condition : Prop} [Decidable condition] (holds : condition)
    (fault : Fault) : require condition fault = .ok () := by
  simp [holds]

@[simp] theorem bind_eq_ok {α β : Type} {first : Except Fault α} {rest : α → Except Fault β}
    {answer : β} :
    (first >>= rest) = .ok answer ↔ ∃ value, first = .ok value ∧ rest value = .ok answer := by
  cases first <;> simp [bind, Except.bind]

theorem bind_eq_error {α β : Type} {first : Except Fault α} {rest : α → Except Fault β}
    {raised : Fault} :
    (first >>= rest) = .error raised ↔
      first = .error raised ∨ ∃ value, first = .ok value ∧ rest value = .error raised := by
  cases first <;> simp [bind, Except.bind]

@[simp] theorem ok_bind {α β : Type} (value : α) (rest : α → Except Fault β) :
    ((Except.ok value : Except Fault α) >>= rest) = rest value := rfl

@[simp] theorem error_bind {α β : Type} (raised : Fault) (rest : α → Except Fault β) :
    ((Except.error raised : Except Fault α) >>= rest) = .error raised := rfl

@[simp] theorem pure_eq_ok {α : Type} (value : α) :
    (pure value : Except Fault α) = .ok value := rfl

/-- Whether a computation answers with a value of some kind is found by running it. -/
instance decidableExistsOk {α : Type} {good : α → Prop} [DecidablePred good] :
    (outcome : Except Fault α) → Decidable (∃ value, outcome = .ok value ∧ good value)
  | .error _ => isFalse fun ⟨_, answered, _⟩ => nomatch answered
  | .ok value => decidable_of_iff (good value) (by simp)

/-- The value that a computation answers with. -/
def answerOf {α : Type} : (outcome : Except Fault α) → (∃ value, outcome = .ok value) → α
  | .ok value, _ => value
  | .error _, answers => absurd answers fun ⟨_, answered⟩ => nomatch answered

theorem eq_ok_answerOf {α : Type} :
    {outcome : Except Fault α} → (answers : ∃ value, outcome = .ok value) →
      outcome = .ok (answerOf outcome answers)
  | .ok _, _ => rfl
  | .error _, answers => absurd answers fun ⟨_, answered⟩ => nomatch answered

/-- Check the items of a list one after another, up to the first that fails. -/
def forEach {α : Type} (check : α → Except Fault Unit) : List α → Except Fault Unit
  | [] => .ok ()
  | item :: items => do
      check item
      forEach check items

@[simp] theorem forEach_eq_ok {α : Type} {check : α → Except Fault Unit} {items : List α}
    {done : Unit} : forEach check items = .ok done ↔ ∀ item ∈ items, check item = .ok () := by
  induction items with
  | nil => simp [forEach]
  | cons item items induction => simp [forEach, induction, Unique.exists_iff]

theorem forEach_eq_error {α : Type} {check : α → Except Fault Unit} {items : List α}
    {raised : Fault} : forEach check items = .error raised ↔
      ∃ front item back, items = front ++ item :: back ∧
        (∀ earlier ∈ front, check earlier = .ok ()) ∧ check item = .error raised := by
  constructor
  · intro failed
    induction items with
    | nil => nomatch failed
    | cons first items induction =>
        cases outcome : check first with
        | error fault =>
            rw [forEach, outcome] at failed
            exact ⟨[], first, items, rfl, by simp, outcome.trans failed⟩
        | ok done =>
            rw [forEach, outcome] at failed
            obtain ⟨front, item, back, rfl, passed, raises⟩ := induction failed
            exact ⟨first :: front, item, back, rfl,
              List.forall_mem_cons.mpr ⟨outcome, passed⟩, raises⟩
  · rintro ⟨front, item, back, rfl, passed, raises⟩
    induction front with
    | nil => simp [forEach, raises]
    | cons first front induction =>
        obtain ⟨now, later⟩ := List.forall_mem_cons.mp passed
        rw [List.cons_append, forEach, now]
        exact induction later

theorem mapM_congr {m : Type → Type} [Monad m] [LawfulMonad m] {α β : Type} {make other : α → m β}
    {items : List α} (agree : ∀ item ∈ items, make item = other item) :
    items.mapM make = items.mapM other := by
  induction items with
  | nil => rfl
  | cons item items induction =>
      obtain ⟨here, later⟩ := List.forall_mem_cons.mp agree
      rw [List.mapM_cons, List.mapM_cons, here, induction later]

theorem mapM_eq_some_iff {α β : Type} {make : α → Option β} {items : List α} {answers : List β} :
    items.mapM make = some answers ↔ items.map make = answers.map some := by
  induction items generalizing answers with
  | nil => cases answers <;> simp
  | cons item items induction =>
      cases made : make item <;> cases answers <;>
        simp [List.mapM_cons, Option.bind_eq_some_iff, made, induction, and_comm]

/-- Where each item of a list can only answer with its image, the list answers exactly when every
item does, with the images. -/
theorem mapM_eq_ok_iff {α β : Type} {make : α → Except Fault β} {image : α → β}
    (made : ∀ item answer, make item = .ok answer → answer = image item) {items : List α}
    {answers : List β} :
    items.mapM make = .ok answers ↔
      (∀ item ∈ items, make item = .ok (image item)) ∧ items.map image = answers := by
  induction items generalizing answers with
  | nil => simp
  | cons item items induction =>
      simp only [List.mapM_cons, bind_eq_ok, pure_eq_ok, Except.ok.injEq, induction,
        List.forall_mem_cons, List.map_cons]
      constructor
      · rintro ⟨answer, first, _, ⟨rest, rfl⟩, rfl⟩
        obtain rfl := made item answer first
        exact ⟨⟨first, rest⟩, rfl⟩
      · rintro ⟨⟨first, rest⟩, rfl⟩
        exact ⟨_, first, _, ⟨rest, rfl⟩, rfl⟩

theorem mapM_eq_ok_iff_forall₂ {α β : Type} {make : α → Except Fault β} {items : List α}
    {answers : List β} : items.mapM make = .ok answers ↔
      List.Forall₂ (fun item answer => make item = .ok answer) items answers := by
  induction items generalizing answers with
  | nil => simp [eq_comm]
  | cons item items induction =>
      simp only [List.mapM_cons, bind_eq_ok, pure_eq_ok, Except.ok.injEq, induction,
        List.forall₂_cons_left_iff]
      constructor
      · rintro ⟨answer, first, answers, rest, rfl⟩
        exact ⟨answer, answers, first, rest, rfl⟩
      · rintro ⟨answer, answers, first, rest, rfl⟩
        exact ⟨answer, first, answers, rest, rfl⟩

theorem exists_mapM_eq_ok {α β : Type} {make : α → Except Fault β} {items : List α}
    (each : ∀ item ∈ items, ∃ answer, make item = .ok answer) :
    ∃ answers, items.mapM make = .ok answers := by
  induction items with
  | nil => exact ⟨[], rfl⟩
  | cons item items induction =>
      obtain ⟨answer, first⟩ := each item List.mem_cons_self
      obtain ⟨answers, rest⟩ := induction fun other member =>
        each other (List.mem_cons_of_mem _ member)
      exact ⟨answer :: answers, by simp [List.mapM_cons, first, rest]⟩

theorem mem_of_mapM_eq_ok {α β : Type} {make : α → Except Fault β} {items : List α}
    {answers : List β} (made : items.mapM make = .ok answers) {answer : β} :
    answer ∈ answers ↔ ∃ item ∈ items, make item = .ok answer := by
  rw [mapM_eq_ok_iff_forall₂] at made
  induction made with
  | nil => simp
  | cons first rest induction =>
      simp only [List.mem_cons, induction, exists_eq_or_imp, first, Except.ok.injEq]
      exact or_congr_left eq_comm

theorem exists_of_mapM_eq_ok {α β : Type} {make : α → Except Fault β} {items : List α}
    {answers : List β} (made : items.mapM make = .ok answers) {item : α} (member : item ∈ items) :
    ∃ answer ∈ answers, make item = .ok answer := by
  rw [mapM_eq_ok_iff_forall₂] at made
  induction made with
  | nil => nomatch member
  | cons first _ induction =>
      rcases List.mem_cons.mp member with rfl | later
      · exact ⟨_, List.mem_cons_self, first⟩
      · obtain ⟨answer, inside, answered⟩ := induction later
        exact ⟨answer, List.mem_cons_of_mem _ inside, answered⟩

theorem map_of_mapM_eq_ok {α β γ : Type} {make : α → Except Fault β} {left : β → γ} {right : α → γ}
    (shared : ∀ item answer, make item = .ok answer → left answer = right item) {items : List α}
    {answers : List β} (made : items.mapM make = .ok answers) :
    answers.map left = items.map right := by
  rw [mapM_eq_ok_iff_forall₂] at made
  induction made with
  | nil => rfl
  | cons first _ induction => rw [List.map_cons, List.map_cons, shared _ _ first, induction]

/-- Where every answer that is given has the key of its item, the keys of the answers given to a
list stand as in the list. -/
theorem reduceOption_sublist_of_mapM_eq_ok {α β γ : Type} {make : α → Except Fault (Option β)}
    (key : β → γ) (index : α → γ)
    (keyed : ∀ item answer, make item = .ok (some answer) → key answer = index item)
    {items : List α} {answers : List (Option β)} (made : items.mapM make = .ok answers) :
    (answers.reduceOption.map key).Sublist (items.map index) := by
  rw [mapM_eq_ok_iff_forall₂] at made
  induction made with
  | nil => exact .slnil
  | @cons item answer items answers first _ induction =>
      cases answer with
      | none => exact .cons _ induction
      | some answer =>
          rw [List.reduceOption_cons_of_some, List.map_cons, List.map_cons, keyed _ _ first]
          exact .cons_cons _ induction

/-- Either the computation answers or it fails; nothing else can happen. -/
theorem ok_or_error {α : Type} (outcome : Except Fault α) :
    (∃ value, outcome = .ok value) ∨ ∃ raised, outcome = .error raised := by
  cases outcome with
  | ok value => exact .inl ⟨value, rfl⟩
  | error raised => exact .inr ⟨raised, rfl⟩

/-- Make a value that carries a property, from raw data that passes the check of the property. -/
def checked {Raw Made : Type} {Valid : Raw → Prop} (check : Raw → Except Fault Unit)
    (exact : ∀ {raw done}, check raw = .ok done ↔ Valid raw) (make : ∀ raw, Valid raw → Made)
    (raw : Raw) : Except Fault Made :=
  match passed : check raw with
  | .error raised => .error raised
  | .ok _ => .ok (make raw (exact.mp passed))

/-- A checked value is made exactly from raw data with the property. -/
theorem checked_eq_ok_iff {Raw Made : Type} {Valid : Raw → Prop} {check : Raw → Except Fault Unit}
    {exact : ∀ {raw done}, check raw = .ok done ↔ Valid raw} {make : ∀ raw, Valid raw → Made}
    {raw : Raw} {made : Made} :
    checked check exact make raw = .ok made ↔ ∃ valid : Valid raw, make raw valid = made := by
  unfold checked
  split
  · next raised failed =>
      have refused : ¬ Valid raw := by
        intro valid
        have passed : check raw = .ok () := exact.mpr valid
        rw [passed] at failed
        contradiction
      exact iff_of_false nofun fun ⟨valid, _⟩ => refused valid
  · next done passed =>
      rw [Except.ok.injEq, exists_prop_of_true (exact.mp passed)]

end Requirements

/-! ## Machines -/

/-- A component whose operations fail without effect, or answer and move to a next state. -/
structure Machine (State Op Answer Fault : Type) where
  /-- The outcome of one operation, and the state it leaves. -/
  step : State → Op → Except Fault Answer × State
  /-- A failed operation leaves the state it was given. -/
  atomic : ∀ state op raised next, step state op = (.error raised, next) → next = state

namespace Machine

variable {State Op Answer Fault : Type} (machine : Machine State Op Answer Fault)

/-- The state an attempted operation leaves. -/
def after (state : State) (op : Op) : State := (machine.step state op).2

/-- The state after attempting a list of operations in order. -/
def run (state : State) (ops : List Op) : State := ops.foldl machine.after state

/-- The operations of a run that succeeded, in order. -/
def succeeded (state : State) : List Op → List Op
  | [] => []
  | op :: ops =>
      match machine.step state op with
      | (.ok _, next) => op :: succeeded next ops
      | (.error _, next) => succeeded next ops

/-- A condition on the state and the operation that every step of a run meets. -/
def AllSteps (condition : State → Op → Prop) (state : State) : List Op → Prop
  | [] => True
  | op :: ops => condition state op ∧ AllSteps condition (machine.after state op) ops

/-- The operation succeeds. -/
def Succeeds (state : State) (op : Op) : Prop :=
  ∃ answer, (machine.step state op).1 = .ok answer

/-- The states that some run reaches. -/
def Reachable (start state : State) : Prop := ∃ ops, machine.run start ops = state

variable {machine}

theorem after_ok {state next : State} {op : Op} {answer : Answer}
    (step : machine.step state op = (.ok answer, next)) : machine.after state op = next := by
  simp [after, step]

theorem after_error {state next : State} {op : Op} {raised : Fault}
    (step : machine.step state op = (.error raised, next)) : machine.after state op = state := by
  rw [after, step]
  exact machine.atomic state op raised next step

@[simp] theorem run_nil (state : State) : machine.run state [] = state := rfl

@[simp] theorem run_cons (state : State) (op : Op) (ops : List Op) :
    machine.run state (op :: ops) = machine.run (machine.after state op) ops := rfl

theorem run_append (state : State) (front back : List Op) :
    machine.run state (front ++ back) = machine.run (machine.run state front) back := by
  simp [run, List.foldl_append]

theorem succeeded_ok {state next : State} {op : Op} {answer : Answer}
    (step : machine.step state op = (.ok answer, next)) (ops : List Op) :
    machine.succeeded state (op :: ops) = op :: machine.succeeded next ops := by
  simp [succeeded, step]

theorem succeeded_error {state next : State} {op : Op} {raised : Fault}
    (step : machine.step state op = (.error raised, next)) (ops : List Op) :
    machine.succeeded state (op :: ops) = machine.succeeded state ops := by
  obtain rfl := machine.atomic state op raised next step
  simp [succeeded, step]

theorem succeeded_append (state : State) (front back : List Op) :
    machine.succeeded state (front ++ back) =
      machine.succeeded state front ++ machine.succeeded (machine.run state front) back := by
  induction front generalizing state with
  | nil => rfl
  | cons op front induction =>
      match outcome : machine.step state op with
      | (.ok answer, next) =>
          rw [List.cons_append, succeeded_ok outcome, succeeded_ok outcome, induction, run_cons,
            after_ok outcome, List.cons_append]
      | (.error raised, next) =>
          rw [List.cons_append, succeeded_error outcome, succeeded_error outcome, induction,
            run_cons, after_error outcome]

theorem succeeds_iff {state : State} {op : Op} :
    machine.Succeeds state op ↔ ∃ answer next, machine.step state op = (.ok answer, next) := by
  constructor
  · rintro ⟨answer, outcome⟩
    exact ⟨answer, (machine.step state op).2, Prod.ext outcome rfl⟩
  · rintro ⟨answer, next, step⟩
    exact ⟨answer, by rw [step]⟩

theorem mem_succeeded_iff {state : State} {ops : List Op} {op : Op} :
    op ∈ machine.succeeded state ops ↔
      ∃ front back, ops = front ++ op :: back ∧ machine.Succeeds (machine.run state front) op := by
  constructor
  · intro member
    induction ops generalizing state with
    | nil => simp [succeeded] at member
    | cons head ops induction =>
        match outcome : machine.step state head with
        | (.ok answer, next) =>
            rw [succeeded_ok outcome] at member
            rcases List.mem_cons.mp member with rfl | later
            · exact ⟨[], ops, rfl, succeeds_iff.mpr ⟨answer, next, outcome⟩⟩
            · obtain ⟨front, back, rfl, succeeds⟩ := induction later
              refine ⟨head :: front, back, rfl, ?_⟩
              rwa [run_cons, after_ok outcome]
        | (.error raised, next) =>
            rw [succeeded_error outcome] at member
            obtain ⟨front, back, rfl, succeeds⟩ := induction member
            refine ⟨head :: front, back, rfl, ?_⟩
            rwa [run_cons, after_error outcome]
  · rintro ⟨front, back, rfl, succeeds⟩
    obtain ⟨answer, next, step⟩ := succeeds_iff.mp succeeds
    rw [succeeded_append, succeeded_ok step]
    exact List.mem_append_right _ List.mem_cons_self

theorem Reachable.refl (start : State) : machine.Reachable start start := ⟨[], rfl⟩

theorem Reachable.trans {start middle final : State} (first : machine.Reachable start middle)
    (second : machine.Reachable middle final) : machine.Reachable start final := by
  obtain ⟨front, rfl⟩ := first
  obtain ⟨back, rfl⟩ := second
  exact ⟨front ++ back, run_append start front back⟩

/-- What successful steps preserve, attempted operations preserve. -/
theorem after_induction {motive : State → Prop} {state : State} {op : Op}
    (preserved : ∀ answer next, machine.step state op = (.ok answer, next) → motive next)
    (holds : motive state) : motive (machine.after state op) := by
  match outcome : machine.step state op with
  | (.ok answer, next) => exact after_ok outcome ▸ preserved answer next outcome
  | (.error raised, next) => exact (after_error outcome).symm ▸ holds

/-- When every step of a run meets a condition, an invariant need only survive the successful
steps that meet it. -/
theorem AllSteps.invariant {condition : State → Op → Prop} {invariant : State → Prop}
    (preserved : ∀ state op answer next, invariant state → condition state op →
      machine.step state op = (.ok answer, next) → invariant next)
    {state : State} (holds : invariant state) {ops : List Op}
    (steps : machine.AllSteps condition state ops) : invariant (machine.run state ops) := by
  induction ops generalizing state with
  | nil => exact holds
  | cons op ops induction =>
      refine induction (after_induction ?_ holds) steps.2
      exact fun answer next => preserved state op answer next holds steps.1

theorem allSteps_iff {condition : State → Op → Prop} {state : State} {ops : List Op} :
    machine.AllSteps condition state ops ↔
      ∀ front op back, ops = front ++ op :: back → condition (machine.run state front) op := by
  induction ops generalizing state with
  | nil => simp [AllSteps]
  | cons head ops induction =>
      rw [AllSteps, induction]
      constructor
      · rintro ⟨first, later⟩ front op back split
        cases front with
        | nil => simpa using (List.cons.inj split).1 ▸ first
        | cons other front =>
            rw [List.cons_append, List.cons.injEq] at split
            obtain ⟨rfl, rest⟩ := split
            exact later front op back rest
      · intro every
        refine ⟨every [] head ops rfl, fun front op back split => ?_⟩
        exact every (head :: front) op back (by rw [split, List.cons_append])

theorem AllSteps.of_append {condition : State → Op → Prop} {state : State} {front back : List Op}
    (steps : machine.AllSteps condition state (front ++ back)) :
    machine.AllSteps condition state front := by
  rw [allSteps_iff] at steps ⊢
  intro before op rest split
  exact steps before op (rest ++ back) (by rw [split, List.append_assoc, List.cons_append])

theorem AllSteps.after_append {condition : State → Op → Prop} {state : State} {front back : List Op}
    (steps : machine.AllSteps condition state (front ++ back)) :
    machine.AllSteps condition (machine.run state front) back := by
  rw [allSteps_iff] at steps ⊢
  intro before op rest split
  rw [← run_append]
  exact steps (front ++ before) op rest (by rw [split, List.append_assoc])

theorem allSteps_of_forall {condition : State → Op → Prop}
    (always : ∀ state op, condition state op) (state : State) (ops : List Op) :
    machine.AllSteps condition state ops :=
  allSteps_iff.mpr fun _ _ _ _ => always _ _

/-- A relation between the operations that succeeded so far and the state survives a run when it
survives the successful steps that meet the condition of the run. -/
theorem AllSteps.traced {condition : State → Op → Prop} {invariant : List Op → State → Prop}
    (preserved : ∀ past state op answer next, invariant past state → condition state op →
      machine.step state op = (.ok answer, next) → invariant (past ++ [op]) next)
    {past : List Op} {state : State} (holds : invariant past state) {ops : List Op}
    (steps : machine.AllSteps condition state ops) :
    invariant (past ++ machine.succeeded state ops) (machine.run state ops) := by
  induction ops generalizing past state with
  | nil => simpa [succeeded] using holds
  | cons op ops induction =>
      match outcome : machine.step state op with
      | (.ok answer, next) =>
          have advanced := preserved past state op answer next holds steps.1 outcome
          have rest := steps.2
          rw [after_ok outcome] at rest
          rw [succeeded_ok outcome, run_cons, after_ok outcome, List.append_cons]
          exact induction advanced rest
      | (.error raised, next) =>
          have rest := steps.2
          rw [after_error outcome] at rest
          rw [succeeded_error outcome, run_cons, after_error outcome]
          exact induction holds rest

/-- The relation between the operations that succeeded since the start and the state. -/
theorem AllSteps.trace (invariant : List Op → State → Prop) {condition : State → Op → Prop}
    {state : State} {ops : List Op} (steps : machine.AllSteps condition state ops)
    (initially : invariant [] state)
    (preserved : ∀ past state op answer next, invariant past state → condition state op →
      machine.step state op = (.ok answer, next) → invariant (past ++ [op]) next) :
    invariant (machine.succeeded state ops) (machine.run state ops) := by
  simpa using steps.traced preserved initially

theorem run_trace (invariant : List Op → State → Prop) (state : State) (ops : List Op)
    (initially : invariant [] state)
    (preserved : ∀ past state op answer next, invariant past state →
      machine.step state op = (.ok answer, next) → invariant (past ++ [op]) next) :
    invariant (machine.succeeded state ops) (machine.run state ops) := by
  have steps : machine.AllSteps (fun _ _ => True) state ops :=
    allSteps_of_forall (fun _ _ => trivial) state ops
  exact steps.trace invariant initially fun past state op answer next holds _ =>
    preserved past state op answer next holds

/-- An invariant of successful steps holds of every reachable state. -/
theorem Reachable.invariant {invariant : State → Prop} {start state : State}
    (reach : machine.Reachable start state) (initially : invariant start)
    (preserved : ∀ state op answer next, invariant state →
      machine.step state op = (.ok answer, next) → invariant next) : invariant state := by
  obtain ⟨ops, rfl⟩ := reach
  induction ops generalizing start with
  | nil => exact initially
  | cons op ops induction =>
      refine induction (after_induction ?_ initially)
      exact fun answer next => preserved start op answer next initially

theorem run_invariant (invariant : State → Prop) {state : State} (holds : invariant state)
    (ops : List Op) (preserved : ∀ state op answer next, invariant state →
      machine.step state op = (.ok answer, next) → invariant next) :
    invariant (machine.run state ops) :=
  Reachable.invariant ⟨ops, rfl⟩ holds preserved

/-- A reflexive and transitive relation that holds across successful steps holds across runs,
for states that satisfy an invariant. -/
theorem Reachable.relation {invariant : State → Prop} {relation : State → State → Prop}
    {start state : State} (reach : machine.Reachable start state) (initially : invariant start)
    (reflexive : ∀ state, relation state state)
    (transitive : ∀ {first second third}, relation first second → relation second third →
      relation first third)
    (preserved : ∀ state op answer next, invariant state →
      machine.step state op = (.ok answer, next) → invariant next ∧ relation state next) :
    relation start state := by
  let both : State → Prop := fun reached => invariant reached ∧ relation start reached
  have extended : both state := by
    refine reach.invariant ?_ ?_
    · exact ⟨initially, reflexive start⟩
    · rintro middle op answer next ⟨holds, related⟩ step
      obtain ⟨nextHolds, stepRelated⟩ := preserved middle op answer next holds step
      exact ⟨nextHolds, transitive related stepRelated⟩
  exact extended.2

/-- The machine of a function that returns a new state or fails. -/
def ofFunction (step : State → Op → Except Fault State) : Machine State Op Unit Fault where
  step state op :=
    match step state op with
    | .ok next => (.ok (), next)
    | .error raised => (.error raised, state)
  atomic state op raised next outcome := by
    cases result : step state op <;> simp_all

theorem ofFunction_step_ok {step : State → Op → Except Fault State} {state next : State} {op : Op}
    {answer : Unit} :
    (ofFunction step).step state op = (.ok answer, next) ↔ step state op = .ok next := by
  simp only [ofFunction]
  cases step state op <;> simp

theorem ofFunction_succeeds_iff {step : State → Op → Except Fault State} {state : State}
    {op : Op} : (ofFunction step).Succeeds state op ↔ ∃ next, step state op = .ok next := by
  simp only [Succeeds, ofFunction]
  cases step state op <;> simp

theorem ofFunction_after {step : State → Op → Except Fault State} {state next : State} {op : Op}
    (outcome : step state op = .ok next) : (ofFunction step).after state op = next := by
  have moved : (ofFunction step).step state op = (.ok (), next) := ofFunction_step_ok.mpr outcome
  exact after_ok moved

theorem ofFunction_reachable {step : State → Op → Except Fault State} {state next : State} {op : Op}
    (outcome : step state op = .ok next) : (ofFunction step).Reachable state next :=
  ⟨[op], ofFunction_after outcome⟩

end Machine
end Foundation
