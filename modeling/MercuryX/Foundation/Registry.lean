import MercuryX.Foundation.Canonical
import MercuryX.Foundation.Dict

/-!
# Registries

A registry keeps records in the order of a key and no two of one identity. A record is entered
under its identity unless another one has it; entering a record again changes nothing. What a list
of registrations makes of a registry depends on the records alone, not on their order, as long as
what is admissible stays admissible with fewer records.
-/

namespace Foundation
namespace Registry

variable {α ι κ : Type} [LinearOrder κ] (key : α → κ) (identity : α → ι)

/-- Records in the order of their keys, no two of one identity. -/
structure Registered (records : List α) : Prop where
  /-- Identities are unique. -/
  unique : (records.map identity).Nodup
  /-- Records stand in order. -/
  sorted : records.Pairwise fun left right => key left ≤ key right

/-- No other record has the identity of a record. -/
def Free (records : List α) (record : α) : Prop :=
  ∀ other ∈ records, identity other = identity record → other = record

variable {key identity} {records : List α} {record : α}

theorem registered_nil : Registered key identity ([] : List α) := ⟨List.nodup_nil, .nil⟩

theorem Registered.nodup (registered : Registered key identity records) : records.Nodup :=
  List.Nodup.of_map _ registered.unique

/-- Two registered records of one identity are equal. -/
theorem eq_of_identity_eq (unique : (records.map identity).Nodup) {left right : α}
    (leftMember : left ∈ records) (rightMember : right ∈ records)
    (same : identity left = identity right) : left = right :=
  List.inj_on_of_nodup_map unique leftMember rightMember same

theorem find?_eq_some_iff [DecidableEq ι] (unique : (records.map identity).Nodup) {id : ι} :
    records.find? (fun record => identity record = id) = some record ↔
      record ∈ records ∧ identity record = id := by
  constructor
  · intro found
    exact ⟨List.mem_of_find?_eq_some found, by simpa using List.find?_some found⟩
  · rintro ⟨member, rfl⟩
    cases found : records.find? fun other => identity other = identity record with
    | none => simpa using List.find?_eq_none.mp found record member
    | some other =>
        have same : identity other = identity record := by simpa using List.find?_some found
        exact congrArg some
          (eq_of_identity_eq unique (List.mem_of_find?_eq_some found) member same)

theorem Registered.ext {others : List α} (apart : ∀ left right : α, key left = key right →
      identity left = identity right)
    (registered : Registered key identity records) (alsoRegistered : Registered key identity others)
    (same : ∀ record, record ∈ records ↔ record ∈ others) : records = others := by
  have separates : Separates key records := fun left leftMember right rightMember sameKey =>
    eq_of_identity_eq registered.unique leftMember rightMember (apart left right sameKey)
  have perm : records.Perm others :=
    (List.perm_ext_iff_of_nodup registered.nodup alsoRegistered.nodup).mpr same
  exact eq_of_perm_of_sorted separates perm registered.sorted alsoRegistered.sorted

theorem Registered.filter (registered : Registered key identity records) (part : α → Bool) :
    Registered key identity (records.filter part) where
  unique := registered.unique.sublist (List.filter_sublist.map _)
  sorted := registered.sorted.sublist List.filter_sublist

theorem Registered.map (registered : Registered key identity records) {change : α → α}
    (kept : ∀ record, key (change record) = key record ∧
      identity (change record) = identity record) :
    Registered key identity (records.map change) where
  unique := by
    have same : identity ∘ change = identity := funext fun record => (kept record).2
    rw [List.map_map, same]
    exact registered.unique
  sorted := by
    rw [List.pairwise_map]
    simp only [(kept _).1]
    exact registered.sorted

theorem filter_map_of_fixed {part : α → Bool} {change : α → α}
    (inside : ∀ record ∈ records, part (change record) = part record)
    (fixed : ∀ record ∈ records, part record = true → change record = record) :
    (records.map change).filter part = records.filter part := by
  induction records with
  | nil => rfl
  | cons record records induction =>
      rw [List.forall_mem_cons] at inside fixed
      rw [List.map_cons, List.filter_cons, List.filter_cons, inside.1,
        induction inside.2 fixed.2]
      split
      · next member => rw [fixed.1 member]
      · rfl

/-! ## Entering a record -/

variable [DecidableEq ι]

instance [DecidableEq α] (records : List α) (record : α) :
    Decidable (Free identity records record) :=
  inferInstanceAs (Decidable (∀ other ∈ records, _))

variable (key identity) in
/-- The records once a record is entered under its identity. -/
def entered (records : List α) (record : α) : List α :=
  sortOn key ((Dict.indexed identity records).insert (identity record) record).values

theorem free_of_get?_eq_none (unique : (records.map identity).Nodup)
    (missing : (Dict.indexed identity records).get? (identity record) = none) :
    Free identity records record := by
  intro other member same
  rw [(Dict.indexed_get?_eq_some_iff unique).mpr ⟨member, same⟩] at missing
  contradiction

theorem free_iff_of_get?_eq_some (unique : (records.map identity).Nodup) {other : α}
    (found : (Dict.indexed identity records).get? (identity record) = some other) :
    Free identity records record ↔ other = record := by
  obtain ⟨member, same⟩ := (Dict.indexed_get?_eq_some_iff unique).mp found
  constructor
  · intro free
    exact free other member same
  · rintro rfl another anotherMember sameIdentity
    exact eq_of_identity_eq unique anotherMember member sameIdentity

/-- A look-up by identity finds nothing else exactly when the identity is free. -/
theorem get?_all_eq_iff [DecidableEq α] (unique : (records.map identity).Nodup) :
    ((Dict.indexed identity records).get? (identity record)).all (fun other => other = record) =
      true ↔ Free identity records record := by
  cases found : (Dict.indexed identity records).get? (identity record) with
  | none => simpa using free_of_get?_eq_none unique found
  | some other => simpa using (free_iff_of_get?_eq_some unique found).symm

theorem entered_of_mem (registered : Registered key identity records)
    (member : record ∈ records) : entered key identity records record = records := by
  rw [entered, Dict.indexed_insert_of_mem registered.unique member,
    sortOn_eq_self key registered.sorted]

section Enter

variable (unique : (records.map identity).Nodup) (free : Free identity records record)
include unique free

/-- A record that is present leaves the records as they are, a new one is appended. -/
theorem insert_values_cases :
    (record ∈ records ∧
      ((Dict.indexed identity records).insert (identity record) record).values = records) ∨
    (identity record ∉ records.map identity ∧
      ((Dict.indexed identity records).insert (identity record) record).values =
        records ++ [record]) := by
  by_cases taken : identity record ∈ records.map identity
  · obtain ⟨other, member, same⟩ := List.mem_map.mp taken
    obtain rfl := free other member same
    exact .inl ⟨member, Dict.indexed_insert_of_mem unique member⟩
  · exact .inr ⟨taken, Dict.indexed_insert_of_fresh unique taken⟩

theorem mem_insert_values {other : α} :
    other ∈ ((Dict.indexed identity records).insert (identity record) record).values ↔
      other = record ∨ other ∈ records := by
  rcases insert_values_cases unique free with ⟨member, same⟩ | ⟨_, same⟩
  · rw [same, or_iff_right_of_imp]
    rintro rfl
    exact member
  · rw [same, List.mem_append, List.mem_singleton, or_comm]

theorem mem_entered {other : α} :
    other ∈ entered key identity records record ↔ other = record ∨ other ∈ records := by
  rw [entered, mem_sortOn, mem_insert_values unique free]

theorem length_entered_le :
    (entered key identity records record).length ≤ records.length + 1 := by
  rw [entered, length_sortOn]
  rcases insert_values_cases unique free with ⟨_, same⟩ | ⟨_, same⟩
  · rw [same]
    exact Nat.le_succ _
  · rw [same, List.length_append, List.length_singleton]

/-- A full registry only takes records that are present. -/
theorem length_entered_le_iff {bound : Nat} (few : records.length ≤ bound) :
    (entered key identity records record).length ≤ bound ↔
      record ∈ records ∨ records.length < bound := by
  rw [entered, length_sortOn]
  rcases insert_values_cases unique free with ⟨member, same⟩ | ⟨fresh, same⟩
  · rw [same]
    exact iff_of_true few (.inl member)
  · rw [same, List.length_append, List.length_singleton, Nat.succ_le_iff]
    exact (or_iff_right fun member => fresh (List.mem_map_of_mem member)).symm

theorem registered_entered : Registered key identity (entered key identity records record) where
  unique := by
    rw [entered, ((sortOn_perm key _).map identity).nodup_iff]
    rcases insert_values_cases unique free with ⟨_, same⟩ | ⟨fresh, same⟩
    · rwa [same]
    · rw [same, List.map_append, List.map_singleton, List.nodup_append]
      refine ⟨unique, List.nodup_singleton _, fun id member other isRecord => ?_⟩
      rw [List.mem_singleton.mp isRecord]
      rintro rfl
      exact fresh member
  sorted := sortOn_pairwise key _

end Enter

theorem filter_entered (apart : ∀ left right : α, key left = key right →
      identity left = identity right) (registered : Registered key identity records)
    (free : Free identity records record) {part : α → Bool} (outside : part record = false) :
    (entered key identity records record).filter part = records.filter part := by
  have next : Registered key identity (entered key identity records record) :=
    registered_entered registered.unique free
  refine (next.filter part).ext apart (registered.filter part) fun other => ?_
  rw [List.mem_filter, List.mem_filter, mem_entered registered.unique free]
  constructor
  · rintro ⟨rfl | member, inside⟩
    · rw [outside] at inside
      contradiction
    · exact ⟨member, inside⟩
  · rintro ⟨member, inside⟩
    exact ⟨.inr member, inside⟩

/-! ## Lists of registrations -/

section Registrations

variable [DecidableEq α] (key identity) (admissible : List α → Prop) [DecidablePred admissible]

/-- Register a record, unless another one has its identity or the result is not admissible. -/
def register? (records : List α) (record : α) : Option (List α) :=
  if Free identity records record ∧ admissible (entered key identity records record) then
    some (entered key identity records record)
  else none

theorem register?_eq_some_iff {key : α → κ} {identity : α → ι} {admissible : List α → Prop}
    [DecidablePred admissible] {records next : List α} {record : α} :
    register? key identity admissible records record = some next ↔
      (Free identity records record ∧ admissible (entered key identity records record)) ∧
        entered key identity records record = next := by
  rw [register?, Option.ite_none_right_eq_some, Option.some_inj]

/-- Two records can be registered one after the other when they have different identities or are
one record, and two records are not too many. -/
theorem exists_registered_pair {left right : α}
    (apart : identity left = identity right → left = right)
    (room : ∀ records : List α, records.length ≤ 2 → admissible records) :
    ∃ first second, register? key identity admissible [] left = some first ∧
      register? key identity admissible first right = some second ∧
        left ∈ second ∧ right ∈ second := by
  have nothing : (([] : List α).map identity).Nodup := List.nodup_nil
  have leftFree : Free identity [] left := fun other member => absurd member List.not_mem_nil
  have single : (entered key identity [] left).length ≤ 1 := length_entered_le nothing leftFree
  have firstRegistered : Registered key identity (entered key identity [] left) :=
    registered_entered nothing leftFree
  have members {other : α} := @mem_entered _ _ _ _ key identity [] left _ nothing leftFree other
  have rightFree : Free identity (entered key identity [] left) right := by
    intro other member same
    obtain rfl : other = left := by simpa using members.mp member
    exact apart same
  have double : (entered key identity (entered key identity [] left) right).length ≤ 2 :=
    (length_entered_le firstRegistered.unique rightFree).trans (Nat.succ_le_succ single)
  have both {other : α} :=
    @mem_entered _ _ _ _ key identity _ right _ firstRegistered.unique rightFree other
  exact ⟨_, _,
    register?_eq_some_iff.mpr ⟨⟨leftFree, room _ (single.trans one_le_two)⟩, rfl⟩,
    register?_eq_some_iff.mpr ⟨⟨rightFree, room _ double⟩, rfl⟩,
    both.mpr (.inr (members.mpr (.inl rfl))), both.mpr (.inl rfl)⟩

/-- Register the records of a list one after another. -/
def registerAll? : List α → List α → Option (List α)
  | records, [] => some records
  | records, record :: rest =>
      match register? key identity admissible records record with
      | none => none
      | some next => registerAll? next rest

variable {key identity admissible}
  (apart : ∀ left right : α, key left = key right → identity left = identity right)
  (antitone : ∀ small large : List α, small.Nodup → small ⊆ large → admissible large →
    admissible small)
include apart antitone

/-- All of a list is registered exactly when the result is the admissible registry of the records
before and those of the list. -/
theorem registerAll?_eq_some_iff {registrations final : List α}
    (registered : Registered key identity records) (initially : admissible records) :
    registerAll? key identity admissible records registrations = some final ↔
      Registered key identity final ∧ admissible final ∧
        ∀ record, record ∈ final ↔ record ∈ records ∨ record ∈ registrations := by
  induction registrations generalizing records with
  | nil =>
      rw [registerAll?, Option.some_inj]
      constructor
      · rintro rfl
        exact ⟨registered, initially, by simp⟩
      · rintro ⟨finalRegistered, _, members⟩
        exact registered.ext apart finalRegistered fun record => by simp [members]
  | cons record rest induction =>
      rw [registerAll?]
      constructor
      · intro outcome
        unfold register? at outcome
        split at outcome
        · contradiction
        · next next entering =>
            split at entering
            · next accepted =>
                obtain rfl := Option.some_inj.mp entering
                have nextRegistered :
                    Registered key identity (entered key identity records record) :=
                  registered_entered registered.unique accepted.1
                obtain ⟨finalRegistered, finalAdmissible, members⟩ :=
                  (induction nextRegistered accepted.2).mp outcome
                refine ⟨finalRegistered, finalAdmissible, fun other => ?_⟩
                rw [members, mem_entered registered.unique accepted.1, List.mem_cons]
                tauto
            · contradiction
      · rintro ⟨finalRegistered, finalAdmissible, members⟩
        have recordMember : record ∈ final := (members record).mpr (.inr List.mem_cons_self)
        have free : Free identity records record := fun other member same =>
          eq_of_identity_eq finalRegistered.unique ((members other).mpr (.inl member)) recordMember
            same
        have nextRegistered : Registered key identity (entered key identity records record) :=
          registered_entered registered.unique free
        have inside : entered key identity records record ⊆ final := by
          intro other member
          rcases (mem_entered registered.unique free).mp member with rfl | present
          · exact recordMember
          · exact (members other).mpr (.inl present)
        have nextAdmissible := antitone _ _ nextRegistered.nodup inside finalAdmissible
        rw [register?, if_pos ⟨free, nextAdmissible⟩]
        refine (induction nextRegistered nextAdmissible).mpr
          ⟨finalRegistered, finalAdmissible, fun other => ?_⟩
        rw [members, mem_entered registered.unique free, List.mem_cons]
        tauto

/-- The order of the registrations does not matter. -/
theorem registerAll?_perm {registrations others final : List α} (perm : registrations.Perm others)
    (registered : Registered key identity records) (initially : admissible records)
    (outcome : registerAll? key identity admissible records registrations = some final) :
    registerAll? key identity admissible records others = some final := by
  obtain ⟨finalRegistered, finalAdmissible, members⟩ :=
    (registerAll?_eq_some_iff apart antitone registered initially).mp outcome
  refine (registerAll?_eq_some_iff apart antitone registered initially).mpr
    ⟨finalRegistered, finalAdmissible, fun record => ?_⟩
  rw [members, perm.mem_iff]

end Registrations

/-! ## Declarations -/

section Declarations

variable {Fault : Type} [DecidableEq α] (key identity) (fault : Fault)

/-- The records that are declared, each once and in order. What is declared under a taken identity
has to be the record that has it. -/
def declared (records : List α) : Except Fault (List α) := do
  let entered ← Dict.assignAll identity (fun existing record => existing ≠ record) fault records
  return sortOn key entered.values

variable {key identity fault}

omit [LinearOrder κ] [DecidableEq α] in
variable (identity) in
theorem exists_indexed (member : record ∈ records) :
    ∃ existing, (Dict.indexed identity records).get? (identity record) = some existing := by
  rw [Dict.indexed_get?_eq_find?, ← Option.isSome_iff_exists, List.find?_isSome]
  exact ⟨record, List.mem_reverse.mpr member, decide_eq_true rfl⟩

omit [LinearOrder κ] in
/-- Declarations are accepted exactly when identities tell the records apart. -/
theorem exists_assignAll_iff : (∃ dict, Dict.assignAll identity
      (fun existing record : α => existing ≠ record) fault records = .ok dict) ↔
    Separates identity records := by
  induction records using List.reverseRecOn with
  | nil => simp [Dict.assignAll, Separates]
  | append_singleton records record induction =>
      simp only [Dict.assignAll_concat_eq_ok_iff, decide_eq_false_iff_not, not_not]
      constructor
      · rintro ⟨_, before, earlier, willing, _⟩
        have separates := induction.mp ⟨before, earlier⟩
        obtain rfl := Dict.eq_indexed_of_assignAll earlier
        have agrees : ∀ other ∈ records, identity other = identity record → other = record := by
          intro other member same
          obtain ⟨existing, found⟩ := exists_indexed identity member
          obtain ⟨present, keyed⟩ := Dict.mem_of_indexed_get? found
          rw [separates other member existing present keyed.symm]
          exact willing existing (same ▸ found)
        intro left leftMember right rightMember same
        rcases List.mem_append.mp leftMember with inLeft | isLeft
        · rcases List.mem_append.mp rightMember with inRight | isRight
          · exact separates left inLeft right inRight same
          · obtain rfl := List.mem_singleton.mp isRight
            exact agrees left inLeft same
        · obtain rfl := List.mem_singleton.mp isLeft
          rcases List.mem_append.mp rightMember with inRight | isRight
          · exact (agrees right inRight same.symm).symm
          · exact (List.mem_singleton.mp isRight).symm
      · intro separates
        obtain ⟨before, earlier⟩ := induction.mpr
          (separates.of_subset (List.subset_append_left records [record]))
        obtain rfl := Dict.eq_indexed_of_assignAll earlier
        refine ⟨_, _, earlier, fun existing found => ?_, rfl⟩
        obtain ⟨present, keyed⟩ := Dict.mem_of_indexed_get? found
        exact separates existing (List.mem_append_left _ present) record
          (List.mem_append_right _ (List.mem_singleton_self record)) keyed

omit [LinearOrder κ] [DecidableEq α] in
theorem mem_indexed_values_iff (separates : Separates identity records) :
    record ∈ (Dict.indexed identity records).values ↔ record ∈ records := by
  rw [Dict.mem_values_iff]
  constructor
  · rintro ⟨_, found⟩
    exact (Dict.mem_of_indexed_get? found).1
  · intro member
    obtain ⟨existing, found⟩ := exists_indexed identity member
    obtain ⟨present, keyed⟩ := Dict.mem_of_indexed_get? found
    obtain rfl := separates existing present record member keyed
    exact ⟨_, found⟩

omit [LinearOrder κ] [DecidableEq α] in
theorem nodup_indexed_values (records : List α) :
    ((Dict.indexed identity records).values.map identity).Nodup := by
  have keys : (Dict.indexed identity records).values.map identity =
      (Dict.indexed identity records).entries.map Prod.fst := by
    rw [Dict.values, List.map_map]
    refine List.map_congr_left fun entry member => ?_
    exact (Dict.mem_of_indexed_get? (Dict.get?_eq_some_iff.mpr member)).2
  exact keys ▸ (Dict.indexed identity records).nodup

theorem declared_eq_ok_iff {registered : List α}
    (apart : ∀ left right : α, key left = key right → identity left = identity right) :
    declared key identity fault records = .ok registered ↔
      Registered key identity registered ∧ ∀ record, record ∈ registered ↔ record ∈ records := by
  have registry {dict : Dict ι α} (entered : Dict.assignAll identity
      (fun existing record : α => existing ≠ record) fault records = .ok dict) :
      Registered key identity (sortOn key dict.values) ∧
        ∀ record, record ∈ sortOn key dict.values ↔ record ∈ records := by
    have separates := exists_assignAll_iff.mp ⟨dict, entered⟩
    obtain rfl := Dict.eq_indexed_of_assignAll entered
    refine ⟨⟨?_, sortOn_pairwise key _⟩, fun record => ?_⟩
    · exact ((sortOn_perm key _).map identity).nodup_iff.mpr (nodup_indexed_values records)
    · rw [mem_sortOn, mem_indexed_values_iff separates]
  simp only [declared, bind_eq_ok, pure_eq_ok, Except.ok.injEq]
  constructor
  · rintro ⟨dict, entered, rfl⟩
    exact registry entered
  · rintro ⟨final, members⟩
    have separates : Separates identity records := fun left leftMember right rightMember same =>
      eq_of_identity_eq final.unique ((members left).mpr leftMember)
        ((members right).mpr rightMember) same
    obtain ⟨dict, entered⟩ : ∃ dict, Dict.assignAll identity
        (fun existing record : α => existing ≠ record) fault records = .ok dict :=
      exists_assignAll_iff.mpr separates
    obtain ⟨registeredDict, sameMembers⟩ := registry entered
    refine ⟨dict, entered, registeredDict.ext apart final fun record => ?_⟩
    rw [sameMembers, members]

/-- The order of the declarations does not matter. -/
theorem declared_perm {others registered : List α}
    (apart : ∀ left right : α, key left = key right → identity left = identity right)
    (perm : records.Perm others)
    (accepted : declared key identity fault records = .ok registered) :
    declared key identity fault others = .ok registered := by
  obtain ⟨isRegistered, members⟩ := (declared_eq_ok_iff apart).mp accepted
  refine (declared_eq_ok_iff apart).mpr ⟨isRegistered, fun record => ?_⟩
  rw [members, perm.mem_iff]

end Declarations

end Registry
end Foundation
