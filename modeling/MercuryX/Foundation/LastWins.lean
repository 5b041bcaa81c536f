import MercuryX.Foundation.Dict

/-!
# The last record under a key

A dictionary of records under their own keys keeps the last record under each key. Which one that
is depends on the order of the records: for every choice of one record under each of some keys
there is an order in which the dictionary keeps the choice.
-/

namespace Foundation
namespace Dict

variable {κ ν : Type} [DecidableEq κ] {key : ν → κ} {records : List ν} {keys : List κ}

/-- A choice of one of the records under each of some keys. -/
def Chooses (key : ν → κ) (records : List ν) (keys : List κ) (choice : κ → Option ν) : Prop :=
  ∀ index ∈ keys, ∃ record ∈ choice index, record ∈ records ∧ key record = index

/-- A dictionary of the records that has the keys makes a choice. -/
theorem chooses_indexed {others : List ν} (perm : others.Perm records)
    (covered : ∀ index ∈ keys, ∃ record ∈ records, key record = index) :
    Chooses key records keys (indexed key others).get? := by
  intro index member
  obtain ⟨record, inside, named⟩ := covered index member
  have held : ((indexed key others).get? index).isSome := by
    rw [indexed_get?_eq_find?, List.find?_isSome]
    exact ⟨record, List.mem_reverse.mpr (perm.mem_iff.mpr inside), decide_eq_true named⟩
  obtain ⟨found, isFound⟩ := Option.isSome_iff_exists.mp held
  obtain ⟨foundInside, foundNamed⟩ := mem_of_indexed_get? isFound
  exact ⟨found, isFound, perm.mem_iff.mp foundInside, foundNamed⟩

omit [DecidableEq κ] in
theorem Chooses.of_mem {choice : κ → Option ν} (chooses : Chooses key records keys choice)
    {index : κ} (member : index ∈ keys) {record : ν} (chosen : record ∈ choice index) :
    record ∈ records ∧ key record = index := by
  obtain ⟨other, alsoChosen, inside, named⟩ := chooses index member
  obtain rfl := Option.mem_unique chosen alsoChosen
  exact ⟨inside, named⟩

/-- Another record under one of the keys may be chosen instead. -/
theorem Chooses.update {choice : κ → Option ν} (chooses : Chooses key records keys choice)
    {record : ν} (inside : record ∈ records) :
    Chooses key records keys (Function.update choice (key record) (some record)) := by
  intro index member
  by_cases same : index = key record
  · subst same
    exact ⟨record, by simp, inside, rfl⟩
  · rw [Function.update_of_ne same]
    exact chooses index member

omit [DecidableEq κ] in
theorem map_key_of_chooses {choice : κ → Option ν} (chooses : Chooses key records keys choice) :
    (keys.filterMap choice).map key = keys := by
  induction keys with
  | nil => rfl
  | cons index keys induction =>
      obtain ⟨record, chosen, _, named⟩ := chooses index List.mem_cons_self
      rw [List.filterMap_cons_some chosen, List.map_cons, named,
        induction fun other member => chooses other (List.mem_cons_of_mem _ member)]

theorem exists_order_of_chooses (distinct : keys.Nodup) {choice : κ → Option ν}
    (chooses : Chooses key records keys choice) :
    ∃ others, List.Perm others records ∧
      ∀ index ∈ keys, (indexed key others).get? index = choice index := by
  have keyed : ((keys.filterMap choice).map key).Nodup := by
    rwa [map_key_of_chooses chooses]
  have inside : keys.filterMap choice ⊆ records := by
    intro record member
    obtain ⟨index, isKey, chosen⟩ := List.mem_filterMap.mp member
    exact (chooses.of_mem isKey chosen).1
  obtain ⟨front, frontPerm, below⟩ := List.subperm_of_subset (List.Nodup.of_map key keyed) inside
  obtain ⟨rest, split⟩ := below.exists_perm_append
  refine ⟨rest ++ keys.filterMap choice, ?_, fun index member => ?_⟩
  · exact (List.perm_append_comm.trans (frontPerm.symm.append_right rest)).trans split.symm
  · obtain ⟨record, chosen, _, named⟩ := chooses index member
    have picked : record ∈ keys.filterMap choice := List.mem_filterMap.mpr ⟨index, member, chosen⟩
    have held : ((keys.filterMap choice).reverse.find? fun other => key other = index).isSome :=
      List.find?_isSome.mpr ⟨record, List.mem_reverse.mpr picked, decide_eq_true named⟩
    obtain ⟨found, isFound⟩ := Option.isSome_iff_exists.mp held
    have foundNamed : key found = index := by simpa using List.find?_some isFound
    have foundPicked := List.mem_reverse.mp (List.mem_of_find?_eq_some isFound)
    obtain rfl := List.inj_on_of_nodup_map keyed foundPicked picked (foundNamed.trans named.symm)
    rw [indexed_get?_eq_find?, List.reverse_append, List.find?_append, isFound]
    exact chosen.symm

end Dict
end Foundation
