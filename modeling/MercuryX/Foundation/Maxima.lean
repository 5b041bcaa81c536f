import MercuryX.Foundation.Dict

/-!
# The greatest of each key

A dictionary that holds under each key the greatest rank of the records of the key, computed by
going through the records once.
-/

namespace Foundation
namespace Dict

variable {κ ν : Type} [DecidableEq κ]

/-- The greatest rank of the records of each key. -/
def maxima (key : ν → κ) (rank : ν → Nat) (records : List ν) : Dict κ Nat :=
  records.foldl (fun greatest record => greatest.insert (key record)
    (max ((greatest.get? (key record)).getD 0) (rank record))) .empty

variable {key : ν → κ} {rank : ν → Nat} {records : List ν} {index : κ}

theorem maxima_concat (records : List ν) (record : ν) :
    maxima key rank (records ++ [record]) = (maxima key rank records).insert (key record)
      (max (((maxima key rank records).get? (key record)).getD 0) (rank record)) := by
  rw [maxima, List.foldl_append, List.foldl_cons, List.foldl_nil, maxima]

theorem max?_concat (ranks : List Nat) (last : Nat) :
    (ranks ++ [last]).max? = some (max (ranks.max?.getD 0) last) := by
  cases ranks with
  | nil => simp
  | cons first ranks =>
      rw [List.cons_append, List.max?_cons', List.max?_cons', List.foldl_append]
      rfl

theorem maxima_get?_eq (records : List ν) (index : κ) :
    (maxima key rank records).get? index =
      ((records.filter fun record => key record = index).map rank).max? := by
  induction records using List.reverseRecOn with
  | nil => rfl
  | append_singleton records record induction =>
      rw [maxima_concat, List.filter_append, List.map_append, List.filter_singleton]
      by_cases same : key record = index
      · subst same
        rw [get?_insert_self, induction]
        simp [max?_concat]
      · rw [get?_insert_of_ne _ (Ne.symm same), induction]
        simp [same]

theorem exists_maxima {record : ν} (member : record ∈ records) :
    ∃ greatest, (maxima key rank records).get? (key record) = some greatest ∧
      rank record ≤ greatest := by
  have among : rank record ∈ (records.filter fun other => key other = key record).map rank :=
    List.mem_map_of_mem (List.mem_filter.mpr ⟨member, by simp⟩)
  rw [maxima_get?_eq]
  cases found : ((records.filter fun other => key other = key record).map rank).max? with
  | none =>
      rw [List.max?_eq_none_iff] at found
      rw [found] at among
      contradiction
  | some greatest => exact ⟨greatest, rfl, (List.max?_eq_some_iff.mp found).2 _ among⟩

theorem exists_of_maxima {greatest : Nat}
    (found : (maxima key rank records).get? index = some greatest) :
    ∃ record ∈ records, key record = index ∧ rank record = greatest := by
  rw [maxima_get?_eq] at found
  obtain ⟨record, among, same⟩ := List.mem_map.mp (List.max?_eq_some_iff.mp found).1
  obtain ⟨member, named⟩ := List.mem_filter.mp among
  exact ⟨record, member, of_decide_eq_true named, same⟩

end Dict
end Foundation
