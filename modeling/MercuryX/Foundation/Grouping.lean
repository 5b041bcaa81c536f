import MercuryX.Foundation.Canonical
import MercuryX.Foundation.Dict

/-!
# Grouping under keys

A dictionary of lists gathers values under their keys. What a key ends up with are its values in
the order in which they came, so a grouping is known as soon as its entries are.
-/

namespace Foundation
namespace Dict

variable {κ ν : Type} [DecidableEq κ]

/-- Append a value to the list of a key, which starts empty. -/
def push (dict : Dict κ (List ν)) (key : κ) (value : ν) : Dict κ (List ν) :=
  dict.insert key ((dict.get? key).getD [] ++ [value])

/-- The values of a list of entries, gathered under their keys. -/
def grouped (entries : List (κ × ν)) : Dict κ (List ν) :=
  entries.foldl (fun dict entry => dict.push entry.1 entry.2) empty

/-- The values that a list of entries has for a key. -/
def valuesOf (entries : List (κ × ν)) (key : κ) : List ν :=
  (entries.filter fun entry => entry.1 = key).map Prod.snd

@[simp] theorem mem_valuesOf {entries : List (κ × ν)} {key : κ} {value : ν} :
    value ∈ valuesOf entries key ↔ (key, value) ∈ entries := by
  simp only [valuesOf, List.mem_map, List.mem_filter, decide_eq_true_eq]
  constructor
  · rintro ⟨entry, ⟨member, rfl⟩, rfl⟩
    exact member
  · intro member
    exact ⟨(key, value), ⟨member, rfl⟩, rfl⟩

theorem valuesOf_append (front back : List (κ × ν)) (key : κ) :
    valuesOf (front ++ back) key = valuesOf front key ++ valuesOf back key := by
  simp [valuesOf]

theorem grouped_concat (entries : List (κ × ν)) (key : κ) (value : ν) :
    grouped (entries ++ [(key, value)]) = (grouped entries).push key value := by
  simp [grouped]

theorem mem_keys_grouped {entries : List (κ × ν)} {key : κ} :
    key ∈ (grouped entries).keys ↔ key ∈ entries.map Prod.fst := by
  induction entries using List.reverseRecOn with
  | nil => simp [grouped, keys, empty]
  | append_singleton entries entry induction =>
      obtain ⟨added, value⟩ := entry
      rw [grouped_concat, push, mem_keys_iff, List.map_append, List.mem_append, ← induction,
        mem_keys_iff]
      by_cases same : key = added
      · subst same
        simp
      · simp [get?_insert_of_ne _ same, same]

theorem get?_grouped_getD (entries : List (κ × ν)) (key : κ) :
    ((grouped entries).get? key).getD [] = valuesOf entries key := by
  induction entries using List.reverseRecOn with
  | nil => rfl
  | append_singleton entries entry induction =>
      obtain ⟨added, value⟩ := entry
      rw [grouped_concat, push, valuesOf_append]
      by_cases same : key = added
      · subst same
        simp [induction, valuesOf]
      · simp [get?_insert_of_ne _ same, induction, valuesOf, Ne.symm same]

theorem mem_entries_grouped {entries : List (κ × ν)} {key : κ} {values : List ν} :
    (key, values) ∈ (grouped entries).entries ↔
      key ∈ entries.map Prod.fst ∧ valuesOf entries key = values := by
  rw [← get?_eq_some_iff, ← mem_keys_grouped, mem_keys_iff, ← get?_grouped_getD]
  constructor
  · intro found
    simp [found]
  · rintro ⟨⟨values, found⟩, rfl⟩
    simp [found]

theorem length_keys_grouped (entries : List (κ × ν)) :
    (grouped entries).keys.length = (entries.map Prod.fst).dedup.length := by
  refine (List.perm_of_nodup_nodup_toFinset_eq (grouped entries).nodup
    (List.nodup_dedup _) ?_).length_eq
  ext key
  rw [List.mem_toFinset, List.mem_toFinset, List.mem_dedup]
  exact mem_keys_grouped

/-! ## The order of the entries -/

theorem valuesOf_perm {lefts rights : List (κ × ν)} (perm : lefts.Perm rights) (key : κ) :
    (valuesOf lefts key).Perm (valuesOf rights key) :=
  (perm.filter _).map Prod.snd

theorem keys_grouped_perm {lefts rights : List (κ × ν)} (perm : lefts.Perm rights) :
    (grouped lefts).keys.Perm (grouped rights).keys := by
  refine (List.perm_ext_iff_of_nodup (grouped lefts).nodup (grouped rights).nodup).mpr ?_
  intro key
  exact mem_keys_grouped.trans ((perm.map Prod.fst).mem_iff.trans mem_keys_grouped.symm)

theorem entries_grouped (entries : List (κ × ν)) : (grouped entries).entries =
    (grouped entries).keys.map fun key => (key, valuesOf entries key) := by
  rw [keys, List.map_map]
  conv_lhs => rw [← List.map_id (grouped entries).entries]
  refine List.map_congr_left fun entry member => Prod.ext rfl ?_
  exact (mem_entries_grouped.mp member).2.symm

theorem sortOn_entries_grouped {κ : Type} [LinearOrder κ] [DecidableEq κ]
    (entries : List (κ × ν)) :
    sortOn Prod.fst (grouped entries).entries =
      (sortOn id (grouped entries).keys).map fun key => (key, valuesOf entries key) := by
  rw [map_sortOn id (fun key => (key, valuesOf entries key)) Prod.fst fun _ => rfl,
    ← entries_grouped]

end Dict
end Foundation
