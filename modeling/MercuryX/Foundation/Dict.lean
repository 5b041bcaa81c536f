import MercuryX.Foundation.Fallible

/-!
# Insertion-ordered dictionaries

A dictionary keeps its entries in the order their keys were first assigned. Assigning to a present
key replaces the value in place, assigning to a fresh key appends an entry.
-/

namespace Foundation

/-- A finite map whose entries stand in the order of their first assignment. -/
structure Dict (κ ν : Type) where
  /-- The entries, oldest key first. -/
  entries : List (κ × ν)
  /-- No key is assigned twice. -/
  nodup : (entries.map Prod.fst).Nodup

namespace Dict

variable {κ ν : Type}

/-- The dictionary without entries. -/
def empty : Dict κ ν := ⟨[], List.nodup_nil⟩

/-- The assigned keys, oldest first. -/
def keys (dict : Dict κ ν) : List κ := dict.entries.map Prod.fst

/-- The values, in the order of their keys. -/
def values (dict : Dict κ ν) : List ν := dict.entries.map Prod.snd

variable [DecidableEq κ]

/-- The value of a key, if it was assigned one. -/
def get? (dict : Dict κ ν) (key : κ) : Option ν :=
  (dict.entries.find? fun entry => entry.1 = key).map Prod.snd

/-- Replace the value of a key wherever it stands in a list of entries. -/
def replaceValue (key : κ) (value : ν) (entries : List (κ × ν)) : List (κ × ν) :=
  entries.map fun entry => if entry.1 = key then (key, value) else entry

theorem map_fst_replaceValue (key : κ) (value : ν) (entries : List (κ × ν)) :
    (replaceValue key value entries).map Prod.fst = entries.map Prod.fst := by
  rw [replaceValue, List.map_map]
  refine List.map_congr_left fun entry _ => ?_
  by_cases same : entry.1 = key
  · simp [same]
  · simp [same]

/-- Assign a value to a key. -/
def insert (dict : Dict κ ν) (key : κ) (value : ν) : Dict κ ν :=
  if present : key ∈ dict.keys then
    ⟨replaceValue key value dict.entries, by
      rw [map_fst_replaceValue]
      exact dict.nodup⟩
  else
    ⟨dict.entries ++ [(key, value)], by
      simpa [List.nodup_append, dict.nodup] using
        fun other value member same => present (List.mem_map.mpr ⟨_, member, same⟩)⟩

/-- Assign the entries of a list one after another, starting from the empty dictionary. -/
def ofList (entries : List (κ × ν)) : Dict κ ν :=
  entries.foldl (fun dict entry => dict.insert entry.1 entry.2) empty

theorem insert_entries_of_mem {dict : Dict κ ν} {key : κ} (present : key ∈ dict.keys)
    (value : ν) : (dict.insert key value).entries = replaceValue key value dict.entries := by
  simp [insert, present]

theorem insert_entries_of_not_mem {dict : Dict κ ν} {key : κ} (fresh : key ∉ dict.keys)
    (value : ν) : (dict.insert key value).entries = dict.entries ++ [(key, value)] := by
  simp [insert, fresh]

@[simp] theorem mem_keys_insert {dict : Dict κ ν} {key other : κ} {value : ν} :
    other ∈ (dict.insert key value).keys ↔ other = key ∨ other ∈ dict.keys := by
  by_cases present : key ∈ dict.keys
  · have sameKeys : (dict.insert key value).keys = dict.keys := by
      rw [keys, insert_entries_of_mem present, map_fst_replaceValue, keys]
    rw [sameKeys]
    constructor
    · exact .inr
    · rintro (rfl | member)
      · exact present
      · exact member
  · simp [keys, insert_entries_of_not_mem present, or_comm]

theorem get?_eq_some_iff {dict : Dict κ ν} {key : κ} {value : ν} :
    dict.get? key = some value ↔ (key, value) ∈ dict.entries := by
  obtain ⟨entries, unique⟩ := dict
  rw [get?]
  induction entries with
  | nil => simp
  | cons entry rest induction =>
      obtain ⟨other, otherValue⟩ := entry
      rw [List.map_cons, List.nodup_cons] at unique
      by_cases same : other = key
      · subst same
        have fresh : (other, value) ∉ rest := fun member =>
          unique.1 (List.mem_map.mpr ⟨_, member, rfl⟩)
        simp [fresh, eq_comm]
      · have different : key ≠ other := fun equal => same equal.symm
        simp only [List.find?_cons, same, decide_false, List.mem_cons, Prod.mk.injEq, different,
          false_and, false_or]
        exact induction unique.2

theorem get?_eq_none_iff {dict : Dict κ ν} {key : κ} :
    dict.get? key = none ↔ key ∉ dict.keys := by
  simp only [get?, keys, Option.map_eq_none_iff, List.find?_eq_none, List.mem_map, not_exists,
    not_and, decide_eq_true_eq]

theorem mem_keys_iff {dict : Dict κ ν} {key : κ} :
    key ∈ dict.keys ↔ ∃ value, dict.get? key = some value := by
  rw [← not_iff_not, ← get?_eq_none_iff]
  cases dict.get? key <;> simp

theorem mem_values_iff {dict : Dict κ ν} {value : ν} :
    value ∈ dict.values ↔ ∃ key, dict.get? key = some value := by
  simp [values, get?_eq_some_iff]

@[simp] theorem get?_empty (key : κ) : (empty : Dict κ ν).get? key = none := rfl

@[simp] theorem get?_insert_self (dict : Dict κ ν) (key : κ) (value : ν) :
    (dict.insert key value).get? key = some value := by
  rw [get?_eq_some_iff]
  by_cases present : key ∈ dict.keys
  · obtain ⟨entry, member, rfl⟩ := List.mem_map.mp present
    rw [insert_entries_of_mem present, replaceValue, List.mem_map]
    exact ⟨entry, member, by simp⟩
  · simp [insert_entries_of_not_mem present]

theorem get?_insert_of_ne (dict : Dict κ ν) {key other : κ} (different : other ≠ key)
    (value : ν) : (dict.insert key value).get? other = dict.get? other := by
  ext found
  rw [get?_eq_some_iff, get?_eq_some_iff]
  by_cases present : key ∈ dict.keys
  · rw [insert_entries_of_mem present, replaceValue, List.mem_map]
    constructor
    · rintro ⟨entry, member, replaced⟩
      by_cases same : entry.1 = key
      · rw [if_pos same, Prod.mk.injEq] at replaced
        exact absurd replaced.1.symm different
      · rw [if_neg same] at replaced
        exact replaced ▸ member
    · intro member
      exact ⟨(other, found), member, by simp [different]⟩
  · simp [insert_entries_of_not_mem present, different]

theorem insert_eq_self {dict : Dict κ ν} {key : κ} {value : ν}
    (assigned : dict.get? key = some value) :
    (dict.insert key value).entries = dict.entries := by
  have present : key ∈ dict.keys := mem_keys_iff.mpr ⟨value, assigned⟩
  rw [insert_entries_of_mem present, replaceValue]
  conv_rhs => rw [← List.map_id dict.entries]
  refine List.map_congr_left fun entry member => ?_
  by_cases same : entry.1 = key
  · obtain ⟨entryKey, entryValue⟩ := entry
    subst same
    have entryAssigned := get?_eq_some_iff.mpr member
    have equal : entryValue = value := by
      rw [assigned] at entryAssigned
      exact (Option.some_inj.mp entryAssigned).symm
    simp [equal]
  · simp [same]

private theorem foldl_insert_entries (entries : List (κ × ν)) (dict : Dict κ ν)
    (fresh : ((dict.entries ++ entries).map Prod.fst).Nodup) :
    (entries.foldl (fun dict entry => dict.insert entry.1 entry.2) dict).entries =
      dict.entries ++ entries := by
  induction entries generalizing dict with
  | nil => simp
  | cons entry rest induction =>
      have headFresh : entry.1 ∉ dict.keys := by
        simp only [List.map_append, List.map_cons, List.nodup_append, List.mem_cons] at fresh
        exact fun member => fresh.2.2 _ member _ (.inl rfl) rfl
      have extended := insert_entries_of_not_mem headFresh entry.2
      rw [List.foldl_cons, induction, extended]
      · simp
      · rw [extended]
        simpa using fresh

/-- A list with distinct keys is assigned as it stands. -/
theorem ofList_entries {entries : List (κ × ν)} (nodup : (entries.map Prod.fst).Nodup) :
    (ofList entries).entries = entries := by
  simpa [ofList, empty] using foldl_insert_entries entries empty (by simpa [empty] using nodup)

end Dict

/-! ## Records indexed by their own key -/

namespace Dict

variable {κ ν : Type} [DecidableEq κ]

/-- The dictionary of a list of records under their own keys. -/
def indexed (key : ν → κ) (records : List ν) : Dict κ ν :=
  ofList (records.map fun record => (key record, record))

variable {key : ν → κ} {records : List ν}

theorem indexed_entries (unique : (records.map key).Nodup) :
    (indexed key records).entries = records.map fun record => (key record, record) := by
  refine ofList_entries ?_
  rw [List.map_map]
  exact unique

theorem indexed_values (unique : (records.map key).Nodup) :
    (indexed key records).values = records := by
  simp [values, indexed_entries unique, Function.comp_def]

theorem indexed_keys (unique : (records.map key).Nodup) :
    (indexed key records).keys = records.map key := by
  simp [keys, indexed_entries unique, Function.comp_def]

theorem indexed_get?_eq_some_iff (unique : (records.map key).Nodup) {index : κ} {record : ν} :
    (indexed key records).get? index = some record ↔ record ∈ records ∧ key record = index := by
  rw [get?_eq_some_iff, indexed_entries unique, List.mem_map]
  constructor
  · rintro ⟨found, member, same⟩
    obtain ⟨rfl, rfl⟩ := Prod.mk.inj same
    exact ⟨member, rfl⟩
  · rintro ⟨member, rfl⟩
    exact ⟨record, member, rfl⟩

/-- Assigning a record already present leaves the records as they are. -/
theorem indexed_insert_of_mem (unique : (records.map key).Nodup) {record : ν}
    (member : record ∈ records) :
    ((indexed key records).insert (key record) record).values = records := by
  have assigned : (indexed key records).get? (key record) = some record :=
    (indexed_get?_eq_some_iff unique).mpr ⟨member, rfl⟩
  rw [values, insert_eq_self assigned]
  exact indexed_values unique

theorem indexed_insert_of_fresh (unique : (records.map key).Nodup) {record : ν}
    (fresh : key record ∉ records.map key) :
    ((indexed key records).insert (key record) record).values = records ++ [record] := by
  rw [← indexed_keys unique] at fresh
  rw [values, insert_entries_of_not_mem fresh, List.map_append]
  simpa [values] using indexed_values unique

theorem indexed_concat (records : List ν) (record : ν) :
    indexed key (records ++ [record]) = (indexed key records).insert (key record) record := by
  simp [indexed, ofList]

/-- Of several records under one key, the last is kept. -/
theorem indexed_get?_eq_find? (records : List ν) (index : κ) :
    (indexed key records).get? index = records.reverse.find? fun record => key record = index := by
  induction records using List.reverseRecOn with
  | nil => rfl
  | append_singleton records record induction =>
      rw [indexed_concat, List.reverse_concat, List.find?_cons]
      by_cases same : key record = index
      · rw [same, get?_insert_self, decide_eq_true rfl]
      · rw [get?_insert_of_ne _ (Ne.symm same), induction, decide_eq_false same]

theorem mem_of_indexed_get? {index : κ} {record : ν}
    (found : (indexed key records).get? index = some record) :
    record ∈ records ∧ key record = index := by
  rw [indexed_get?_eq_find?] at found
  have keyed := List.find?_some found
  exact ⟨List.mem_reverse.mp (List.mem_of_find?_eq_some found), of_decide_eq_true keyed⟩

theorem indexed_get?_map {μ : Type} {change : ν → μ} {changedKey : μ → κ}
    (kept : ∀ record, changedKey (change record) = key record) (records : List ν) (index : κ) :
    (indexed changedKey (records.map change)).get? index =
      ((indexed key records).get? index).map change := by
  rw [indexed_get?_eq_find?, indexed_get?_eq_find?, ← List.map_reverse, List.find?_map]
  simp only [Function.comp_def, kept]

/-! ## Guarded assignment -/

variable {Fault : Type}

/-- Assign a record under its own key, unless the record it replaces refuses that. -/
def assign (key : ν → κ) (refuses : ν → ν → Bool) (fault : Fault) (dict : Dict κ ν) (record : ν) :
    Except Fault (Dict κ ν) :=
  match dict.get? (key record) with
  | some existing =>
      if refuses existing record then .error fault else .ok (dict.insert (key record) record)
  | none => .ok (dict.insert (key record) record)

/-- Assign records one after another, starting from the empty dictionary. -/
def assignAll (key : ν → κ) (refuses : ν → ν → Bool) (fault : Fault) (records : List ν) :
    Except Fault (Dict κ ν) :=
  records.foldlM (assign key refuses fault) empty

theorem assign_eq_ok_iff {refuses : ν → ν → Bool} {fault : Fault} {dict next : Dict κ ν}
    {record : ν} : assign key refuses fault dict record = .ok next ↔
      (∀ existing, dict.get? (key record) = some existing → refuses existing record = false) ∧
        dict.insert (key record) record = next := by
  unfold assign
  split
  next existing found => by_cases refused : refuses existing record <;> simp [found, refused]
  next missing => simp [missing]

/-- One more record is assigned exactly when the last record under its key does not refuse it. -/
theorem assignAll_concat_eq_ok_iff {refuses : ν → ν → Bool} {fault : Fault} {records : List ν}
    {record : ν} {dict : Dict κ ν} :
    assignAll key refuses fault (records ++ [record]) = .ok dict ↔
      ∃ before, assignAll key refuses fault records = .ok before ∧
        (∀ existing, before.get? (key record) = some existing → refuses existing record = false) ∧
        before.insert (key record) record = dict := by
  simp only [assignAll, List.foldlM_append, List.foldlM_cons, List.foldlM_nil, bind_eq_ok,
    assign_eq_ok_iff, pure_eq_ok, Except.ok.injEq]
  constructor
  · rintro ⟨before, earlier, _, ⟨willing, rfl⟩, rfl⟩
    exact ⟨before, earlier, willing, rfl⟩
  · rintro ⟨before, earlier, willing, rfl⟩
    exact ⟨before, earlier, _, ⟨willing, rfl⟩, rfl⟩

/-- What guarded assignment leaves is the dictionary of the records. -/
theorem eq_indexed_of_assignAll {refuses : ν → ν → Bool} {fault : Fault} {records : List ν}
    {dict : Dict κ ν} (assigned : assignAll key refuses fault records = .ok dict) :
    dict = indexed key records := by
  induction records using List.reverseRecOn generalizing dict with
  | nil => exact (Except.ok.inj assigned).symm
  | append_singleton records record induction =>
      obtain ⟨before, earlier, _, rfl⟩ := assignAll_concat_eq_ok_iff.mp assigned
      rw [indexed_concat, induction earlier]

end Dict
end Foundation
