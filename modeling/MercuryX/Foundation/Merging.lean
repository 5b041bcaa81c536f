import Mathlib.Data.List.Nodup
import Mathlib.Tactic

/-!
# Merging records

Records that have an identity and a content are merged one after another. A record is kept when
both are new; a record whose identity is taken by another record is a conflict; a record that
repeats the content of a kept one is dropped. Without conflicts, what is kept stands for every
record.
-/

namespace Foundation

/-- The records that were kept, and the conflicts. -/
structure Merged (α : Type) where
  kept : List α
  conflicts : List α

namespace Merged

variable {α ι κ : Type} [DecidableEq α] [DecidableEq ι] [DecidableEq κ] (identity : α → ι)
  (content : α → κ)

/-- Nothing merged yet. -/
def empty : Merged α := ⟨[], []⟩

/-- Merge one more record. -/
def add (merged : Merged α) (record : α) : Merged α :=
  match merged.kept.find? fun existing => identity existing = identity record with
  | some existing =>
      if existing = record then merged
      else { merged with conflicts := merged.conflicts ++ [record] }
  | none =>
      if content record ∈ merged.kept.map content then merged
      else { merged with kept := merged.kept ++ [record] }

/-- Merge the records of a list. -/
def all (records : List α) : Merged α := records.foldl (add identity content) empty

/-- What merging the records that were seen came to. -/
structure Covers (seen : List α) (merged : Merged α) : Prop where
  /-- What is kept stands in the order in which it was seen. -/
  sublist : merged.kept.Sublist seen
  /-- No identity is kept twice. -/
  identities_nodup : (merged.kept.map identity).Nodup
  /-- No content is kept twice. -/
  contents_nodup : (merged.kept.map content).Nodup
  /-- Without conflicts, the content of every record is kept. -/
  covered : merged.conflicts = [] → ∀ record ∈ seen, content record ∈ merged.kept.map content

theorem add_cases (merged : Merged α) (record : α) :
    (record ∈ merged.kept ∧ merged.add identity content record = merged) ∨
      merged.add identity content record =
        { merged with conflicts := merged.conflicts ++ [record] } ∨
      (content record ∈ merged.kept.map content ∧
        merged.add identity content record = merged) ∨
      (identity record ∉ merged.kept.map identity ∧ content record ∉ merged.kept.map content ∧
        merged.add identity content record = { merged with kept := merged.kept ++ [record] }) := by
  unfold add
  split
  · next existing found =>
      by_cases same : existing = record
      · subst same
        exact .inl ⟨List.mem_of_find?_eq_some found, by simp⟩
      · exact .inr (.inl (by simp [same]))
  · next missing =>
      by_cases repeated : content record ∈ merged.kept.map content
      · exact .inr (.inr (.inl ⟨repeated, by rw [if_pos repeated]⟩))
      · refine .inr (.inr (.inr ⟨?_, repeated, by rw [if_neg repeated]⟩))
        simpa using missing

variable {identity content}

theorem Covers.add {seen : List α} {merged : Merged α}
    (covers : Covers identity content seen merged) (record : α) :
    Covers identity content (seen ++ [record]) (merged.add identity content record) := by
  have longer := covers.sublist.trans (List.sublist_append_left seen [record])
  rcases add_cases identity content merged record with
    ⟨member, same⟩ | conflict | ⟨repeated, same⟩ | ⟨fresh, new, kept⟩
  · rw [same]
    refine ⟨longer, covers.identities_nodup, covers.contents_nodup, fun clear => ?_⟩
    exact List.forall_mem_append.mpr ⟨covers.covered clear,
      List.forall_mem_singleton.mpr (List.mem_map_of_mem member)⟩
  · rw [conflict]
    refine ⟨longer, covers.identities_nodup, covers.contents_nodup, fun clear => ?_⟩
    simp at clear
  · rw [same]
    refine ⟨longer, covers.identities_nodup, covers.contents_nodup, fun clear => ?_⟩
    exact List.forall_mem_append.mpr ⟨covers.covered clear,
      List.forall_mem_singleton.mpr repeated⟩
  · rw [kept]
    constructor
    case sublist => exact covers.sublist.append (List.Sublist.refl [record])
    case identities_nodup =>
      rw [List.map_append, List.map_singleton, ← List.concat_eq_append]
      exact covers.identities_nodup.concat fresh
    case contents_nodup =>
      rw [List.map_append, List.map_singleton, ← List.concat_eq_append]
      exact covers.contents_nodup.concat new
    case covered =>
      intro clear other member
      rw [List.map_append, List.mem_append]
      rcases List.mem_append.mp member with old | added
      · exact .inl (covers.covered clear other old)
      · exact .inr (List.mem_map_of_mem added)

theorem covers_all (records : List α) :
    Covers identity content records (all identity content records) := by
  induction records using List.reverseRecOn with
  | nil => exact ⟨List.Sublist.refl [], List.nodup_nil, List.nodup_nil, by simp⟩
  | append_singleton records record induction =>
      rw [all, List.foldl_concat]
      exact induction.add record

omit [DecidableEq ι] [DecidableEq κ] in
/-- Without conflicts, one record of a class is kept at most exactly when the records of the class
agree on their content, where the content decides on the class. -/
theorem Covers.at_most_one_iff {seen : List α} {merged : Merged α}
    (covers : Covers identity content seen merged) (clear : merged.conflicts = [])
    (inClass : κ → Bool) :
    (merged.kept.filter fun record => inClass (content record)).length ≤ 1 ↔
      ∀ left ∈ seen, ∀ right ∈ seen, inClass (content left) → inClass (content right) →
        content left = content right := by
  have unique : (merged.kept.filter fun record => inClass (content record)).Nodup :=
    covers.contents_nodup.of_map.filter _
  rw [← List.toFinset_card_of_nodup unique, Finset.card_le_one]
  simp only [List.mem_toFinset, List.mem_filter, and_imp]
  constructor
  · intro single left leftSeen right rightSeen leftClass rightClass
    obtain ⟨keptLeft, leftMember, sameLeft⟩ :=
      List.mem_map.mp (covers.covered clear left leftSeen)
    obtain ⟨keptRight, rightMember, sameRight⟩ :=
      List.mem_map.mp (covers.covered clear right rightSeen)
    have equal : keptLeft = keptRight := single keptLeft leftMember (sameLeft ▸ leftClass)
      keptRight rightMember (sameRight ▸ rightClass)
    rw [← sameLeft, ← sameRight, equal]
  · intro agree left leftMember leftClass right rightMember rightClass
    have same := agree left (covers.sublist.subset leftMember) right
      (covers.sublist.subset rightMember) leftClass rightClass
    exact List.inj_on_of_nodup_map covers.contents_nodup leftMember rightMember same

end Merged
end Foundation
