import MercuryX.Foundation.Merging

/-!
# Merging in different orders

Records are merged onto records that are held already. The order decides which of several records is
kept, so the contents that are kept, and whether there is a conflict, may depend on it. Both
questions are answered by selections: lists of records that could be kept together.

A content is avoidable when some selection without it takes every identity under which it could be
kept; the contents that are kept are the same for every order exactly when none is avoidable. Some
order has no conflicts exactly when some selection leads every record to its own content.
-/

namespace Foundation
namespace Merged

variable {α ι κ : Type} [DecidableEq α] [DecidableEq ι] [DecidableEq κ] (identity : α → ι)
  (content : α → κ)

/-! ## One step -/

/-- Neither the identity nor the content of the record is held. -/
def Fresh (held : List α) (record : α) : Prop :=
  identity record ∉ held.map identity ∧ content record ∉ held.map content

instance (held : List α) (record : α) : Decidable (Fresh identity content held record) :=
  inferInstanceAs (Decidable (_ ∧ _))

/-- No other record of the identity of the record is held. -/
def Agrees (held : List α) (record : α) : Prop :=
  ∀ existing ∈ held, identity existing = identity record → existing = record

variable {identity content} {merged : Merged α} {record : α}

theorem add_of_fresh (fresh : Fresh identity content merged.kept record) :
    merged.add identity content record = { merged with kept := merged.kept ++ [record] } := by
  have missing :
      merged.kept.find? (fun existing => identity existing = identity record) = none := by
    simpa using fresh.1
  simp [add, missing, fresh.2]

theorem kept_add_of_not_fresh (stale : ¬ Fresh identity content merged.kept record) :
    (merged.add identity content record).kept = merged.kept := by
  rcases add_cases identity content merged record with
    ⟨_, same⟩ | conflict | ⟨_, same⟩ | ⟨fresh, new, _⟩
  · rw [same]
  · rw [conflict]
  · rw [same]
  · exact absurd ⟨fresh, new⟩ stale

/-- A record that is held, or whose content is, changes nothing when it agrees. -/
theorem add_of_agrees (stale : ¬ Fresh identity content merged.kept record)
    (agrees : Agrees identity merged.kept record) :
    merged.add identity content record = merged := by
  unfold add
  split
  · next existing found =>
      have same := agrees existing (List.mem_of_find?_eq_some found) (by
        simpa using List.find?_some found)
      rw [if_pos same]
  · next missing =>
      refine if_pos (Classical.byContradiction fun new => stale ⟨?_, new⟩)
      simpa using missing

theorem conflicts_add_eq_nil_iff (unique : (merged.kept.map identity).Nodup) :
    (merged.add identity content record).conflicts = [] ↔
      merged.conflicts = [] ∧ Agrees identity merged.kept record := by
  unfold add
  split
  · next existing found =>
      have member := List.mem_of_find?_eq_some found
      have shared : identity existing = identity record := by simpa using List.find?_some found
      have agrees : Agrees identity merged.kept record ↔ existing = record := by
        constructor
        · exact fun agrees => agrees existing member shared
        · rintro same other inside sharedOther
          rw [← same]
          exact List.inj_on_of_nodup_map unique inside member (sharedOther.trans shared.symm)
      by_cases same : existing = record <;> simp [agrees, same]
  · next missing =>
      have agrees : Agrees identity merged.kept record := fun existing inside shared => by
        simpa [shared] using List.find?_eq_none.mp missing existing inside
      by_cases repeated : content record ∈ merged.kept.map content <;> simp [repeated, agrees]

/-! ## Runs -/

variable (identity content) in
/-- Merge records onto records that are held. -/
def after (held records : List α) : Merged α := records.foldl (add identity content) ⟨held, []⟩

variable (identity content) in
/-- The records could be kept together: they are added, new to what is held and to each other. -/
structure Selects (held added chosen : List α) : Prop where
  /-- They are added, and nothing of them is held. -/
  fresh : ∀ record ∈ chosen, record ∈ added ∧ Fresh identity content held record
  /-- No identity is chosen twice. -/
  identities_nodup : (chosen.map identity).Nodup
  /-- No content is chosen twice. -/
  contents_nodup : (chosen.map content).Nodup

variable {held added order chosen records : List α}

omit [DecidableEq α] [DecidableEq ι] [DecidableEq κ] in
theorem Selects.mono (selects : Selects identity content held added chosen)
    (more : ∀ record ∈ added, record ∈ records) : Selects identity content held records chosen :=
  ⟨fun record member => ⟨more record (selects.fresh record member).1,
    (selects.fresh record member).2⟩, selects.identities_nodup, selects.contents_nodup⟩

omit [DecidableEq α] [DecidableEq ι] [DecidableEq κ] in
theorem Selects.concat (selects : Selects identity content held added chosen)
    (fresh : Fresh identity content (held ++ chosen) record) :
    Selects identity content held (added ++ [record]) (chosen ++ [record]) := by
  simp only [Fresh, List.map_append, List.mem_append, not_or] at fresh
  constructor
  case fresh =>
    intro other member
    rcases List.mem_append.mp member with old | new
    · exact ⟨List.mem_append_left _ (selects.fresh other old).1, (selects.fresh other old).2⟩
    · obtain rfl := List.mem_singleton.mp new
      exact ⟨List.mem_append_right _ new, fresh.1.1, fresh.2.1⟩
  case identities_nodup =>
    rw [List.map_append, List.map_singleton, ← List.concat_eq_append]
    exact selects.identities_nodup.concat fresh.1.2
  case contents_nodup =>
    rw [List.map_append, List.map_singleton, ← List.concat_eq_append]
    exact selects.contents_nodup.concat fresh.2.2

/-- What a run keeps is a selection, which leaves no record fresh. -/
theorem exists_chosen (held records : List α) :
    ∃ chosen, (after identity content held records).kept = held ++ chosen ∧
      Selects identity content held records chosen ∧
      ∀ record ∈ records, ¬ Fresh identity content (held ++ chosen) record := by
  induction records using List.reverseRecOn with
  | nil => exact ⟨[], by simp [after], ⟨by simp, List.nodup_nil, List.nodup_nil⟩, by simp⟩
  | append_singleton records record induction =>
      obtain ⟨chosen, kept, selects, stale⟩ := induction
      rw [after, List.foldl_concat, ← after]
      by_cases fresh : Fresh identity content (held ++ chosen) record
      · refine ⟨chosen ++ [record], ?_, selects.concat fresh, ?_⟩
        · rw [add_of_fresh (kept.symm ▸ fresh), kept, List.append_assoc]
        · refine List.forall_mem_append.mpr ⟨fun other member isFresh => ?_, ?_⟩
          · refine stale other member ⟨fun inside => isFresh.1 ?_, fun inside => isFresh.2 ?_⟩
            all_goals
              rw [← List.append_assoc, List.map_append]
              exact List.mem_append_left _ inside
          · refine List.forall_mem_singleton.mpr fun isFresh => isFresh.1 ?_
            exact List.mem_map_of_mem (by simp)
      · refine ⟨chosen, ?_, selects.mono fun other => List.mem_append_left _, ?_⟩
        · rw [kept_add_of_not_fresh (kept.symm ▸ fresh), kept]
        · exact List.forall_mem_append.mpr ⟨stale, List.forall_mem_singleton.mpr fresh⟩

theorem identities_nodup_after (unique : (held.map identity).Nodup) (records : List α) :
    ((after identity content held records).kept.map identity).Nodup := by
  obtain ⟨chosen, kept, selects, _⟩ := @exists_chosen _ _ _ _ _ _ identity content held records
  rw [kept, List.map_append, List.nodup_append]
  refine ⟨unique, selects.identities_nodup, fun left leftMember right rightMember same => ?_⟩
  obtain ⟨record, isChosen, rfl⟩ := List.mem_map.mp rightMember
  exact (selects.fresh record isChosen).2.1 (same ▸ leftMember)

theorem conflicts_eq_nil_of_agrees (unique : (held.map identity).Nodup)
    (agrees : ∀ record ∈ records, Agrees identity (held ++ records) record) :
    (after identity content held records).conflicts = [] := by
  induction records using List.reverseRecOn with
  | nil => rfl
  | append_singleton records record induction =>
      have before : (after identity content held records).conflicts = [] := by
        refine induction fun other member existing inside => ?_
        refine agrees other (List.mem_append_left _ member) existing ?_
        rw [← List.append_assoc]
        exact List.mem_append_left _ inside
      rw [after, List.foldl_concat, ← after,
        conflicts_add_eq_nil_iff (identities_nodup_after unique records)]
      refine ⟨before, fun existing inside => agrees record (by simp) existing ?_⟩
      obtain ⟨chosen, kept, selects, _⟩ := @exists_chosen _ _ _ _ _ _ identity content held records
      rw [kept] at inside
      rcases List.mem_append.mp inside with old | new
      · exact List.mem_append_left _ old
      · exact List.mem_append_right _
          (List.mem_append_left _ (selects.fresh existing new).1)

/-- A run keeps what it starts with. -/
theorem kept_initial (merged : Merged α) (records : List α) :
    merged.kept <+: (records.foldl (add identity content) merged).kept := by
  induction records generalizing merged with
  | nil => exact List.prefix_rfl
  | cons record records induction =>
      refine List.IsPrefix.trans ?_ (induction _)
      by_cases fresh : Fresh identity content merged.kept record
      · rw [add_of_fresh fresh]
        exact List.prefix_append _ _
      · rw [kept_add_of_not_fresh fresh]

/-- A selection is kept when it comes first. -/
theorem after_selects (selects : Selects identity content held added chosen) :
    after identity content held chosen = ⟨held ++ chosen, []⟩ := by
  induction chosen using List.reverseRecOn with
  | nil => simp [after]
  | append_singleton chosen record induction =>
      have ids := selects.identities_nodup
      have contents := selects.contents_nodup
      rw [List.map_append, List.map_singleton, ← List.concat_eq_append, List.nodup_concat] at ids
      rw [List.map_append, List.map_singleton, ← List.concat_eq_append,
        List.nodup_concat] at contents
      have front : Selects identity content held added chosen :=
        ⟨fun other member => selects.fresh other (List.mem_append_left _ member), ids.2,
          contents.2⟩
      have own := (selects.fresh record (by simp)).2
      have fresh : Fresh identity content (held ++ chosen) record := by
        simp only [Fresh, List.map_append, List.mem_append, not_or]
        exact ⟨⟨own.1, ids.1⟩, own.2, contents.1⟩
      rw [after, List.foldl_concat, ← after, induction front, add_of_fresh fresh,
        List.append_assoc]

/-! ## What is kept for every order -/

variable (identity content) in
/-- Some selection without the content takes every identity under which it could be kept. -/
def Avoidable (held added : List α) (meaning : κ) : Prop :=
  ∃ chosen, Selects identity content held added chosen ∧ meaning ∉ chosen.map content ∧
    ∀ record ∈ added, Fresh identity content held record → content record = meaning →
      identity record ∈ chosen.map identity

omit [DecidableEq α] [DecidableEq ι] [DecidableEq κ] in
theorem Avoidable.of_perm {meaning : κ} (avoidable : Avoidable identity content held order meaning)
    (perm : order.Perm added) : Avoidable identity content held added meaning := by
  obtain ⟨chosen, selects, absent, taken⟩ := avoidable
  exact ⟨chosen, selects.mono fun record => perm.mem_iff.mp, absent,
    fun record member => taken record (perm.mem_iff.mpr member)⟩

theorem mem_contents_of_not_avoidable {meaning : κ}
    (unavoidable : ¬ Avoidable identity content held added meaning) :
    meaning ∈ (after identity content held added).kept.map content := by
  obtain ⟨chosen, kept, selects, stale⟩ := @exists_chosen _ _ _ _ _ _ identity content held added
  rw [kept]
  by_contra absent
  have outside : meaning ∉ chosen.map content := fun inside =>
    absent (by rw [List.map_append]; exact List.mem_append_right _ inside)
  refine unavoidable ⟨chosen, selects, outside, fun record member fresh same => ?_⟩
  have taken : identity record ∈ (held ++ chosen).map identity := by
    by_contra free
    exact stale record member ⟨free, same ▸ absent⟩
  rw [List.map_append, List.mem_append] at taken
  exact taken.resolve_left fresh.1

theorem not_mem_contents_of_taken {meaning : κ} {merged : Merged α}
    (taken : ∀ record ∈ records, content record = meaning →
      identity record ∈ merged.kept.map identity)
    (absent : meaning ∉ merged.kept.map content) :
    meaning ∉ (records.foldl (add identity content) merged).kept.map content := by
  induction records generalizing merged with
  | nil => exact absent
  | cons record records induction =>
      obtain ⟨first, rest⟩ := List.forall_mem_cons.mp taken
      refine induction (fun other member same => ?_) ?_
      · exact ((kept_initial merged [record]).map identity).subset (rest other member same)
      · by_cases fresh : Fresh identity content merged.kept record
        · rw [add_of_fresh fresh, List.map_append, List.mem_append, not_or, List.map_singleton,
            List.mem_singleton]
          exact ⟨absent, fun same => fresh.1 (first same.symm)⟩
        · rwa [kept_add_of_not_fresh fresh]

theorem exists_order_avoiding (fresh : Fresh identity content held record)
    (avoidable : Avoidable identity content held added (content record)) :
    ∃ order, order.Perm added ∧
      content record ∉ (after identity content held order).kept.map content := by
  obtain ⟨chosen, selects, absent, taken⟩ := avoidable
  have perm : (chosen ++ added.diff chosen).Perm added := by
    refine List.subperm_append_diff_self_of_count_le fun other member => ?_
    rw [List.count_eq_one_of_mem (selects.contents_nodup.of_map content) member]
    exact List.count_pos_iff.mpr (selects.fresh other member).1
  refine ⟨_, perm, ?_⟩
  rw [after, List.foldl_append, ← after, after_selects selects]
  refine not_mem_contents_of_taken (fun other member same => ?_) ?_
  · rw [List.map_append, List.mem_append]
    by_cases otherFresh : Fresh identity content held other
    · exact .inr (taken other (perm.subset (List.mem_append_right _ member)) otherFresh same)
    · refine .inl (Classical.byContradiction fun free => otherFresh ⟨free, ?_⟩)
      rw [same]
      exact fresh.2
  · rw [List.map_append, List.mem_append, not_or]
    exact ⟨fresh.2, absent⟩

theorem exists_order_keeping (member : record ∈ added)
    (fresh : Fresh identity content held record) :
    ∃ order, order.Perm added ∧
      content record ∈ (after identity content held order).kept.map content := by
  refine ⟨record :: added.erase record, (List.perm_cons_erase member).symm, ?_⟩
  have first : (⟨held, []⟩ : Merged α).add identity content record = ⟨held ++ [record], []⟩ :=
    add_of_fresh fresh
  rw [after, List.foldl_cons, first]
  refine ((kept_initial _ (added.erase record)).map content).subset ?_
  exact List.mem_map_of_mem (by simp)

theorem contents_subset_of_perm (perm : order.Perm added)
    (unavoidable : ∀ record ∈ added, Fresh identity content held record →
      ¬ Avoidable identity content held added (content record)) {meaning : κ}
    (member : meaning ∈ (after identity content held order).kept.map content) :
    meaning ∈ (after identity content held added).kept.map content := by
  obtain ⟨chosen, kept, selects, _⟩ := @exists_chosen _ _ _ _ _ _ identity content held order
  rw [kept, List.map_append, List.mem_append] at member
  rcases member with old | new
  · exact ((kept_initial ⟨held, []⟩ added).map content).subset old
  · obtain ⟨record, isChosen, rfl⟩ := List.mem_map.mp new
    obtain ⟨inOrder, fresh⟩ := selects.fresh record isChosen
    have inAdded := perm.mem_iff.mp inOrder
    exact mem_contents_of_not_avoidable (unavoidable record inAdded fresh)

/-- The contents that are kept are the same for every order exactly when none can be avoided. -/
theorem contents_independent_iff :
    (∀ order, order.Perm added → ∀ meaning,
        meaning ∈ (after identity content held order).kept.map content ↔
          meaning ∈ (after identity content held added).kept.map content) ↔
      ∀ record ∈ added, Fresh identity content held record →
        ¬ Avoidable identity content held added (content record) := by
  constructor
  · intro same record member fresh avoidable
    obtain ⟨avoiding, avoids, absent⟩ := exists_order_avoiding fresh avoidable
    obtain ⟨keeping, keeps, present⟩ := exists_order_keeping member fresh
    exact absent ((same avoiding avoids _).mpr ((same keeping keeps _).mp present))
  · intro unavoidable order perm meaning
    refine ⟨contents_subset_of_perm perm unavoidable, contents_subset_of_perm perm.symm ?_⟩
    intro record member fresh avoidable
    exact unavoidable record (perm.mem_iff.mp member) fresh (avoidable.of_perm perm)

/-! ## Orders without conflicts -/

variable (identity content) in
/-- The records have one identity or one content. -/
def Shares (left right : α) : Prop := identity left = identity right ∨ content left = content right

instance (left right : α) : Decidable (Shares identity content left right) :=
  inferInstanceAs (Decidable (_ ∨ _))

variable (identity content) in
/-- The first chosen record that shares an identity or a content with the record shares its
content. -/
def Leads (chosen : List α) (record : α) : Prop :=
  ∃ leader, chosen.find? (fun other => Shares identity content other record) = some leader ∧
    content leader = content record

variable (identity content) in
/-- Nothing that is added conflicts with what is held, and a selection leads every fresh record to
its content. -/
structure Quiet (held added : List α) : Prop where
  /-- Nothing conflicts with what is held. -/
  agrees : ∀ record ∈ added, Agrees identity held record
  /-- Some selection leads every fresh record to its content. -/
  led : ∃ chosen, Selects identity content held added chosen ∧
    ∀ record ∈ added, Fresh identity content held record → Leads identity content chosen record

omit [DecidableEq α] in
/-- A record is led to its content when something chosen shares its identity or content, and what
shares its identity shares its content. -/
theorem leads_of_shared (shared : ∃ other ∈ chosen, Shares identity content other record)
    (agrees : ∀ other ∈ chosen, identity other = identity record → content other = content record) :
    Leads identity content chosen record := by
  obtain ⟨other, member, shares⟩ := shared
  have some : (chosen.find? fun other => Shares identity content other record).isSome :=
    List.find?_isSome.mpr ⟨other, member, decide_eq_true shares⟩
  obtain ⟨leader, found⟩ := Option.isSome_iff_exists.mp some
  refine ⟨leader, found, ?_⟩
  have sharing : Shares identity content leader record := by simpa using List.find?_some found
  exact sharing.elim (agrees leader (List.mem_of_find?_eq_some found)) id

omit [DecidableEq α] in
theorem Leads.content_eq {leader : α} (leads : Leads identity content (leader :: chosen) record)
    (shares : Shares identity content leader record) : content leader = content record := by
  obtain ⟨found, isFound, same⟩ := leads
  rw [List.find?_cons_of_pos (by simpa using shares)] at isFound
  rwa [Option.some.inj isFound]

omit [DecidableEq α] in
theorem Leads.tail {leader : α} (leads : Leads identity content (leader :: chosen) record)
    (apart : ¬ Shares identity content leader record) : Leads identity content chosen record := by
  obtain ⟨found, isFound, same⟩ := leads
  rw [List.find?_cons_of_neg (by simpa using apart)] at isFound
  exact ⟨found, isFound, same⟩

omit [DecidableEq α] in
theorem Leads.append (leads : Leads identity content chosen record) (more : List α) :
    Leads identity content (chosen ++ more) record := by
  obtain ⟨leader, found, same⟩ := leads
  exact ⟨leader, by rw [List.find?_append, found, Option.some_or], same⟩

/-- A run without conflicts is led by what it keeps. -/
theorem quiet_of_clear (unique : (held.map identity).Nodup)
    (clear : (after identity content held records).conflicts = []) :
    ∃ chosen, (after identity content held records).kept = held ++ chosen ∧
      Selects identity content held records chosen ∧
      (∀ record ∈ records, Agrees identity held record) ∧
      ∀ record ∈ records, Fresh identity content held record →
        Leads identity content chosen record := by
  induction records using List.reverseRecOn with
  | nil => exact ⟨[], by simp [after], ⟨by simp, List.nodup_nil, List.nodup_nil⟩, by simp, by simp⟩
  | append_singleton records record induction =>
      rw [after, List.foldl_concat, ← after] at clear ⊢
      obtain ⟨clearBefore, agrees⟩ := 
        (conflicts_add_eq_nil_iff (identities_nodup_after unique records)).mp clear
      obtain ⟨chosen, kept, selects, agreesBefore, leadsBefore⟩ := induction clearBefore
      rw [kept] at agrees
      have own : Agrees identity held record := fun existing member =>
        agrees existing (List.mem_append_left _ member)
      have agreesAll : ∀ other ∈ records ++ [record], Agrees identity held other :=
        List.forall_mem_append.mpr ⟨agreesBefore, List.forall_mem_singleton.mpr own⟩
      have sameContent : ∀ other ∈ chosen, identity other = identity record →
          content other = content record := fun other member shared => by
        rw [agrees other (List.mem_append_right _ member) shared]
      by_cases fresh : Fresh identity content (held ++ chosen) record
      · refine ⟨chosen ++ [record], ?_, selects.concat fresh, agreesAll,
          List.forall_mem_append.mpr ⟨fun other member isFresh =>
            (leadsBefore other member isFresh).append [record], ?_⟩⟩
        · rw [add_of_fresh (kept.symm ▸ fresh), kept, List.append_assoc]
        · refine List.forall_mem_singleton.mpr fun _ =>
            leads_of_shared ⟨record, by simp, .inl rfl⟩ ?_
          refine List.forall_mem_append.mpr ⟨sameContent, ?_⟩
          exact List.forall_mem_singleton.mpr fun _ => rfl
      · refine ⟨chosen, ?_, selects.mono fun other => List.mem_append_left _, agreesAll,
          List.forall_mem_append.mpr ⟨leadsBefore, ?_⟩⟩
        · rw [kept_add_of_not_fresh (kept.symm ▸ fresh), kept]
        · refine List.forall_mem_singleton.mpr fun isFresh => leads_of_shared ?_ sameContent
          simp only [Fresh, List.map_append, List.mem_append, not_or] at fresh isFresh
          by_contra none
          push Not at none
          refine fresh ⟨⟨isFresh.1, fun inside => ?_⟩, isFresh.2, fun inside => ?_⟩
          · obtain ⟨other, member, same⟩ := List.mem_map.mp inside
            exact none other member (.inl same)
          · obtain ⟨other, member, same⟩ := List.mem_map.mp inside
            exact none other member (.inr same)

theorem foldl_of_agrees (stale : ∀ record ∈ records, ¬ Fresh identity content merged.kept record)
    (agrees : ∀ record ∈ records, Agrees identity merged.kept record) :
    records.foldl (add identity content) merged = merged := by
  induction records with
  | nil => rfl
  | cons record records induction =>
      obtain ⟨first, rest⟩ := List.forall_mem_cons.mp stale
      obtain ⟨firstAgrees, restAgrees⟩ := List.forall_mem_cons.mp agrees
      rw [List.foldl_cons, add_of_agrees first firstAgrees, induction rest restAgrees]

omit [DecidableEq α] [DecidableEq ι] [DecidableEq κ] in
theorem Fresh.concat {leader : α} (fresh : Fresh identity content held record)
    (apart : ¬ Shares identity content leader record) :
    Fresh identity content (held ++ [leader]) record := by
  simp only [Fresh, List.map_append, List.mem_append, List.map_singleton, List.mem_singleton,
    not_or]
  obtain ⟨otherId, otherContent⟩ := not_or.mp apart
  exact ⟨⟨fresh.1, Ne.symm otherId⟩, fresh.2, Ne.symm otherContent⟩

omit [DecidableEq α] in
theorem Selects.tail {leader : α}
    (selects : Selects identity content held added (leader :: chosen)) :
    Selects identity content (held ++ [leader])
      (added.filter fun record => !decide (Shares identity content leader record)) chosen := by
  have ids := List.nodup_cons.mp selects.identities_nodup
  have contents := List.nodup_cons.mp selects.contents_nodup
  refine ⟨fun record member => ?_, ids.2, contents.2⟩
  obtain ⟨inside, fresh⟩ := selects.fresh record (List.mem_cons_of_mem _ member)
  have apart : ¬ Shares identity content leader record := by
    rintro (same | same)
    · exact ids.1 (same ▸ List.mem_map_of_mem member)
    · exact contents.1 (same ▸ List.mem_map_of_mem member)
  exact ⟨List.mem_filter.mpr ⟨inside, by simpa using apart⟩, fresh.concat apart⟩

section Determined

variable (determined : ∀ left right : α, identity left = identity right →
  content left = content right → left = right)

include determined

/-- Records that are fresh and led by a selection are merged without conflicts in some order: each
chosen record, followed by the records that it leads. -/
theorem exists_order_of_led (merged : Merged α)
    (selects : Selects identity content merged.kept added chosen)
    (fresh : ∀ record ∈ added, Fresh identity content merged.kept record)
    (led : ∀ record ∈ added, Leads identity content chosen record) :
    ∃ order : List α, order.Perm added ∧
      (order.foldl (add identity content) merged).conflicts = merged.conflicts := by
  induction chosen generalizing merged added with
  | nil =>
      have empty : added = [] := List.eq_nil_iff_forall_not_mem.mpr fun record member => by
        obtain ⟨leader, found, _⟩ := led record member
        contradiction
      exact ⟨[], by rw [empty], rfl⟩
  | cons leader chosen induction =>
      let shares (record : α) : Bool := Shares identity content leader record
      let next : Merged α := { merged with kept := merged.kept ++ [leader] }
      obtain ⟨isAdded, leaderFresh⟩ := selects.fresh leader List.mem_cons_self
      have inGroup : leader ∈ added.filter shares :=
        List.mem_filter.mpr ⟨isAdded, decide_eq_true (.inl rfl)⟩
      have group : ∀ record ∈ (added.filter shares).erase leader,
          record ∈ added ∧ content leader = content record := by
        intro record member
        obtain ⟨inside, sharing⟩ := List.mem_filter.mp (List.mem_of_mem_erase member)
        exact ⟨inside, (led record inside).content_eq (of_decide_eq_true sharing)⟩
      have ends :
          ((added.filter shares).erase leader).foldl (add identity content) next = next := by
        refine foldl_of_agrees (fun record member isFresh => isFresh.2 ?_) ?_
        · rw [List.map_append, ← (group record member).2]
          exact List.mem_append_right _ List.mem_cons_self
        · intro record member existing inside same
          obtain ⟨inAdded, sameContent⟩ := group record member
          rcases List.mem_append.mp inside with old | new
          · exact absurd (List.mem_map.mpr ⟨existing, old, same⟩) (fresh record inAdded).1
          · obtain rfl := List.mem_singleton.mp new
            exact determined _ _ same sameContent
      have apart : ∀ record ∈ added.filter fun record => !shares record,
          record ∈ added ∧ ¬ Shares identity content leader record := by
        intro record member
        obtain ⟨inside, separate⟩ := List.mem_filter.mp member
        exact ⟨inside, by simpa [shares] using separate⟩
      obtain ⟨order, perm, clear⟩ := induction next selects.tail
        (fun record member => (fresh record (apart record member).1).concat (apart record member).2)
        (fun record member => (led record (apart record member).1).tail (apart record member).2)
      refine ⟨(leader :: (added.filter shares).erase leader) ++ order, ?_, ?_⟩
      · exact ((List.perm_cons_erase inGroup).symm.append perm).trans
          (List.filter_append_perm shares added)
      · rw [List.foldl_append, List.foldl_cons, add_of_fresh leaderFresh, ends, clear]

/-- Some order has no conflicts exactly when nothing conflicts with what is held and a selection
leads every fresh record to its content. -/
theorem exists_clear_iff (unique : (held.map identity).Nodup) :
    (∃ order, order.Perm added ∧ (after identity content held order).conflicts = []) ↔
      Quiet identity content held added := by
  constructor
  · rintro ⟨order, perm, clear⟩
    obtain ⟨chosen, _, selects, agrees, leads⟩ := quiet_of_clear unique clear
    exact ⟨fun record member => agrees record (perm.mem_iff.mpr member), chosen,
      selects.mono fun record => perm.mem_iff.mp,
      fun record member => leads record (perm.mem_iff.mpr member)⟩
  · rintro ⟨agrees, chosen, selects, leads⟩
    let isFresh (record : α) : Bool := Fresh identity content held record
    have inFresh : ∀ record ∈ added.filter isFresh,
        record ∈ added ∧ Fresh identity content held record := by
      intro record member
      obtain ⟨inside, fresh⟩ := List.mem_filter.mp member
      exact ⟨inside, of_decide_eq_true fresh⟩
    have selectsFresh : Selects identity content held (added.filter isFresh) chosen :=
      ⟨fun record member => ⟨List.mem_filter.mpr ⟨(selects.fresh record member).1,
        decide_eq_true (selects.fresh record member).2⟩, (selects.fresh record member).2⟩,
        selects.identities_nodup, selects.contents_nodup⟩
    obtain ⟨order, perm, clear⟩ := exists_order_of_led determined ⟨held, []⟩ selectsFresh
      (fun record member => (inFresh record member).2)
      (fun record member => leads record (inFresh record member).1 (inFresh record member).2)
    have first : (added.filter fun record => !isFresh record).foldl (add identity content)
        ⟨held, []⟩ = ⟨held, []⟩ := by
      refine foldl_of_agrees (fun record member fresh => ?_) fun record member =>
        agrees record (List.mem_of_mem_filter member)
      have stale := (List.mem_filter.mp member).2
      simp only [isFresh, Bool.not_eq_true', decide_eq_false_iff_not] at stale
      exact stale fresh
    refine ⟨(added.filter fun record => !isFresh record) ++ order, ?_, ?_⟩
    · exact (List.Perm.append_left _ perm).trans
        (List.perm_append_comm.trans (List.filter_append_perm isFresh added))
    · rw [after, List.foldl_append, first, clear]

end Determined

/-! ## Records of distinct identities -/

variable (content) in
/-- The records that are the first of their content. -/
def firstOf : List α → List α
  | [] => []
  | record :: records =>
      record :: (firstOf records).filter fun other => content other ≠ content record

omit [DecidableEq α] in
theorem firstOf_sublist (records : List α) : (firstOf content records).Sublist records := by
  induction records with
  | nil => exact .slnil
  | cons record records induction =>
      exact (List.filter_sublist.trans induction).cons_cons record

/-- Records of distinct, new identities are kept when they are the first of a new content. -/
theorem foldl_of_nodup (unique : (records.map identity).Nodup)
    (apart : ∀ record ∈ records, identity record ∉ merged.kept.map identity) :
    records.foldl (add identity content) merged = { merged with
      kept := merged.kept ++ (firstOf content records).filter fun record =>
        content record ∉ merged.kept.map content } := by
  induction records generalizing merged with
  | nil => simp [firstOf]
  | cons record records induction =>
      obtain ⟨other, rest⟩ := List.nodup_cons.mp unique
      obtain ⟨free, restApart⟩ := List.forall_mem_cons.mp apart
      rw [List.foldl_cons]
      by_cases new : content record ∈ merged.kept.map content
      · have stale : ¬ Fresh identity content merged.kept record := fun fresh => fresh.2 new
        have agrees : Agrees identity merged.kept record := fun existing member same =>
          absurd (List.mem_map.mpr ⟨existing, member, same⟩) free
        rw [add_of_agrees stale agrees, induction rest restApart, firstOf,
          List.filter_cons_of_neg (by simpa using new), List.filter_filter]
        congr 2
        refine List.filter_congr fun later _ => ?_
        by_cases same : content later = content record
        · simp [same, new]
        · simp [same]
      · have fresh : Fresh identity content merged.kept record := ⟨free, new⟩
        rw [add_of_fresh fresh, induction rest, firstOf,
          List.filter_cons_of_pos (by simpa using new), List.filter_filter]
        · simp only [List.append_assoc, List.singleton_append, List.map_append, List.map_singleton,
            List.mem_append, List.mem_singleton]
          congr 3
          refine List.filter_congr fun later _ => ?_
          simp [Bool.and_comm]
        · intro later member
          rw [List.map_append, List.mem_append, not_or]
          refine ⟨restApart later member, fun same => other ?_⟩
          rw [List.map_singleton, List.mem_singleton] at same
          exact same ▸ List.mem_map_of_mem member

/-- Merging records of distinct identities keeps the first of each content. -/
theorem all_of_nodup (unique : (records.map identity).Nodup) :
    all identity content records = ⟨firstOf content records, []⟩ := by
  rw [all, foldl_of_nodup unique (by simp [empty])]
  simp [empty]

theorem all_append_of_nodup (unique : (held.map identity).Nodup) (added : List α) :
    all identity content (held ++ added) =
      after identity content (firstOf content held) added := by
  rw [all, List.foldl_append, ← all, all_of_nodup unique, after]

end Merged
end Foundation
