import Mathlib.Data.List.Induction
import Mathlib.Data.List.Nodup
import Mathlib.Data.String.Basic
import ChainView.Json.Value

/-!
# Sorted keys

Inserting a member keeps members whose keys increase in that order, and into such members the member
with the greatest key goes last.  So members that are in order already are left as they are, and
sorting the keys of a value a second time changes nothing (`Value.sortKeys_sortKeys`).
-/

namespace ChainView.Json

variable {key : String} {v : Value} {members : List (String × Value)}

/-! ## Members -/

/-- After an insertion there is the member inserted and no other new one. -/
lemma mem_of_mem_insertMember {m : String × Value} (h : m ∈ insertMember key v members) :
    m = (key, v) ∨ m ∈ members := by
  induction members with
  | nil => exact .inl (List.mem_singleton.mp h)
  | cons head rest ih =>
    obtain ⟨k, w⟩ := head
    unfold insertMember at h
    split_ifs at h with hlt heq
    · exact List.mem_cons.mp h
    · exact (List.mem_cons.mp h).imp_right (List.mem_cons_of_mem _)
    · rcases List.mem_cons.mp h with rfl | hrest
      · exact .inr List.mem_cons_self
      · exact (ih hrest).imp_right (List.mem_cons_of_mem _)

/-- An insertion keeps the keys increasing. -/
lemma keysIncrease_insertMember (h : KeysIncrease members) :
    KeysIncrease (insertMember key v members) := by
  induction members with
  | nil => exact List.pairwise_singleton _ _
  | cons head rest ih =>
    obtain ⟨k, w⟩ := head
    obtain ⟨hhead, hrest⟩ := List.pairwise_cons.mp h
    unfold insertMember
    split_ifs with hlt heq
    · refine List.pairwise_cons.mpr ⟨?_, h⟩
      intro m hm
      rcases List.mem_cons.mp hm with rfl | hm
      · exact hlt
      · exact lt_trans hlt (hhead m hm)
    · exact List.pairwise_cons.mpr ⟨heq ▸ hhead, hrest⟩
    · refine List.pairwise_cons.mpr ⟨?_, ih hrest⟩
      intro m hm
      rcases mem_of_mem_insertMember hm with rfl | hm
      · exact lt_of_le_of_ne (not_lt.mp hlt) (Ne.symm heq)
      · exact hhead m hm

/-- A member whose key is greater than all others goes last. -/
lemma insertMember_of_forall_lt (h : ∀ m ∈ members, m.1 < key) :
    insertMember key v members = members ++ [(key, v)] := by
  induction members with
  | nil => rfl
  | cons head rest ih =>
    obtain ⟨k, w⟩ := head
    have hk : k < key := h (k, w) List.mem_cons_self
    rw [insertMember, if_neg hk.asymm, if_neg hk.ne',
      ih fun m hm => h m (List.mem_cons_of_mem _ hm), List.cons_append]

/-- Ordering keeps a property that all members have. -/
lemma forall_mem_orderMembers {P : String × Value → Prop} (h : ∀ m ∈ members, P m) :
    ∀ m ∈ orderMembers members, P m := by
  unfold orderMembers
  suffices ∀ sorted : List (String × Value), (∀ m ∈ sorted, P m) →
      ∀ m ∈ members.foldl (fun sorted m => insertMember m.1 m.2 sorted) sorted, P m from
    this [] fun m hm => absurd hm List.not_mem_nil
  induction members with
  | nil => exact fun sorted hsorted => hsorted
  | cons head rest ih =>
    intro sorted hsorted
    refine ih (fun m hm => h m (List.mem_cons_of_mem _ hm)) _ ?_
    intro m hm
    rcases mem_of_mem_insertMember hm with rfl | hm
    · exact h _ List.mem_cons_self
    · exact hsorted m hm

/-- Ordered members have increasing keys. -/
lemma keysIncrease_orderMembers (members : List (String × Value)) :
    KeysIncrease (orderMembers members) := by
  unfold orderMembers
  suffices ∀ sorted : List (String × Value), KeysIncrease sorted →
      KeysIncrease (members.foldl (fun sorted m => insertMember m.1 m.2 sorted) sorted) from
    this [] List.Pairwise.nil
  induction members with
  | nil => exact fun sorted hsorted => hsorted
  | cons head rest ih => exact fun sorted hsorted => ih _ (keysIncrease_insertMember hsorted)

/-- Of members that are brought in order the last one is found under its key. -/
lemma lookup_orderMembers_append_singleton (members : List (String × Value)) (key : String)
    (v : Value) : (orderMembers (members ++ [(key, v)])).lookup key = some v := by
  rw [orderMembers, List.foldl_append]
  exact lookup_insertMember_self key v _

/-- Of members that are brought in order the last one of a key is found under it. -/
lemma lookup_orderMembers (members : List (String × Value)) (key : String) :
    (orderMembers members).lookup key = members.reverse.lookup key := by
  induction members using List.reverseRecOn with
  | nil => rfl
  | append_singleton members m ih =>
    obtain ⟨k, v⟩ := m
    rw [List.reverse_append, List.reverse_singleton, List.singleton_append, List.lookup_cons]
    by_cases h : key = k
    · rw [h, lookup_orderMembers_append_singleton, beq_self_eq_true]
    · rw [beq_false_of_ne h, ← ih, orderMembers, List.foldl_append]
      exact lookup_insertMember_of_ne h v _

/-- A member with a new key is put among the others. -/
lemma insertMember_perm (h : ∀ m ∈ members, m.1 ≠ key) :
    (insertMember key v members).Perm ((key, v) :: members) := by
  induction members with
  | nil => exact .refl _
  | cons head rest ih =>
    obtain ⟨k, w⟩ := head
    have hk : k ≠ key := h (k, w) List.mem_cons_self
    unfold insertMember
    split_ifs with hlt heq
    · exact .refl _
    · exact absurd heq.symm hk
    · exact ((ih fun m hm => h m (List.mem_cons_of_mem _ hm)).cons (k, w)).trans (.swap ..)

/-- Members with different keys are only brought into another order. -/
lemma orderMembers_perm (h : (members.map Prod.fst).Nodup) :
    (orderMembers members).Perm members := by
  induction members using List.reverseRecOn with
  | nil => exact .refl _
  | append_singleton members m ih =>
    rw [List.map_append, List.map_singleton, List.nodup_append_comm, List.singleton_append,
      List.nodup_cons] at h
    obtain ⟨hnew, hnodup⟩ := h
    have hbefore := ih hnodup
    have hkeys : ∀ o ∈ orderMembers members, o.1 ≠ m.1 := by
      intro o ho heq
      exact hnew (heq ▸ List.mem_map_of_mem (hbefore.mem_iff.mp ho))
    rw [orderMembers, List.foldl_append]
    exact ((insertMember_perm hkeys).trans (hbefore.cons m)).trans
      (List.perm_append_singleton m members).symm

/-- Members with increasing keys are in order. -/
lemma orderMembers_of_keysIncrease (h : KeysIncrease members) : orderMembers members = members := by
  unfold orderMembers
  -- what is sorted already is in front of what is still to be inserted
  suffices ∀ sorted : List (String × Value), KeysIncrease (sorted ++ members) →
      members.foldl (fun sorted m => insertMember m.1 m.2 sorted) sorted = sorted ++ members from
    this [] h
  clear h
  induction members with
  | nil => exact fun sorted _ => (List.append_nil sorted).symm
  | cons head rest ih =>
    intro sorted hsorted
    have hlast : ∀ m ∈ sorted, m.1 < head.1 := fun m hm =>
      (List.pairwise_append.mp hsorted).2.2 m hm head List.mem_cons_self
    rw [List.append_cons] at hsorted
    rw [List.foldl_cons, insertMember_of_forall_lt hlast, ih _ hsorted, ← List.append_cons]

/-! ## Values -/

/-- Sorting the items of a list sorts each of them. -/
lemma sortItems_eq_map (items : List Value) : sortItems items = items.map Value.sortKeys := by
  induction items with
  | nil => rfl
  | cons v rest ih => rw [sortItems, ih, List.map_cons]

/-- Sorting the values of members sorts the value of each of them. -/
lemma sortValues_eq_map (members : List (String × Value)) :
    sortValues members = members.map fun m => (m.1, m.2.sortKeys) := by
  induction members with
  | nil => rfl
  | cons m rest ih => rw [sortValues, ih, List.map_cons]

/-- If all members of a key have one value and there is such a member, the value is found under the
key, with its own keys sorted, once the members are in order. -/
lemma lookup_sorted_of_mem (hmem : (key, v) ∈ members)
    (hunique : ∀ w, (key, w) ∈ members → w = v) :
    (orderMembers (sortValues members)).lookup key = some v.sortKeys := by
  rw [lookup_orderMembers, sortValues_eq_map]
  cases hfound : (members.map fun m => (m.1, m.2.sortKeys)).reverse.lookup key with
  | none =>
    have hne := List.lookup_eq_none_iff.mp hfound (key, v.sortKeys)
      (List.mem_reverse.mpr (List.mem_map_of_mem hmem))
    simp at hne
  | some found =>
    obtain ⟨before, behind, hsplit, -⟩ := List.lookup_eq_some_iff.mp hfound
    have hin : (key, found) ∈ (members.map fun m => (m.1, m.2.sortKeys)).reverse := by
      rw [hsplit]
      exact List.mem_append_right _ List.mem_cons_self
    obtain ⟨⟨k, w⟩, hw, hkw⟩ := List.mem_map.mp (List.mem_reverse.mp hin)
    obtain ⟨rfl, rfl⟩ := Prod.mk.inj hkw
    rw [hunique w hw]

/-- Where no member has a key nothing is found under it, once the members are in order. -/
lemma lookup_sorted_of_forall_not_mem (h : ∀ w, (key, w) ∉ members) :
    (orderMembers (sortValues members)).lookup key = none := by
  rw [lookup_orderMembers, sortValues_eq_map, List.lookup_eq_none_iff]
  intro m hm
  obtain ⟨⟨k, w⟩, hw, rfl⟩ := List.mem_map.mp (List.mem_reverse.mp hm)
  refine bne_iff_ne.mpr ?_
  rintro rfl
  exact h w hw

/-- Null is the only value that becomes null. -/
@[simp] lemma Value.sortKeys_eq_null_iff : v.sortKeys = .null ↔ v = .null := by
  cases v <;> simp [Value.sortKeys]

/-- Members whose values are sorted are left as they are by sorting the values. -/
lemma sortValues_of_forall (h : ∀ m ∈ members, m.2.sortKeys = m.2) :
    sortValues members = members := by
  rw [sortValues_eq_map]
  conv_rhs => rw [← List.map_id members]
  exact List.map_congr_left fun m hm => Prod.ext rfl (h m hm)

mutual

/-- The keys of a value are sorted once and for all. -/
theorem Value.sortKeys_sortKeys : (v : Value) → v.sortKeys.sortKeys = v.sortKeys
  | .array items => by
    rw [Value.sortKeys, Value.sortKeys, sortItems_eq_map (sortItems items)]
    congr 1
    conv_rhs => rw [← List.map_id (sortItems items)]
    exact List.map_congr_left (sortKeys_of_mem_sortItems items)
  | .object members => by
    have hvalues : ∀ m ∈ orderMembers (sortValues members), m.2.sortKeys = m.2 :=
      forall_mem_orderMembers (sortKeys_of_mem_sortValues members)
    rw [Value.sortKeys, Value.sortKeys, sortValues_of_forall hvalues,
      orderMembers_of_keysIncrease (keysIncrease_orderMembers _)]
  | .null => rfl
  | .bool _ => rfl
  | .integer _ => rfl
  | .float _ => rfl
  | .string _ => rfl

/-- The sorted items of a list are left as they are. -/
theorem sortKeys_of_mem_sortItems :
    (items : List Value) → ∀ v ∈ sortItems items, v.sortKeys = v
  | [], _, hv => absurd hv List.not_mem_nil
  | w :: rest, v, hv => by
    rcases List.mem_cons.mp hv with rfl | hv
    · exact w.sortKeys_sortKeys
    · exact sortKeys_of_mem_sortItems rest v hv

/-- The sorted values of members are left as they are. -/
theorem sortKeys_of_mem_sortValues :
    (members : List (String × Value)) → ∀ m ∈ sortValues members, m.2.sortKeys = m.2
  | [], _, hm => absurd hm List.not_mem_nil
  | (_, w) :: rest, m, hm => by
    rcases List.mem_cons.mp hm with rfl | hm
    · exact w.sortKeys_sortKeys
    · exact sortKeys_of_mem_sortValues rest m hm

end

end ChainView.Json
