import Mathlib.Logic.Relation
import ChainView.Proofs.Chain.History

/-!
# Ancestry by parent links and by heights

A header names its parent by an id, so ancestry in a history of headers is reachability along the
parent ids that the headers of the history name.  A window never follows such an id: it compares two
heights.  This file proves that both decide the same, for the blocks that the window keeps, if the
history is *rooted*: its headers have ids of their own, and the parent of the first one is none of
them.  Then every header but the first has exactly one parent in the history, the one below it, and
the blocks that are reached from a header are those below it and the root.  What a window forgets
makes no difference, since a height does not change with the window.
-/

namespace ChainView

/-- A header of the history with the id `child` names `parent` as its parent. -/
def ParentIn (history : List Header) (child parent : Digest) : Prop :=
  ∃ h ∈ history, h.id = child ∧ h.parent = parent

/-- A block is a strict ancestor of another if it is reached from it by one parent link or more. -/
def StrictAncestor (history : List Header) (ancestor descendant : Digest) : Prop :=
  Relation.TransGen (ParentIn history) descendant ancestor

/-- A block is an ancestor of another, or that block, if it is reached from it by parent links. -/
def AncestorOrEqual (history : List Header) (ancestor descendant : Digest) : Prop :=
  Relation.ReflTransGen (ParentIn history) descendant ancestor

/-- A history is rooted if no two of its headers have the same id and the parent of the first one is
outside. -/
structure Rooted (history : List Header) : Prop where
  /-- The ids are pairwise distinct. -/
  nodup : (history.map Header.id).Nodup
  /-- The parent of the first header is the id of none. -/
  outside : ∀ first ∈ history.head?, ∀ h ∈ history, h.id ≠ first.parent

/-- A block is the same block or a strict ancestor. -/
lemma ancestorOrEqual_iff {history : List Header} {a d : Digest} :
    AncestorOrEqual history a d ↔ a = d ∨ StrictAncestor history a d :=
  Relation.reflTransGen_iff_eq_or_transGen

namespace Rooted

variable {history : List Header}

/-- An id names one header of a rooted history at most. -/
lemma eq_of_id_eq (hr : Rooted history) {a b : Header} (ha : a ∈ history) (hb : b ∈ history)
    (hid : a.id = b.id) : a = b :=
  List.inj_on_of_nodup_map hr.nodup ha hb hid

/-- The header that another one names as its parent is the one that stands below it: the first
header names none of the history, and every other one names the header before it. -/
lemma extends?_of_parent_eq (hr : Rooted history) (hl : Linked history) {parent child : Header}
    (hparent : parent ∈ history) (hchild : child ∈ history) (hid : child.parent = parent.id) :
    child.extends? parent = true := by
  obtain ⟨i, hi, rfl⟩ := List.mem_iff_getElem.mp hchild
  cases i with
  | zero =>
    have hfirst : history[0] ∈ history.head? := by
      rw [List.head?_eq_getElem?]
      exact List.getElem?_eq_getElem hi
    exact absurd hid.symm (hr.outside _ hfirst parent hparent)
  | succ i =>
    have hext := List.isChain_iff_getElem.mp hl i hi
    have hbelow : history[i] ∈ history := List.getElem_mem _
    have hsame : history[i] = parent :=
      hr.eq_of_id_eq hbelow hparent ((Header.extends?_iff.mp hext).1.symm.trans hid)
    rw [← hsame]
    exact hext

/-- Whatever is reached from a header of a rooted history and is itself a header of it stands below
that header. -/
lemma index_lt_of_strictAncestor (hr : Rooted history) (hl : Linked history) {a d : Header}
    (ha : a ∈ history) (hd : d ∈ history) (had : StrictAncestor history a.id d.id) :
    a.index < d.index := by
  -- Induction on the links, from the descendant on: each of them leads one height down.
  have hall : ∀ id, StrictAncestor history id d.id →
      ∀ g ∈ history, g.id = id → g.index < d.index := by
    intro id hid
    induction hid with
    | single hlink =>
      intro g hg hgid
      obtain ⟨h, hh, hhid, hhparent⟩ := hlink
      obtain rfl : h = d := hr.eq_of_id_eq hh hd hhid
      have hext := hr.extends?_of_parent_eq hl hg hh (hhparent.trans hgid.symm)
      exact Header.index_lt_of_extends? hext
    | tail _ hlink ih =>
      intro g hg hgid
      obtain ⟨h, hh, hhid, hhparent⟩ := hlink
      have hext := hr.extends?_of_parent_eq hl hg hh (hhparent.trans hgid.symm)
      exact UInt64.lt_trans (Header.index_lt_of_extends? hext) (ih h hh hhid)
  exact hall a.id had a ha rfl

end Rooted

/-- In a linked history every lower header is reached from a higher one, one parent after the
other. -/
lemma Linked.strictAncestor_of_index_lt {history : List Header} (hl : Linked history)
    {a d : Header} (ha : a ∈ history) (hd : d ∈ history) (hlt : a.index < d.index) :
    StrictAncestor history a.id d.id := by
  have hlink : ∀ i (hi : i + 1 < history.length),
      ParentIn history history[i + 1].id history[i].id := by
    intro i hi
    have hext := List.isChain_iff_getElem.mp hl i hi
    exact ⟨history[i + 1], List.getElem_mem hi, rfl, (Header.extends?_iff.mp hext).1⟩
  -- Induction on the number of headers between the two.
  have hreach : ∀ (k i : ℕ) (hi : i + k + 1 < history.length),
      StrictAncestor history history[i].id history[i + k + 1].id := by
    intro k i
    induction k with
    | zero =>
      intro hi
      exact .single (hlink i hi)
    | succ k ih =>
      intro hi
      exact .head (hlink (i + k + 1) hi) (ih (Nat.lt_of_succ_lt hi))
  obtain ⟨i, hi, rfl⟩ := List.mem_iff_getElem.mp ha
  obtain ⟨j, hj, rfl⟩ := List.mem_iff_getElem.mp hd
  have hij : i < j := by
    have hia := hl.toNat_index_getElem hi
    have hjd := hl.toNat_index_getElem hj
    have hlt' := UInt64.lt_iff_toNat_lt.mp hlt
    omega
  obtain ⟨k, rfl⟩ := Nat.exists_eq_add_of_lt hij
  exact hreach k i hj

/-- In a linked rooted history ancestry is the order of the heights. -/
lemma Rooted.strictAncestor_iff {history : List Header} (hr : Rooted history)
    (hl : Linked history) {a d : Header} (ha : a ∈ history) (hd : d ∈ history) :
    StrictAncestor history a.id d.id ↔ a.index < d.index :=
  ⟨hr.index_lt_of_strictAncestor hl ha hd, hl.strictAncestor_of_index_lt ha hd⟩

/-- With the block itself among its ancestors, it is the order in which heights may be equal. -/
lemma Rooted.ancestorOrEqual_iff_index_le {history : List Header} (hr : Rooted history)
    (hl : Linked history) {a d : Header} (ha : a ∈ history) (hd : d ∈ history) :
    AncestorOrEqual history a.id d.id ↔ a.index ≤ d.index := by
  rw [ancestorOrEqual_iff, hr.strictAncestor_iff hl ha hd, UInt64.le_iff_lt_or_eq, or_comm]
  refine or_congr_right ⟨?_, ?_⟩
  · intro hid
    rw [hr.eq_of_id_eq ha hd hid]
  · intro hindex
    rw [hl.eq_of_index_eq ha hd hindex]

/-- One of two blocks is a strict ancestor of the other exactly if that one is not among its own
ancestors. -/
lemma Rooted.strictAncestor_iff_not_ancestorOrEqual {history : List Header} (hr : Rooted history)
    (hl : Linked history) {a d : Header} (ha : a ∈ history) (hd : d ∈ history) :
    StrictAncestor history a.id d.id ↔ ¬ AncestorOrEqual history d.id a.id := by
  rw [hr.strictAncestor_iff hl ha hd, hr.ancestorOrEqual_iff_index_le hl hd ha, UInt64.not_le]

/-- A window keeps a block if one of its headers bears the id. -/
def Window.Keeps (w : Window) (id : Digest) : Prop :=
  ∃ h ∈ w.headers, h.id = id

namespace Window.Tracks

variable {w : Window} {chain : List Header}

/-- In a window on a rooted chain an id finds the kept header that bears it. -/
lemma oldestWithId?_eq_some_iff (ht : w.Tracks chain) (hr : Rooted chain) {id : Digest}
    {h : Header} : w.oldestWithId? id = some h ↔ h ∈ w.headers ∧ h.id = id := by
  have hunique : ∀ a ∈ w.headers, ∀ b ∈ w.headers,
      decide (a.id = id) = true → decide (b.id = id) = true → a = b := by
    intro a ha b hb haid hbid
    have hab : a.id = b.id := (of_decide_eq_true haid).trans (of_decide_eq_true hbid).symm
    exact ht.eq_of_id_eq hr.nodup ha (ht.mem_of_mem_headers hb) hab
  rw [oldestWithId?, find?_eq_some_iff_of_unique hunique, decide_eq_true_eq]

/-- A window on a rooted chain answers about two kept blocks, by their heights. -/
lemma leadsTo?_eq_some_iff (ht : w.Tracks chain) (hr : Rooted chain) {a d : Digest} {b : Bool} :
    w.leadsTo? a d = some b ↔
      ∃ upper ∈ w.headers, ∃ lower ∈ w.headers,
        upper.id = d ∧ lower.id = a ∧ decide (lower.index ≤ upper.index) = b := by
  have hfind : ∀ {id h}, w.oldestWithId? id = some h ↔ h ∈ w.headers ∧ h.id = id :=
    ht.oldestWithId?_eq_some_iff hr
  constructor
  · intro h
    unfold leadsTo? at h
    split at h
    · rename_i upper lower hupper hlower
      obtain ⟨humem, huid⟩ := hfind.mp hupper
      obtain ⟨hlmem, hlid⟩ := hfind.mp hlower
      exact ⟨upper, humem, lower, hlmem, huid, hlid, Option.some.inj h⟩
    · cases h
  · rintro ⟨upper, humem, lower, hlmem, huid, hlid, rfl⟩
    simp [leadsTo?, hfind.mpr ⟨humem, huid⟩, hfind.mpr ⟨hlmem, hlid⟩]

/-- A window on a rooted chain answers about the blocks that it keeps, and the answer says whether
one is reached from the other in the whole chain. -/
lemma leadsTo?_eq_some_iff_ancestorOrEqual (ht : w.Tracks chain) (hr : Rooted chain)
    {a d : Digest} {b : Bool} :
    w.leadsTo? a d = some b ↔
      w.Keeps a ∧ w.Keeps d ∧ (b = true ↔ AncestorOrEqual chain a d) := by
  have hheights : ∀ x ∈ w.headers, ∀ y ∈ w.headers,
      (AncestorOrEqual chain x.id y.id ↔ x.index ≤ y.index) := by
    intro x hx y hy
    exact hr.ancestorOrEqual_iff_index_le ht.linked (ht.mem_of_mem_headers hx)
      (ht.mem_of_mem_headers hy)
  rw [ht.leadsTo?_eq_some_iff hr]
  constructor
  · rintro ⟨y, hy, x, hx, rfl, rfl, rfl⟩
    rw [hheights x hx y hy, decide_eq_true_eq]
    exact ⟨⟨x, hx, rfl⟩, ⟨y, hy, rfl⟩, Iff.rfl⟩
  · rintro ⟨⟨x, hx, rfl⟩, ⟨y, hy, rfl⟩, hb⟩
    refine ⟨y, hy, x, hx, rfl, rfl, ?_⟩
    rw [Bool.eq_iff_iff, hb, hheights x hx y hy, decide_eq_true_eq]

/-- A window on a rooted chain knows a block to be no ancestor of another exactly if it keeps both
and the other one is a strict ancestor of the first in the whole chain. -/
lemma leadsTo?_eq_some_false_iff_strictAncestor (ht : w.Tracks chain) (hr : Rooted chain)
    {a d : Digest} :
    w.leadsTo? a d = some false ↔ w.Keeps a ∧ w.Keeps d ∧ StrictAncestor chain d a := by
  rw [ht.leadsTo?_eq_some_iff_ancestorOrEqual hr, iff_false_left Bool.false_ne_true,
    and_congr_right_iff]
  rintro ⟨x, hx, rfl⟩
  rw [and_congr_right_iff]
  rintro ⟨y, hy, rfl⟩
  exact (hr.strictAncestor_iff_not_ancestorOrEqual ht.linked (ht.mem_of_mem_headers hy)
    (ht.mem_of_mem_headers hx)).symm

end Window.Tracks

end ChainView
