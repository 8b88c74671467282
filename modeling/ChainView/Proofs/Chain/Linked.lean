import Mathlib.Data.List.Chain
import ChainView.Chain.Window

/-!
# Linked stretches of headers

A list of headers, oldest first, is *linked* if each header but the first extends the one before
it.  The height of a header of a linked list is the height of the first one plus its position.
Heights therefore increase, no two headers of the list share one, and the distance from the first
height is the position at which a header is found.
-/

namespace ChainView

/-- Every header of the list but the first extends the one before it. -/
def Linked (hs : List Header) : Prop :=
  hs.IsChain fun parent child => child.extends? parent = true

/-- A search for a property that singles out one member of a list finds exactly that member. -/
lemma find?_eq_some_iff_of_unique {α : Type*} {p : α → Bool} {l : List α}
    (hl : ∀ a ∈ l, ∀ b ∈ l, p a = true → p b = true → a = b) {a : α} :
    l.find? p = some a ↔ a ∈ l ∧ p a = true := by
  constructor
  · intro h
    exact ⟨List.mem_of_find?_eq_some h, List.find?_some h⟩
  · rintro ⟨ha, hpa⟩
    cases hfind : l.find? p with
    | none => exact absurd hpa (List.find?_eq_none.mp hfind a ha)
    | some b =>
      have hb : b ∈ l := List.mem_of_find?_eq_some hfind
      rw [hl b hb a ha (List.find?_some hfind) hpa]

/-- A search for such a property may start at either end of the list. -/
lemma find?_reverse_of_unique {α : Type*} {p : α → Bool} {l : List α}
    (hl : ∀ a ∈ l, ∀ b ∈ l, p a = true → p b = true → a = b) :
    l.reverse.find? p = l.find? p := by
  have hrev : ∀ a ∈ l.reverse, ∀ b ∈ l.reverse, p a = true → p b = true → a = b := by
    intro a ha b hb
    exact hl a (List.mem_reverse.mp ha) b (List.mem_reverse.mp hb)
  apply Option.ext
  intro a
  rw [find?_eq_some_iff_of_unique hrev, find?_eq_some_iff_of_unique hl, List.mem_reverse]

/-- A search of an ordered list finds the first member with the property: all others come after
it. -/
lemma find?_spec_of_pairwise {α : Type*} {r : α → α → Prop} {p : α → Bool} {l : List α}
    (hl : l.Pairwise r) {a : α} (hfind : l.find? p = some a) :
    a ∈ l ∧ p a = true ∧ ∀ b ∈ l, p b = true → b = a ∨ r a b := by
  obtain ⟨hpa, front, back, rfl, hfront⟩ := List.find?_eq_some_iff_append.mp hfind
  refine ⟨by simp, hpa, ?_⟩
  intro b hb hpb
  rcases List.mem_append.mp hb with hb | hb
  · exact absurd hpb (by simpa using hfront b hb)
  · rcases List.mem_cons.mp hb with rfl | hb
    · exact .inl rfl
    · exact .inr ((List.pairwise_cons.mp (List.pairwise_append.mp hl).2.1).1 b hb)

namespace Linked

variable {hs : List Header}

/-- The empty list is linked. -/
lemma nil : Linked [] := List.isChain_nil

/-- The newest headers of a linked list are linked. -/
lemma drop (hl : Linked hs) (n : ℕ) : Linked (hs.drop n) := List.IsChain.drop hl n

/-- A header that extends the last one of a linked list may be put behind it. -/
lemma append_singleton (hl : Linked hs) {h : Header}
    (hh : ∀ last ∈ hs.getLast?, h.extends? last = true) : Linked (hs ++ [h]) := by
  refine List.IsChain.append hl (List.isChain_singleton h) ?_
  intro last hlast first hfirst
  obtain rfl : h = first := by simpa using hfirst
  exact hh last hlast

/-- Heights count the positions from the height of the first header on. -/
lemma toNat_index_getElem (hl : Linked hs) {i : ℕ} (hi : i < hs.length) :
    hs[i].index.toNat = hs[0].index.toNat + i := by
  induction i with
  | zero => rfl
  | succ i ih =>
    have hext := List.isChain_iff_getElem.mp hl i hi
    have hstep := (Header.extends?_iff.mp hext).2
    have hprev := ih (Nat.lt_of_succ_lt hi)
    omega

/-- The height of a header of a linked list determines the header. -/
lemma eq_of_index_eq (hl : Linked hs) {a b : Header} (ha : a ∈ hs) (hb : b ∈ hs)
    (hab : a.index = b.index) : a = b := by
  obtain ⟨i, hi, rfl⟩ := List.mem_iff_getElem.mp ha
  obtain ⟨j, hj, rfl⟩ := List.mem_iff_getElem.mp hb
  have hia := hl.toNat_index_getElem hi
  have hjb := hl.toNat_index_getElem hj
  have hij : i = j := by
    rw [hab] at hia
    omega
  subst hij
  rfl

/-- In a linked list the headers that stand before another are the lower ones. -/
lemma pairwise_index_lt (hl : Linked hs) : hs.Pairwise fun a b => a.index < b.index := by
  rw [List.pairwise_iff_getElem]
  intro i j hi hj hij
  have hia := hl.toNat_index_getElem hi
  have hjb := hl.toNat_index_getElem hj
  exact UInt64.lt_iff_toNat_lt.mpr (by omega)

/-- A linked list holds at most one header of a height. -/
lemma index_unique (hl : Linked hs) (index : UInt64) : ∀ a ∈ hs, ∀ b ∈ hs,
    decide (a.index = index) = true → decide (b.index = index) = true → a = b := by
  intro a ha b hb hai hbi
  have hab : a.index = b.index := (of_decide_eq_true hai).trans (of_decide_eq_true hbi).symm
  exact hl.eq_of_index_eq ha hb hab

/-- A search of a linked list for a height finds the header at that height. -/
lemma find?_index_eq_some_iff (hl : Linked hs) {index : UInt64} {h : Header} :
    (hs.find? fun g => g.index = index) = some h ↔ h ∈ hs ∧ h.index = index := by
  rw [find?_eq_some_iff_of_unique (hl.index_unique index), decide_eq_true_eq]

/-- The direction in which a linked list is searched for a height makes no difference. -/
lemma find?_index_reverse (hl : Linked hs) (index : UInt64) :
    (hs.reverse.find? fun g => g.index = index) = hs.find? fun g => g.index = index :=
  find?_reverse_of_unique (hl.index_unique index)

end Linked

/-- The digest of thirty-two equal bytes. -/
def Digest.filled (b : UInt8) : Digest where
  bytes := List.replicate 32 b
  length_bytes := List.length_replicate

/-- A header without time and commitments. -/
def Header.bare (index : UInt64) (id parent : Digest) : Header where
  index := index
  timestamp := 0
  id := id
  parent := parent
  l1Segment := .zero
  execSegment := .zero
  stateRoot := .zero

namespace Window

/-- A window takes exactly the headers that extend its newest one, by pushing them. -/
lemma append_eq_ok_iff {w next : Window} {h : Header} :
    w.append h = .ok next ↔
      (∀ newest ∈ w.newest?, h.extends? newest = true) ∧ next = w.push h := by
  unfold append
  cases w.newest? with
  | none =>
    constructor
    · rintro ⟨⟩
      exact ⟨by simp, rfl⟩
    · rintro ⟨-, rfl⟩
      rfl
  | some newest =>
    simp only [Option.mem_some_iff, forall_eq']
    split
    · rename_i hext
      constructor
      · rintro ⟨⟩
        exact ⟨hext, rfl⟩
      · rintro ⟨-, rfl⟩
        rfl
    · rename_i hext
      simp [hext]

/-- A header that a linked window takes leaves it linked. -/
lemma linked_of_append {w next : Window} {h : Header} (hl : Linked w.headers)
    (happend : w.append h = .ok next) : Linked next.headers := by
  obtain ⟨hext, rfl⟩ := append_eq_ok_iff.mp happend
  rw [headers_push]
  exact (hl.append_singleton hext).drop _

/-- In a linked window the header at a height is the kept header of that height, although it is
looked up by its distance from the oldest one. -/
lemma atHeight?_eq_some_iff {w : Window} (hl : Linked w.headers) {index : UInt64} {h : Header} :
    w.atHeight? index = some h ↔ h ∈ w.headers ∧ h.index = index := by
  unfold atHeight? oldest?
  cases hhead : w.headers.head? with
  | none =>
    have hnil : w.headers = [] := List.head?_eq_none_iff.mp hhead
    simp [hnil]
  | some oldest =>
    have hne : 0 < w.headers.length := by
      have : w.headers ≠ [] := by rintro hnil; simp [hnil] at hhead
      exact List.length_pos_iff.mpr this
    have hfirst : w.headers[0] = oldest := by
      rw [List.head?_eq_getElem?, List.getElem?_eq_some_iff] at hhead
      exact hhead.2
    have hheight : ∀ i (hi : i < w.headers.length),
        w.headers[i].index.toNat = oldest.index.toNat + i := by
      intro i hi
      rw [← hfirst]
      exact hl.toNat_index_getElem hi
    dsimp only
    constructor
    · intro hget
      split at hget
      · rename_i hle
        obtain ⟨hi, rfl⟩ := List.getElem?_eq_some_iff.mp hget
        have hle' := UInt64.le_iff_toNat_le.mp hle
        have heq := hheight _ hi
        exact ⟨List.getElem_mem hi, UInt64.toNat_inj.mp (by omega)⟩
      · cases hget
    · rintro ⟨hmem, rfl⟩
      obtain ⟨i, hi, rfl⟩ := List.mem_iff_getElem.mp hmem
      have heq := hheight i hi
      have hle : oldest.index ≤ w.headers[i].index := UInt64.le_iff_toNat_le.mpr (by omega)
      have hoff : w.headers[i].index.toNat - oldest.index.toNat = i := by omega
      rw [if_pos hle, hoff]
      exact List.getElem?_eq_getElem hi

/-- An id that a kept header bears is found. -/
lemma exists_withId? {w : Window} {h : Header} (hh : h ∈ w.headers) :
    ∃ g, w.withId? h.id = some g := by
  apply Option.isSome_iff_exists.mp
  rw [withId?, List.find?_isSome]
  exact ⟨h, List.mem_reverse.mpr hh, by simp⟩

/-- In a linked window the header with an id is the highest one of those that bear it. -/
lemma withId?_eq_some_iff {w : Window} (hl : Linked w.headers) {id : Digest} {h : Header} :
    w.withId? id = some h ↔
      h ∈ w.headers ∧ h.id = id ∧ ∀ g ∈ w.headers, g.id = id → g.index ≤ h.index := by
  have hspec : ∀ {h}, w.withId? id = some h →
      h ∈ w.headers ∧ h.id = id ∧ ∀ g ∈ w.headers, g.id = id → g.index ≤ h.index := by
    intro h hfind
    have hgt : w.headers.reverse.Pairwise fun a b => b.index < a.index :=
      List.pairwise_reverse.mpr hl.pairwise_index_lt
    obtain ⟨hmem, hid, hbelow⟩ := find?_spec_of_pairwise hgt hfind
    refine ⟨List.mem_reverse.mp hmem, of_decide_eq_true hid, ?_⟩
    intro g hg hgid
    rcases hbelow g (List.mem_reverse.mpr hg) (decide_eq_true hgid) with rfl | hlt
    · exact UInt64.le_refl _
    · exact UInt64.le_of_lt hlt
  refine ⟨hspec, ?_⟩
  rintro ⟨hmem, rfl, hhigh⟩
  obtain ⟨g, hg⟩ := exists_withId? hmem
  obtain ⟨hgmem, hgid, hghigh⟩ := hspec hg
  have hindex := UInt64.le_antisymm (hhigh g hgmem hgid) (hghigh h hmem rfl)
  rw [hg, hl.eq_of_index_eq hgmem hmem hindex]

/-- The oldest header with an id is the lowest one. -/
lemma oldestWithId?_spec {w : Window} (hl : Linked w.headers) {id : Digest} {g : Header}
    (hg : w.oldestWithId? id = some g) :
    g ∈ w.headers ∧ g.id = id ∧ ∀ h ∈ w.headers, h.id = id → g.index ≤ h.index := by
  obtain ⟨hmem, hid, habove⟩ := find?_spec_of_pairwise hl.pairwise_index_lt hg
  refine ⟨hmem, of_decide_eq_true hid, ?_⟩
  intro h hh hhid
  rcases habove h hh (decide_eq_true hhid) with rfl | hlt
  · exact UInt64.le_refl _
  · exact UInt64.le_of_lt hlt

/-- An id that some header bears is found. -/
lemma exists_oldestWithId? {w : Window} {h : Header} (hh : h ∈ w.headers) :
    ∃ g, w.oldestWithId? h.id = some g := by
  apply Option.isSome_iff_exists.mp
  rw [oldestWithId?, List.find?_isSome]
  exact ⟨h, hh, by simp⟩

/-- In a linked window the look-up by distance agrees with a search for the height. -/
lemma atHeight?_eq_find? {w : Window} (hl : Linked w.headers) (index : UInt64) :
    w.atHeight? index = w.headers.find? fun g => g.index = index := by
  apply Option.ext
  intro h
  rw [atHeight?_eq_some_iff hl, hl.find?_index_eq_some_iff]

end Window

end ChainView
