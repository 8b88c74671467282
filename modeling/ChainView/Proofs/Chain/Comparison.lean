import ChainView.Proofs.Chain.Ancestry

/-!
# The order of the kept blocks

A window that has taken in a rooted chain answers whether one block leads to another by comparing
two heights.  The answer is that of the parent links of the whole chain, so the blocks that are kept
are ordered by it, as a line.  It is also final: headers that come later push others out of the
window, after which it no longer answers, but they change no height and no link below them.
-/

namespace ChainView

/-- A chain is a beginning of what becomes of it when headers are offered to it. -/
lemma prefix_foldl_accept (chain hs : List Header) : chain <+: hs.foldl accept chain := by
  induction hs generalizing chain with
  | nil => exact List.prefix_rfl
  | cons h rest ih =>
    refine List.IsPrefix.trans ?_ (ih (accept chain h))
    cases hh : admits chain h with
    | true => exact ⟨[h], (accept_of_admits hh).symm⟩
    | false => exact ⟨[], (List.append_nil chain).trans (accept_of_not_admits hh).symm⟩

/-- What was accepted at some time is a beginning of what is accepted later. -/
lemma acceptedChain_grows {before hs : List Header} (hbegins : before <+: hs) :
    acceptedChain before <+: acceptedChain hs := by
  obtain ⟨later, rfl⟩ := hbegins
  rw [acceptedChain, acceptedChain, List.foldl_append]
  exact prefix_foldl_accept _ later

/-- A beginning of a rooted history is rooted. -/
lemma Rooted.of_prefix {before history : List Header} (hr : Rooted history)
    (hbegins : before <+: history) : Rooted before where
  nodup := hr.nodup.sublist (hbegins.sublist.map Header.id)
  outside first hfirst h hh := by
    refine hr.outside first ?_ h (hbegins.subset hh)
    obtain ⟨later, rfl⟩ := hbegins
    exact List.mem_head?_append_of_mem_head? hfirst

namespace Window

/-- The blocks that a window keeps are ordered by its answers, as a line. -/
structure OrdersKept (w : Window) : Prop where
  /-- A kept block leads to itself. -/
  refl : ∀ {a}, w.Keeps a → w.leadsTo? a a = some true
  /-- What leads to a block leads to those that the block leads to. -/
  trans : ∀ {a b c}, w.leadsTo? a b = some true → w.leadsTo? b c = some true →
    w.leadsTo? a c = some true
  /-- Blocks that lead to each other are one. -/
  antisymm : ∀ {a b}, w.leadsTo? a b = some true → w.leadsTo? b a = some true → a = b
  /-- Of two kept blocks one leads to the other. -/
  total : ∀ {a b}, w.Keeps a → w.Keeps b →
    w.leadsTo? a b = some true ∨ w.leadsTo? b a = some true

/-- No answer is given exactly if one of the two blocks is not kept. -/
lemma leadsTo?_eq_none_iff {w : Window} {a d : Digest} :
    w.leadsTo? a d = none ↔ ¬ w.Keeps a ∨ ¬ w.Keeps d := by
  have hfound : ∀ id, w.oldestWithId? id = none ↔ ¬ w.Keeps id := by
    intro id
    simp [oldestWithId?, Keeps, List.find?_eq_none]
  rw [← hfound a, ← hfound d]
  unfold leadsTo?
  cases w.oldestWithId? d with
  | none => simp
  | some upper => cases w.oldestWithId? a <;> simp

namespace Tracks

variable {w : Window} {chain : List Header}

/-- A window on a rooted chain orders the blocks that it keeps. -/
lemma ordersKept (ht : w.Tracks chain) (hr : Rooted chain) : w.OrdersKept := by
  have hyes : ∀ {a d}, w.leadsTo? a d = some true ↔
      w.Keeps a ∧ w.Keeps d ∧ AncestorOrEqual chain a d := by
    intro a d
    rw [ht.leadsTo?_eq_some_iff_ancestorOrEqual hr, iff_true_left rfl]
  refine ⟨?_, ?_, ?_, ?_⟩
  · intro a ha
    exact hyes.mpr ⟨ha, ha, .refl⟩
  · intro a b c hab hbc
    obtain ⟨ha, -, hlow⟩ := hyes.mp hab
    obtain ⟨-, hc, hhigh⟩ := hyes.mp hbc
    exact hyes.mpr ⟨ha, hc, hhigh.trans hlow⟩
  · intro a b hab hba
    obtain ⟨⟨x, hx, rfl⟩, ⟨y, hy, rfl⟩, hlow⟩ := hyes.mp hab
    obtain ⟨-, -, hhigh⟩ := hyes.mp hba
    have hxc := ht.mem_of_mem_headers hx
    have hyc := ht.mem_of_mem_headers hy
    have hindex := UInt64.le_antisymm
      ((hr.ancestorOrEqual_iff_index_le ht.linked hxc hyc).mp hlow)
      ((hr.ancestorOrEqual_iff_index_le ht.linked hyc hxc).mp hhigh)
    rw [ht.linked.eq_of_index_eq hxc hyc hindex]
  · rintro a b ⟨x, hx, rfl⟩ ⟨y, hy, rfl⟩
    have hxc := ht.mem_of_mem_headers hx
    have hyc := ht.mem_of_mem_headers hy
    rcases UInt64.le_total x.index y.index with hle | hle
    · exact .inl (hyes.mpr ⟨⟨x, hx, rfl⟩, ⟨y, hy, rfl⟩,
        (hr.ancestorOrEqual_iff_index_le ht.linked hxc hyc).mpr hle⟩)
    · exact .inr (hyes.mpr ⟨⟨y, hy, rfl⟩, ⟨x, hx, rfl⟩,
        (hr.ancestorOrEqual_iff_index_le ht.linked hyc hxc).mpr hle⟩)

/-- Two windows on beginnings of one rooted chain give no different answers, since the headers that
they compare are the same. -/
lemma leadsTo?_unanimous {history : List Header} (hr : Rooted history) {other : Window}
    {others : List Header} (ht : w.Tracks chain) (hchain : chain <+: history)
    (ho : other.Tracks others) (hothers : others <+: history) {a d : Digest} {b c : Bool}
    (hb : w.leadsTo? a d = some b) (hc : other.leadsTo? a d = some c) : b = c := by
  obtain ⟨y, hy, x, hx, hyd, hxa, rfl⟩ := (ht.leadsTo?_eq_some_iff (hr.of_prefix hchain)).mp hb
  obtain ⟨y', hy', x', hx', hyd', hxa', rfl⟩ :=
    (ho.leadsTo?_eq_some_iff (hr.of_prefix hothers)).mp hc
  have hsame : ∀ {g g'}, g ∈ w.headers → g' ∈ other.headers → g.id = g'.id → g = g' := by
    intro g g' hg hg' hid
    exact hr.eq_of_id_eq (hchain.subset (ht.mem_of_mem_headers hg))
      (hothers.subset (ho.mem_of_mem_headers hg')) hid
  rw [hsame hy hy' (hyd.trans hyd'.symm), hsame hx hx' (hxa.trans hxa'.symm)]

end Tracks

/-- Comparing heights decides ancestry.  Let any headers be appended to an empty window of any
retention, such that the accepted ones form a rooted chain.  The window then gives no answer exactly
if it does not keep both blocks; it says yes exactly if it keeps both and one is reached from the
other by parent links through the accepted headers, and no exactly if it keeps both and it is not.
So the kept blocks are ordered as a line, and whatever was answered about two blocks at an earlier
time is answered again, unless one of them is no longer kept. -/
theorem leadsTo?_decides_ancestry (retention : ℕ) (hs : List Header)
    (hrooted : Rooted (acceptedChain hs)) :
    let w := ((empty retention).appendAll hs).2
    (∀ a d,
      (w.leadsTo? a d = none ↔ ¬ w.Keeps a ∨ ¬ w.Keeps d) ∧
        (w.leadsTo? a d = some true ↔
          w.Keeps a ∧ w.Keeps d ∧ AncestorOrEqual (acceptedChain hs) a d) ∧
        (w.leadsTo? a d = some false ↔
          w.Keeps a ∧ w.Keeps d ∧ ¬ AncestorOrEqual (acceptedChain hs) a d)) ∧
      w.OrdersKept ∧
      ∀ before, before <+: hs → ∀ a d b,
        ((empty retention).appendAll before).2.leadsTo? a d = some b →
          w.leadsTo? a d = some b ∨ w.leadsTo? a d = none := by
  intro w
  have htracks : ∀ now, ((empty retention).appendAll now).2.Tracks (acceptedChain now) := by
    intro now
    exact ((Tracks.empty retention).appendAll now).1
  refine ⟨?_, (htracks hs).ordersKept hrooted, ?_⟩
  · intro a d
    refine ⟨leadsTo?_eq_none_iff, ?_, ?_⟩
    · rw [(htracks hs).leadsTo?_eq_some_iff_ancestorOrEqual hrooted, iff_true_left rfl]
    · rw [(htracks hs).leadsTo?_eq_some_iff_ancestorOrEqual hrooted,
        iff_false_left Bool.false_ne_true]
  · intro before hbegins a d b hanswer
    cases hnow : w.leadsTo? a d with
    | none => exact .inr rfl
    | some c =>
      have hsame : b = c := Tracks.leadsTo?_unanimous hrooted (htracks before)
        (acceptedChain_grows hbegins) (htracks hs) List.prefix_rfl hanswer hnow
      exact .inl (congrArg some hsame.symm)

/-- Three headers in a window of two.  About the first one, which was answered while it was kept,
there is no answer any more, and of the two others the lower one leads to the higher one alone. -/
theorem leadsTo?_after_three_headers :
    let first : Header := .bare 0 (.filled 1) .zero
    let second : Header := .bare 1 (.filled 2) (.filled 1)
    let third : Header := .bare 2 (.filled 3) (.filled 2)
    let w := ((empty 2).appendAll [first, second, third]).2
    Rooted (acceptedChain [first, second, third]) ∧
      ((empty 2).appendAll [first, second]).2.leadsTo? first.id second.id = some true ∧
      w.leadsTo? first.id second.id = none ∧
      w.leadsTo? second.id third.id = some true ∧
      w.leadsTo? third.id second.id = some false ∧
      AncestorOrEqual (acceptedChain [first, second, third]) second.id third.id ∧
      ¬ AncestorOrEqual (acceptedChain [first, second, third]) third.id second.id := by
  intro first second third w
  have hrooted : Rooted (acceptedChain [first, second, third]) := ⟨by decide, by decide⟩
  obtain ⟨hanswers, -, -⟩ := leadsTo?_decides_ancestry 2 [first, second, third] hrooted
  have hyes : w.leadsTo? second.id third.id = some true := by decide
  have hno : w.leadsTo? third.id second.id = some false := by decide
  exact ⟨hrooted, by decide, by decide, hyes, hno,
    ((hanswers second.id third.id).2.1.mp hyes).2.2,
    ((hanswers third.id second.id).2.2.mp hno).2.2⟩

end Window

end ChainView
