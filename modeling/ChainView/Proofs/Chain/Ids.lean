import ChainView.Proofs.Chain.History

/-!
# Whether an id names one header

A window takes a header for its parent and its height; its id is not looked at.  So an id may come
back: a header that names itself as its parent repeats the id below it, and an id may also recur
after others.  This file says when the ids of a window are distinct and what hangs on it.

Two look-ups search for an id from opposite ends.  As heights increase, one finds the highest of the
headers with the id and the other one the lowest.  They agree on all ids exactly if the ids of the
window are distinct, and exactly then each kept header is found by its own id.  A push keeps the ids
distinct exactly if it brings none that a header beside it bears, so the ids stay distinct in a run
exactly if no header that is taken *repeats* an id.
-/

namespace ChainView

/-- A property of lists that each entry of a list keeps holds of all its beginnings. -/
lemma forall_prefix_of_step {α : Type*} {p : List α → Prop} {l : List α} (hnil : p [])
    (hstep : ∀ before a, before ++ [a] <+: l → p before → p (before ++ [a])) :
    ∀ before, before <+: l → p before := by
  intro before
  induction before using List.reverseRecOn with
  | nil => exact fun _ => hnil
  | append_singleton before a ih =>
    intro hprefix
    exact hstep before a hprefix (ih ((List.prefix_append before [a]).trans hprefix))

namespace Window

/-! ## The ids of a window -/

/-- No two headers of the window have the same id. -/
def DistinctIds (w : Window) : Prop := (w.headers.map Header.id).Nodup

instance (w : Window) : Decidable w.DistinctIds := inferInstanceAs (Decidable (List.Nodup _))

/-- A header repeats an id if the window takes it and then keeps an older header of the same id
beside it. -/
structure Repeats (w : Window) (h : Header) : Prop where
  /-- The window takes the header. -/
  taken : w.append h = .ok (w.push h)
  /-- An older header that is kept has its id. -/
  beside : ∃ old ∈ (w.push h).headers.dropLast, old.id = h.id

/-- The headers of a linked window have distinct ids exactly if an id tells which header it is. -/
lemma distinctIds_iff {w : Window} (hl : Linked w.headers) :
    w.DistinctIds ↔ ∀ a ∈ w.headers, ∀ b ∈ w.headers, a.id = b.id → a = b := by
  have hnodup : w.headers.Nodup := by
    refine hl.pairwise_index_lt.imp ?_
    rintro a b hlt rfl
    exact UInt64.lt_irrefl _ hlt
  exact List.nodup_map_iff_inj_on hnodup

/-- In a linked window the oldest header with an id is the lowest one of those that bear it. -/
lemma oldestWithId?_eq_some_iff {w : Window} (hl : Linked w.headers) {id : Digest} {h : Header} :
    w.oldestWithId? id = some h ↔
      h ∈ w.headers ∧ h.id = id ∧ ∀ g ∈ w.headers, g.id = id → h.index ≤ g.index := by
  refine ⟨oldestWithId?_spec hl, ?_⟩
  rintro ⟨hmem, rfl, hlow⟩
  obtain ⟨g, hg⟩ := exists_oldestWithId? hmem
  obtain ⟨hgmem, hgid, hglow⟩ := oldestWithId?_spec hl hg
  have hindex := UInt64.le_antisymm (hglow h hmem rfl) (hlow g hgmem hgid)
  rw [hg, hl.eq_of_index_eq hgmem hmem hindex]

/-- The ids of a linked window are distinct exactly if each of its headers is found by its id. -/
lemma distinctIds_iff_withId? {w : Window} (hl : Linked w.headers) :
    w.DistinctIds ↔ ∀ h ∈ w.headers, w.withId? h.id = some h := by
  rw [distinctIds_iff hl]
  constructor
  · intro hunique h hh
    refine (withId?_eq_some_iff hl).mpr ⟨hh, rfl, ?_⟩
    intro g hg hid
    rw [hunique g hg h hh hid]
    exact UInt64.le_refl _
  · intro hfound a ha b hb hid
    have hboth := hfound a ha
    rw [hid, hfound b hb] at hboth
    exact (Option.some.inj hboth).symm

/-- The ids of a linked window are distinct exactly if it makes no difference from which end they
are searched for. -/
lemma distinctIds_iff_withId?_eq {w : Window} (hl : Linked w.headers) :
    w.DistinctIds ↔ ∀ id, w.withId? id = w.oldestWithId? id := by
  rw [distinctIds_iff hl]
  constructor
  · intro hunique id
    refine find?_reverse_of_unique fun a ha b hb haid hbid => hunique a ha b hb ?_
    exact (of_decide_eq_true haid).trans (of_decide_eq_true hbid).symm
  · intro hsame a ha b hb hid
    obtain ⟨g, hg⟩ := exists_withId? ha
    obtain ⟨-, -, hhigh⟩ := (withId?_eq_some_iff hl).mp hg
    obtain ⟨-, -, hlow⟩ := oldestWithId?_spec hl ((hsame a.id).symm.trans hg)
    -- both headers stand at the one height that is the highest and the lowest
    have hindex : ∀ c ∈ w.headers, c.id = a.id → c.index = g.index := fun c hc hcid =>
      UInt64.le_antisymm (hhigh c hc hcid) (hlow c hc hcid)
    exact hl.eq_of_index_eq ha hb ((hindex a ha rfl).trans (hindex b hb hid.symm).symm)

/-! ## Pushing a header -/

/-- A push leaves some of the newest headers, and puts the new one behind them. -/
lemma headers_push_eq (w : Window) (h : Header) :
    (w.push h).headers = w.headers.drop (w.headers.length + 1 - w.retention) ++ [h] := by
  have hpos := w.retention_pos
  rw [headers_push, List.length_append, List.length_singleton,
    List.drop_append_of_le_length (by omega)]

/-- A push leaves distinct ids distinct exactly if no header that stays has the id of the new
one. -/
lemma DistinctIds.push_iff {w : Window} (hw : w.DistinctIds) (h : Header) :
    (w.push h).DistinctIds ↔ ¬ ∃ old ∈ (w.push h).headers.dropLast, old.id = h.id := by
  have hstay : ((w.headers.drop (w.headers.length + 1 - w.retention)).map Header.id).Nodup :=
    hw.sublist ((List.drop_sublist _ _).map Header.id)
  rw [DistinctIds, headers_push_eq, List.dropLast_concat, List.map_append, List.map_singleton,
    List.nodup_append_comm, List.singleton_append, List.nodup_cons, List.mem_map]
  exact and_iff_left hstay

/-- A window that is given a sequence of headers is given the first one and then the others. -/
lemma appendAll_cons_snd (w : Window) (h : Header) (rest : List Header) :
    (w.appendAll (h :: rest)).2 = ((w.appendAll [h]).2.appendAll rest).2 := by
  cases happend : w.append h <;> simp [appendAll, happend]

/-- The last one of them is given to the window that the others lead to. -/
lemma appendAll_append_singleton (w : Window) (hs : List Header) (h : Header) :
    (w.appendAll (hs ++ [h])).2 = ((w.appendAll hs).2.appendAll [h]).2 := by
  induction hs generalizing w with
  | nil => rfl
  | cons g rest ih =>
    rw [List.cons_append, appendAll_cons_snd, ih, ← appendAll_cons_snd]

/-- Distinct ids stay distinct exactly if the next header does not repeat one. -/
lemma DistinctIds.append_iff {w : Window} (hw : w.DistinctIds) (h : Header) :
    (w.appendAll [h]).2.DistinctIds ↔ ¬ w.Repeats h := by
  cases happend : w.append h with
  | ok next =>
    obtain ⟨-, rfl⟩ := append_eq_ok_iff.mp happend
    have hnext : (w.appendAll [h]).2 = w.push h := by simp [appendAll, happend]
    rw [hnext, hw.push_iff h, not_iff_not]
    exact ⟨fun hbeside => ⟨happend, hbeside⟩, Repeats.beside⟩
  | error d =>
    have hnext : (w.appendAll [h]).2 = w := by simp [appendAll, happend]
    rw [hnext]
    refine iff_of_true hw fun hrepeats => ?_
    rw [hrepeats.taken] at happend
    cases happend

/-- The ids of a window stay distinct, while headers of any kind are appended to the empty window,
exactly if none of them is taken into a window that keeps an older header of the same id beside it.
In the window that is reached the ids are distinct exactly if each header is found by its own id,
and exactly if both look-ups find the same header for every id; ancestry is then decided between the
headers that are found by id.  In any case one look-up finds the highest header that bears the id,
and the other one the lowest. -/
theorem distinctIds_throughout_iff (retention : ℕ) (hs : List Header) :
    ((∀ before, before <+: hs → ((empty retention).appendAll before).2.DistinctIds) ↔
      ∀ before h, before ++ [h] <+: hs → ¬ ((empty retention).appendAll before).2.Repeats h) ∧
    let w := ((empty retention).appendAll hs).2
    (w.DistinctIds ↔ ∀ h ∈ w.headers, w.withId? h.id = some h) ∧
      (w.DistinctIds ↔ ∀ id, w.withId? id = w.oldestWithId? id) ∧
      (w.DistinctIds → ∀ a d, w.leadsTo? a d =
        (w.withId? d).bind fun upper => (w.withId? a).map fun lower =>
          decide (lower.index ≤ upper.index)) ∧
      ∀ id h,
        (w.withId? id = some h ↔
          h ∈ w.headers ∧ h.id = id ∧ ∀ g ∈ w.headers, g.id = id → g.index ≤ h.index) ∧
        (w.oldestWithId? id = some h ↔
          h ∈ w.headers ∧ h.id = id ∧ ∀ g ∈ w.headers, g.id = id → h.index ≤ g.index) := by
  have hl : Linked ((empty retention).appendAll hs).2.headers :=
    ((Tracks.empty retention).appendAll hs).1.linked_headers
  refine ⟨⟨?_, ?_⟩, distinctIds_iff_withId? hl, distinctIds_iff_withId?_eq hl, ?_, fun id h =>
    ⟨withId?_eq_some_iff hl, oldestWithId?_eq_some_iff hl⟩⟩
  · intro hall before h hprefix
    have hbefore := hall before ((List.prefix_append before [h]).trans hprefix)
    have hnext := hall _ hprefix
    rw [appendAll_append_singleton] at hnext
    exact (hbefore.append_iff h).mp hnext
  · intro hnone
    refine forall_prefix_of_step List.nodup_nil fun before h hprefix hbefore => ?_
    rw [appendAll_append_singleton]
    exact (hbefore.append_iff h).mpr (hnone before h hprefix)
  · intro hdistinct a d
    have hsame := (distinctIds_iff_withId?_eq hl).mp hdistinct
    rw [leadsTo?, ← hsame a, ← hsame d]
    cases withId? _ d with
    | none => rfl
    | some upper => cases withId? _ a <;> rfl

/-- An id may come back after another one: the link to the newest header does not exclude it.  Then
two headers that are kept share the id, the older one is not found by it, and the look-ups differ,
so that the block in between is said to be no ancestor of the newest header, whose parent it is. -/
theorem not_distinctIds_of_recurring_id :
    let first := Header.bare 0 (.filled 1) .zero
    let second := Header.bare 1 (.filled 2) (.filled 1)
    let third := Header.bare 2 (.filled 1) (.filled 2)
    let w := ((empty 3).appendAll [first, second, third]).2
    w.headers = [first, second, third] ∧ ¬ w.DistinctIds ∧
      w.withId? first.id ≠ some first ∧ w.withId? first.id ≠ w.oldestWithId? first.id ∧
      w.withId? first.id = some third ∧ w.leadsTo? third.parent first.id = some false := by
  decide

end Window

end ChainView
