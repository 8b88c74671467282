import Mathlib.Data.List.DropRight
import Mathlib.Data.List.Nodup
import ChainView.Proofs.Chain.Linked

/-!
# The window as the end of the chain of accepted headers

A window forgets its oldest headers, yet it decides about a header as if it kept them all.  The
*accepted chain* of a sequence of headers is the unbounded list that takes its first header as it
is and every later one that names the last header taken and stands one height above it.  A window
of any retention accepts the headers that this chain takes, and it holds the last of them, as many
as its bound allows.  All of its look-ups are therefore look-ups in the end of the accepted chain.
-/

namespace ChainView

/-- The last entries of a list and one more are the last entries of the longer list. -/
lemma rtake_rtake_append_singleton {α : Type*} {n : ℕ} (hn : 0 < n) (l : List α) (a : α) :
    (l.rtake n ++ [a]).rtake n = (l ++ [a]).rtake n := by
  obtain ⟨m, rfl⟩ : ∃ m, n = m + 1 := ⟨n - 1, by omega⟩
  have hm : (l.rtake (m + 1)).rtake m = l.rtake m := by
    simp only [List.rtake_eq_reverse_take_reverse, List.reverse_reverse, List.take_take]
    rw [min_eq_left (Nat.le_succ m)]
  rw [List.rtake_concat_succ, List.rtake_concat_succ, hm]

/-! ## The accepted chain -/

/-- Whether a chain takes a header: the first one always, a later one if it names the last header
of the chain and stands one height above it.  Heights are compared as numbers, so that nothing
follows the greatest height. -/
def admits (chain : List Header) (h : Header) : Bool :=
  match chain.getLast? with
  | none => true
  | some last => h.parent = last.id && h.index.toNat = last.index.toNat + 1

/-- The chain with a header behind it, if the chain takes the header. -/
def accept (chain : List Header) (h : Header) : List Header :=
  if admits chain h then chain ++ [h] else chain

/-- The chain of the headers of a sequence that are taken. -/
def acceptedChain (hs : List Header) : List Header :=
  hs.foldl accept []

/-- The answer that a chain prescribes for a header: one that is refused is compared with the last
header of the chain. -/
def verdict (chain : List Header) (h : Header) : Except Discontinuity Unit :=
  match chain.getLast? with
  | none => .ok ()
  | some last => if admits chain h then .ok () else .error (Window.discontinuity last h)

/-- A chain that takes a header takes one that extends its last header. -/
lemma admits_eq_true_iff {chain : List Header} {h : Header} :
    admits chain h = true ↔ ∀ last ∈ chain.getLast?, h.extends? last = true := by
  unfold admits
  cases chain.getLast? with
  | none => simp
  | some last => simp [Header.extends?_iff]

/-- Only a chain that has a last header refuses a header, and that header does not extend it. -/
lemma exists_last_of_admits_eq_false {chain : List Header} {h : Header}
    (hh : admits chain h = false) :
    ∃ last, chain.getLast? = some last ∧ h.extends? last = false := by
  unfold admits at hh
  cases hlast : chain.getLast? with
  | none => simp [hlast] at hh
  | some last =>
    refine ⟨last, rfl, ?_⟩
    simpa [hlast, Header.extends?] using hh

/-- A header that is taken becomes the last one. -/
lemma accept_of_admits {chain : List Header} {h : Header} (hh : admits chain h = true) :
    accept chain h = chain ++ [h] := if_pos hh

/-- A header that is refused leaves the chain as it is. -/
lemma accept_of_not_admits {chain : List Header} {h : Header} (hh : admits chain h = false) :
    accept chain h = chain := if_neg (by simp [hh])

/-! ## Appending a sequence of headers to a window -/

namespace Window

/-- Appends a sequence of headers, refused ones passed over, and gives the answer to each. -/
def appendAll (w : Window) : List Header → List (Except Discontinuity Unit) × Window
  | [] => ([], w)
  | h :: rest =>
    match w.append h with
    | .ok next => (.ok () :: (next.appendAll rest).1, (next.appendAll rest).2)
    | .error d => (.error d :: (w.appendAll rest).1, (w.appendAll rest).2)

/-- A window tracks a linked chain if it holds the end of the chain that its bound allows. -/
structure Tracks (w : Window) (chain : List Header) : Prop where
  /-- The chain is linked. -/
  linked : Linked chain
  /-- The window holds the last headers of the chain. -/
  headers_eq : w.headers = chain.rtake w.retention

namespace Tracks

variable {w : Window} {chain : List Header}

/-- The empty window tracks the empty chain. -/
lemma empty (retention : ℕ) : (Window.empty retention).Tracks [] where
  linked := Linked.nil
  headers_eq := by simp

/-- The window is linked. -/
lemma linked_headers (ht : w.Tracks chain) : Linked w.headers := by
  rw [ht.headers_eq]
  exact ht.linked.drop _

/-- The headers of the window are headers of the chain. -/
lemma mem_of_mem_headers (ht : w.Tracks chain) {h : Header} (hh : h ∈ w.headers) : h ∈ chain := by
  rw [ht.headers_eq] at hh
  exact List.mem_of_mem_drop hh

/-- If no two headers of the chain have the same id, an id names one of them at most. -/
lemma eq_of_id_eq (ht : w.Tracks chain) (hids : (chain.map Header.id).Nodup) {a b : Header}
    (ha : a ∈ w.headers) (hb : b ∈ chain) (hid : a.id = b.id) : a = b :=
  List.inj_on_of_nodup_map hids (ht.mem_of_mem_headers ha) hb hid

/-- The newest header of the window is the last one of the chain, since the bound is positive. -/
lemma newest?_eq (ht : w.Tracks chain) : w.newest? = chain.getLast? := by
  have hpos := w.retention_pos
  rw [newest?, ht.headers_eq, List.rtake, List.getLast?_drop]
  split
  · have hlen : chain.length = 0 := by omega
    simp [List.length_eq_zero_iff.mp hlen]
  · rfl

/-- The length of the window is that of the chain, cut to the bound. -/
lemma length_headers (ht : w.Tracks chain) :
    w.headers.length = min w.retention chain.length := by
  rw [ht.headers_eq, List.rtake, List.length_drop]
  omega

/-- The window decides about a header as the chain does, and tracks the chain with that header. -/
lemma append_of_admits (ht : w.Tracks chain) {h : Header} (hh : admits chain h = true) :
    w.append h = .ok (w.push h) ∧ (w.push h).Tracks (chain ++ [h]) := by
  have hext := admits_eq_true_iff.mp hh
  refine ⟨?_, ht.linked.append_singleton hext, ?_⟩
  · refine append_eq_ok_iff.mpr ⟨?_, rfl⟩
    rw [ht.newest?_eq]
    exact hext
  · change (w.headers ++ [h]).rtake w.retention = (chain ++ [h]).rtake w.retention
    rw [ht.headers_eq, rtake_rtake_append_singleton w.retention_pos]

/-- The window refuses the headers that the chain refuses, with the same complaint. -/
lemma append_of_not_admits (ht : w.Tracks chain) {h : Header} (hh : admits chain h = false) :
    ∃ last, chain.getLast? = some last ∧ w.append h = .error (discontinuity last h) := by
  obtain ⟨last, hlast, hext⟩ := exists_last_of_admits_eq_false hh
  refine ⟨last, hlast, ?_⟩
  simp [append, ht.newest?_eq, hlast, hext]

/-- One append answers as the chain prescribes and leaves a window that tracks the chain with the
header accepted or refused, of the same bound as before. -/
lemma appendAll_cons (ht : w.Tracks chain) (h : Header) (rest : List Header) :
    ∃ next : Window, next.Tracks (accept chain h) ∧ next.retention = w.retention ∧
      w.appendAll (h :: rest) =
        (verdict chain h :: (next.appendAll rest).1, (next.appendAll rest).2) := by
  cases hh : admits chain h with
  | true =>
    obtain ⟨happend, hnext⟩ := ht.append_of_admits hh
    have hverdict : verdict chain h = .ok () := by
      unfold verdict
      cases chain.getLast? <;> simp [hh]
    refine ⟨w.push h, ?_, rfl, ?_⟩
    · rw [accept_of_admits hh]
      exact hnext
    · simp [appendAll, happend, hverdict]
  | false =>
    obtain ⟨last, hlast, happend⟩ := ht.append_of_not_admits hh
    have hverdict : verdict chain h = .error (discontinuity last h) := by
      simp [verdict, hlast, hh]
    refine ⟨w, ?_, rfl, ?_⟩
    · rw [accept_of_not_admits hh]
      exact ht
    · simp [appendAll, happend, hverdict]

/-- A window that tracks a chain goes on tracking it while headers are appended. -/
lemma appendAll (ht : w.Tracks chain) (hs : List Header) :
    (w.appendAll hs).2.Tracks (hs.foldl accept chain) ∧
      (w.appendAll hs).2.retention = w.retention := by
  induction hs generalizing w chain with
  | nil => exact ⟨ht, rfl⟩
  | cons h rest ih =>
    obtain ⟨next, hnext, hretention, heq⟩ := ht.appendAll_cons h rest
    obtain ⟨hlast, hbound⟩ := ih hnext
    rw [heq]
    exact ⟨hlast, hbound.trans hretention⟩

/-- Every append is answered as the chain accepted so far prescribes. -/
lemma getElem?_answers (ht : w.Tracks chain) (hs : List Header) (i : ℕ) :
    (w.appendAll hs).1[i]? = hs[i]?.map (verdict ((hs.take i).foldl accept chain)) := by
  induction hs generalizing w chain i with
  | nil => rfl
  | cons h rest ih =>
    obtain ⟨next, hnext, -, heq⟩ := ht.appendAll_cons h rest
    rw [heq]
    cases i with
    | zero => rfl
    | succ i => exact ih hnext i

end Tracks

/-- A window decides about headers as the unbounded chain does and holds the end of that chain, in
which all of its look-ups take place.  After any sequence of headers appended to an empty window:
every answer is the one that the chain accepted before it prescribes, whatever the retention; the
window is the last part of the accepted chain, as long as the retention allows, and is linked; the
recent headers are its headers, newest first; and the header at a height, which is found by a
difference of heights, is the one that a search for the height finds, from either end. -/
theorem appendAll_refines_acceptedChain (retention : ℕ) (hs : List Header) :
    let answers := ((Window.empty retention).appendAll hs).1
    let w := ((Window.empty retention).appendAll hs).2
    (∀ i : ℕ, answers[i]? = hs[i]?.map (verdict (acceptedChain (hs.take i)))) ∧
      (∀ other, ((Window.empty other).appendAll hs).1 = answers) ∧
      w.headers = (acceptedChain hs).rtake (max retention 1) ∧
      w.headers.length = min (max retention 1) (acceptedChain hs).length ∧
      Linked w.headers ∧
      (∀ count, w.recent count = w.headers.reverse.take (min count w.headers.length)) ∧
      ∀ index, w.atHeight? index = (w.headers.find? fun h => h.index = index) ∧
        w.atHeight? index = w.headers.reverse.find? fun h => h.index = index := by
  intro answers w
  have hanswers : ∀ bound (i : ℕ), ((Window.empty bound).appendAll hs).1[i]? =
      hs[i]?.map (verdict (acceptedChain (hs.take i))) := by
    intro bound i
    exact (Tracks.empty bound).getElem?_answers hs i
  obtain ⟨htracks, hretention⟩ := (Tracks.empty retention).appendAll hs
  have hbound : w.retention = max retention 1 := hretention
  have hlinked : Linked w.headers := htracks.linked_headers
  refine ⟨hanswers retention, ?_, ?_, ?_, hlinked, ?_, ?_⟩
  · intro other
    apply List.ext_getElem?
    intro i
    exact (hanswers other i).trans (hanswers retention i).symm
  · rw [← hbound]
    exact htracks.headers_eq
  · rw [← hbound]
    exact htracks.length_headers
  · intro count
    rw [recent, ← List.length_reverse, List.take_eq_take_min]
  · intro index
    refine ⟨atHeight?_eq_find? hlinked index, ?_⟩
    rw [hlinked.find?_index_reverse, atHeight?_eq_find? hlinked]

end Window

end ChainView
