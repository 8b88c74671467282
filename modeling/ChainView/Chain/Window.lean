import ChainView.Chain.Header
import ChainView.Chain.Retention

/-!
# The window of recent headers

The newest headers of a chain, as many as the retention bound allows.  The first header is taken as
it is; every later one has to extend the newest.  When the bound is passed the oldest header is
dropped, so the window is always a stretch of linked headers that ends at the tip.
-/

namespace ChainView

/-- A bounded stretch of linked headers. -/
structure Window where
  /-- The greatest number of headers kept. -/
  retention : Nat
  /-- At least one header is kept. -/
  retention_pos : 0 < retention
  /-- The headers kept, oldest first. -/
  headers : List Header

/-- What a header that is refused should have been, beside what it is. -/
structure Discontinuity where
  /-- The id of the newest header, which should have been the parent. -/
  expectedParent : Digest
  /-- The height above the newest header. -/
  expectedIndex : UInt64
  /-- The parent that the header names. -/
  foundParent : Digest
  /-- The height that the header claims. -/
  foundIndex : UInt64
  deriving DecidableEq

namespace Window

/-- The empty window that keeps at most `retention` headers, and one at least. -/
def empty (retention : Nat) : Window where
  retention := Retention.bound retention
  retention_pos := Retention.bound_pos retention
  headers := []

/-- The oldest header kept. -/
def oldest? (w : Window) : Option Header :=
  w.headers.head?

/-- The newest header kept. -/
def newest? (w : Window) : Option Header :=
  w.headers.getLast?

/-- The height above `index`, the greatest height being its own successor. -/
def nextIndex (index : UInt64) : UInt64 :=
  if index.toNat + 1 < UInt64.size then index + 1 else index

/-- How the header `h` fails to extend `newest`. -/
def discontinuity (newest h : Header) : Discontinuity where
  expectedParent := newest.id
  expectedIndex := nextIndex newest.index
  foundParent := h.parent
  foundIndex := h.index

/-- The window with `h` as its newest header, the oldest ones dropped beyond the bound. -/
def push (w : Window) (h : Header) : Window :=
  let all := w.headers ++ [h]
  { w with headers := all.drop (all.length - w.retention) }

/-- Appends a header, which has to extend the newest one if there is one. -/
def append (w : Window) (h : Header) : Except Discontinuity Window :=
  match w.newest? with
  | none => .ok (w.push h)
  | some newest =>
    if h.extends? newest then .ok (w.push h) else .error (discontinuity newest h)

/-- The newest headers, at most `count` of them, newest first. -/
def recent (w : Window) (count : Nat) : List Header :=
  w.headers.reverse.take count

/-- The header at a height, found by its distance from the oldest one. -/
def atHeight? (w : Window) (index : UInt64) : Option Header :=
  match w.oldest? with
  | none => none
  | some oldest =>
    if oldest.index ≤ index then w.headers[index.toNat - oldest.index.toNat]? else none

/-- The header with an id; of several, the newest. -/
def withId? (w : Window) (id : Digest) : Option Header :=
  w.headers.reverse.find? fun h => h.id = id

/-- The header with an id; of several, the oldest. -/
def oldestWithId? (w : Window) (id : Digest) : Option Header :=
  w.headers.find? fun h => h.id = id

/-- Whether a block is another one or an ancestor of it, unless one of the two is not kept.  The
window is a single chain, so the lower of two blocks is the ancestor. -/
def leadsTo? (w : Window) (ancestor descendant : Digest) : Option Bool :=
  match w.oldestWithId? descendant, w.oldestWithId? ancestor with
  | some d, some a => some (a.index ≤ d.index)
  | _, _ => none

@[simp] theorem headers_empty (retention : Nat) : (empty retention).headers = [] := rfl

@[simp] theorem retention_empty (retention : Nat) :
    (empty retention).retention = Retention.bound retention := rfl

@[simp] theorem retention_push (w : Window) (h : Header) : (w.push h).retention = w.retention := rfl

/-- A push keeps as many of the newest headers as the bound allows. -/
theorem headers_push (w : Window) (h : Header) :
    (w.push h).headers = (w.headers ++ [h]).drop ((w.headers ++ [h]).length - w.retention) := rfl

/-- A push never passes the bound. -/
theorem length_headers_push_le (w : Window) (h : Header) :
    (w.push h).headers.length ≤ w.retention := by
  simp [push]
  omega

/-- After a push the pushed header is the newest. -/
theorem newest?_push (w : Window) (h : Header) : (w.push h).newest? = some h := by
  have := w.retention_pos
  unfold newest? push
  rw [List.getLast?_drop]
  simp
  omega

end Window

end ChainView
