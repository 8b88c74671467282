import ChainView.Node.Follower

/-!
# A follower on a clock

A follower that has been started makes its first block as soon as time passes, and another each time
the block time has gone by, until a step fails.  Time is counted in milliseconds from the first
moment that passes.
-/

namespace ChainView

/-- A follower that runs on a clock. -/
structure Ticking where
  /-- The follower. -/
  follower : Follower
  /-- The time between blocks. -/
  blockTime : Nat
  /-- The time that has passed since the start, once any has. -/
  elapsed : Option Nat
  /-- Whether a step failed, which ends the run. -/
  ended : Bool

namespace Ticking

/-- A follower that is started. -/
def start (follower : Follower) (blockTime : UInt64) : Ticking :=
  ⟨follower, blockTime.toNat, none, false⟩

/-- The number of blocks due after a time, the one at the start included. -/
def due (t : Ticking) (elapsed : Nat) : Nat :=
  elapsed / t.blockTime + 1

/-- The times of the blocks that fall due while `ms` milliseconds pass. -/
def ticks (t : Ticking) (ms : Nat) : List Nat :=
  match t.elapsed with
  | none => (List.range (t.due ms)).map (· * t.blockTime)
  | some before =>
    ((List.range (t.due (before + ms))).drop (t.due before)).map (· * t.blockTime)

/-- Lets time pass: the blocks that fall due are made, on a clock that shows `epoch` at the
start. -/
def advance (t : Ticking) (n : Node) (epoch : UInt64) (ms : Nat) : Ticking × Node :=
  if ms = 0 then (t, n)
  else
    let elapsed := some (t.elapsed.getD 0 + ms)
    if t.ended then ({ t with elapsed }, n)
    else
      let times := (t.ticks ms).map fun tick => epoch + UInt64.ofNat tick
      let (ended, follower, n) := t.follower.run n times
      ({ t with follower, elapsed, ended }, n)

end Ticking

end ChainView
