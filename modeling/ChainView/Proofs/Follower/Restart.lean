import ChainView.Node.Instance
import ChainView.Proofs.Follower.L1Views

/-!
# A follower that is started again

Stopping a node ends its follower and keeps what the node has taken in.  The next start brings a
follower that knows nothing of it: like the first one it begins with a block at height zero on top
of no block.  If the first one has made a block, its last block is the newest header of the node, so
that the new follower was overtaken before its first step (`Follower.Overtaken`).  Its first block
breaks the chain, the latch is set, and no block is made any more.  Only if no block was made before
is the new follower as good as the first one.
-/

namespace ChainView

namespace NodeSettings

/-- The follower that a start brings. -/
def freshFollower (s : NodeSettings) : Follower :=
  .create s.follower s.gateway.chain.network

/-- The node before the first start. -/
def freshNode (s : NodeSettings) : Node :=
  .create s.gateway.retention s.gateway.chain.network

/-- Settings in order have a follower in order. -/
lemma fault?_follower_eq_none {s : NodeSettings} (hs : s.fault? = none) :
    s.follower.fault? s.gateway.retention.maxHeaders = none := by
  unfold fault? at hs
  cases hgateway : s.gateway.fault? with
  | some fault => simp [hgateway] at hs
  | none => simpa [hgateway] using hs

end NodeSettings

namespace Follower

/-! ## Behind steps that succeed -/

/-- A node takes in headers, and the newest one is the tip of the follower. -/
structure AtTip (f : Follower) (n : Node) : Prop where
  /-- The latch is clear. -/
  running : n.halted = false
  /-- The newest header is the tip. -/
  newest_eq : n.window.newest? = f.tip

/-- A step that succeeds leaves the node at the tip of the follower. -/
lemma atTip_of_step_eq {f g : Follower} {n m : Node} {time : UInt64} {h : Header}
    (hstep : f.step n time = (.ok h, g, m)) : AtTip g m := by
  have hmade := made_of_step_eq hstep
  have hnewest : m.window.newest? = g.tip := by
    rw [hmade.newest_eq, hmade.follower_eq]
  refine ⟨?_, hnewest⟩
  cases stepsTo_of_step_eq hstep with
  | @made _ next _ hnext htake hl1 hstatus =>
    rcases n.takeHeader_cases h with ⟨_, hrefused, -⟩ | ⟨hrunning, -, htaken⟩
    · cases htake.symm.trans hrefused
    obtain ⟨-, rfl⟩ := Prod.mk.inj (htake.symm.trans htaken)
    rw [eq_of_takeStatus_eq_ok hstatus, ownReports_eq hnext]
    change (Node.ingestAll _ _).2.halted = false
    unfold l1Reports
    split <;> exact hrunning

/-- Steps that all succeed leave the node at the tip of the follower, and if there was one, the
follower has a tip. -/
lemma AtTip.stepEach {f : Follower} {n : Node} (hf : AtTip f n) {times : List UInt64}
    (hok : ∀ answer ∈ (f.stepEach n times).1, answer.isOk = true) :
    AtTip (f.stepEach n times).2.1 (f.stepEach n times).2.2 ∧
      (times ≠ [] → (f.stepEach n times).2.1.tip ≠ none) := by
  induction times generalizing f n with
  | nil => exact ⟨hf, fun h => absurd rfl h⟩
  | cons time rest ih =>
    obtain ⟨answer, g, m, hstep⟩ : ∃ answer g m, f.step n time = (answer, g, m) := ⟨_, _, _, rfl⟩
    simp only [stepEach_cons, hstep, List.forall_mem_cons] at hok ⊢
    obtain ⟨hfirst, hrest⟩ := hok
    cases answer with
    | error e => cases hfirst
    | ok h =>
      obtain ⟨hlast, htip⟩ := ih (atTip_of_step_eq hstep) hrest
      refine ⟨hlast, fun _ => ?_⟩
      cases rest with
      | nil =>
        have hmade := (made_of_step_eq hstep).follower_eq
        simp [Follower.stepEach, hmade]
      | cons second rest => exact htip (List.cons_ne_nil second rest)

/-- The steps of a follower keep the histories of a node in order. -/
lemma sound_stepEach {n : Node} (hn : n.Sound) (f : Follower) (times : List UInt64) :
    (f.stepEach n times).2.2.Sound := by
  rw [← ingestAll_reportsOver]
  exact Node.ingestAll_induction (fun _ _ _ _ hm ht => hm.transition ht) hn _

/-! ## Steps of a follower that was overtaken -/

/-- A follower was overtaken by a node: the node takes in headers, and the newest one stands at the
height of the next block of the follower or above. -/
structure Overtaken (f : Follower) (n : Node) (index : UInt64) (newest : Header) : Prop where
  /-- The next block stands at this height. -/
  next_eq : f.nextIndex? = some index
  /-- The latch is clear. -/
  running : n.halted = false
  /-- The header is the newest one. -/
  newest_eq : n.window.newest? = some newest
  /-- It is too high. -/
  le : index ≤ newest.index

/-- Once the latch is set, all steps are refused for it, and change nothing, as long as there is a
height for a block. -/
lemma stepEach_of_halted {f : Follower} {n : Node} {index : UInt64}
    (hnext : f.nextIndex? = some index) (hhalted : n.halted = true) (times : List UInt64) :
    f.stepEach n times = (times.map fun _ => .error (.refused .halted), f, n) := by
  induction times with
  | nil => rfl
  | cons time rest ih =>
    have hstep : f.step n time = (.error (.refused .halted), f, n) := by
      simp [step, nextBlock?, hnext, Node.takeHeader, hhalted]
    rw [stepEach_cons, hstep, ih]
    rfl

namespace Overtaken

variable {f : Follower} {n : Node} {index : UInt64} {newest : Header}
  (h : Overtaken f n index newest)
include h

/-- The next step breaks the chain. -/
lemma step (time : UInt64) :
    f.step n time =
      (.error (.refused (.discontinuity
        (Window.discontinuity newest (block f.parentId index time)))), f,
        { n with halted := true }) := by
  have hext : (block f.parentId index time).extends? newest = false := by
    refine Bool.eq_false_iff.mpr fun hyes => ?_
    exact UInt64.not_le.mpr (Header.index_lt_of_extends? hyes) h.le
  simp [Follower.step, nextBlock?, h.next_eq, Node.takeHeader, h.running, Window.append,
    h.newest_eq, hext]

/-- All steps after it are refused for that. -/
lemma stepEach (time : UInt64) (rest : List UInt64) :
    f.stepEach n (time :: rest) =
      (.error (.refused (.discontinuity
          (Window.discontinuity newest (block f.parentId index time)))) ::
        rest.map fun _ => .error (.refused .halted), f, { n with halted := true }) := by
  rw [stepEach_cons, h.step time, stepEach_of_halted h.next_eq rfl rest]

/-- On a clock the follower ends as soon as time passes, with the latch set. -/
lemma advance (blockTime epoch : UInt64) {ms : ℕ} (hms : ms ≠ 0) :
    ((Ticking.start f blockTime).advance n epoch ms).2 = { n with halted := true } := by
  -- the first block falls due at once
  have hticks : (Ticking.start f blockTime).ticks ms =
      0 :: ((List.range (ms / blockTime.toNat)).map Nat.succ).map (· * blockTime.toNat) := by
    simp [Ticking.ticks, Ticking.start, Ticking.due, List.range_succ_eq_map]
  have hrun : ∀ time rest, f.run n (time :: rest) = (true, f, { n with halted := true }) := by
    intro time rest
    rw [run, h.step time]
  have hended : (Ticking.start f blockTime).ended = false := rfl
  have hsame : (Ticking.start f blockTime).follower = f := rfl
  simp [Ticking.advance, hms, hended, hsame, hticks, hrun]

end Overtaken

end Follower

/-! ## The follower that a second start brings -/

namespace NodeSettings

variable {settings : NodeSettings}

/-- Over a fresh node a fresh follower makes a block at each time, as long as the ids of the blocks
are distinct and there are heights for them and for their L1 blocks. -/
lemma stepEach_fresh (hsettings : settings.fault? = none) {times : List UInt64}
    (hlen : times.length < UInt64.size) (hids : ((Follower.chain times).map Header.id).Nodup)
    (hl1 : settings.follower.l1StartHeight.toNat +
      (times.length - 1) / settings.follower.l1Interval.toNat < UInt64.size) :
    (settings.freshFollower.stepEach settings.freshNode times).1 =
        (Follower.chain times).map .ok ∧
      (settings.freshFollower.stepEach settings.freshNode times).2.2.halted = false := by
  obtain ⟨hinterval, hbound⟩ :=
    FollowerSettings.bounds_of_fault?_eq_none (fault?_follower_eq_none hsettings)
  have hfresh : Follower.InStep settings.freshFollower settings.freshNode [] :=
    .create _ _ _ _
  obtain ⟨made, g, m, hrun, hmade, hs, -, -⟩ :=
    hfresh.stepEach times hlen.le hinterval hbound hl1 hids
  have hchain : Follower.chain times = made := hmade
  rw [hrun, hchain]
  exact ⟨rfl, hs.running⟩

/-- A fresh follower was overtaken by any node that steps were made over before, all of which
succeeded. -/
lemma overtaken_of_steps {done : List UInt64}
    (hdone : ∀ answer ∈ (settings.freshFollower.stepEach settings.freshNode done).1,
      answer.isOk = true) (hne : done ≠ []) :
    ∃ tip, (settings.freshFollower.stepEach settings.freshNode done).2.1.tip = some tip ∧
      Follower.Overtaken settings.freshFollower
        (settings.freshFollower.stepEach settings.freshNode done).2.2 0 tip := by
  obtain ⟨hkept, htip⟩ := Follower.AtTip.stepEach ⟨rfl, rfl⟩ hdone
  obtain ⟨tip, htip⟩ := Option.ne_none_iff_exists'.mp (htip hne)
  -- the next height of a fresh follower is zero, and no header is below it
  exact ⟨tip, htip, rfl, hkept.running, hkept.newest_eq.trans htip,
    UInt64.le_iff_toNat_le.mpr (Nat.zero_le _)⟩

end NodeSettings

namespace NodeInstance

/-- An instance that is stopped and started again keeps its node and has a fresh follower, if its
settings ask for one. -/
lemma start_stop {i : NodeInstance} (henabled : i.settings.follower.enabled = true) :
    i.stop.start = some { i with
      gateway := { i.gateway with serving := true, bound := true }
      follower := some (.start i.settings.freshFollower i.settings.gateway.chain.blockTime) } := by
  have hgateway : i.stop.gateway.start =
      some { i.gateway with serving := true, bound := true } := rfl
  have hfollower : i.stop.settings.follower.enabled = true ∧ i.stop.follower.isNone = true :=
    ⟨henabled, rfl⟩
  rw [start, hgateway]
  exact if_pos hfollower

/-- A follower makes blocks after a restart exactly if none was made before it.  Take settings in
order, and let all steps of the follower at the times `done` succeed over a fresh node.  Then a new
follower over the node that this leaves makes a block at each of the times `later`, and the node
goes on taking in headers, exactly if there was no step before or there is none now, as long as the
ids of the blocks are distinct and there are heights for them and for their L1 blocks.  The window
stays linked in any case.  If there were steps before, the first block of the new follower breaks
the chain at the last block of the old one, all others are refused for it, and nothing of the node
changes but the latch.  The new follower is the one that the next start brings, as it keeps the
node; there it breaks the chain as soon as time passes. -/
theorem restart_makes_blocks_iff (settings : NodeSettings) (done later : List UInt64)
    (hsettings : settings.fault? = none)
    (hdone : ∀ answer ∈ (settings.freshFollower.stepEach settings.freshNode done).1,
      answer.isOk = true)
    (hlen : later.length < UInt64.size) (hids : ((Follower.chain later).map Header.id).Nodup)
    (hl1 : settings.follower.l1StartHeight.toNat +
      (later.length - 1) / settings.follower.l1Interval.toNat < UInt64.size) :
    let stopped := (settings.freshFollower.stepEach settings.freshNode done).2.1
    let kept := (settings.freshFollower.stepEach settings.freshNode done).2.2
    let second := settings.freshFollower.stepEach kept later
    ((∀ answer ∈ second.1, answer.isOk = true) ∧ second.2.2.halted = false ↔
        done = [] ∨ later = []) ∧
      Linked second.2.2.window.headers ∧
      (done = [] → second.1 = (Follower.chain later).map .ok) ∧
      (done ≠ [] → ∃ tip, stopped.tip = some tip ∧ kept.window.newest? = some tip ∧
        ∀ time rest, later = time :: rest → second =
          (.error (.refused (.discontinuity
              (Window.discontinuity tip (Follower.block .zero 0 time)))) ::
            rest.map fun _ => .error (.refused .halted),
          settings.freshFollower, { kept with halted := true })) ∧
      (settings.follower.enabled = true → ∀ i : NodeInstance, i.settings = settings →
        i.node = kept → ∃ started, i.stop.start = some started ∧ started.node = kept ∧
          started.follower =
            some (.start settings.freshFollower settings.gateway.chain.blockTime) ∧
          (done ≠ [] → ∀ epoch ms, ms ≠ 0 →
            (started.sleep epoch ms).node = { kept with halted := true })) := by
  intro stopped kept second
  have hkept : kept.halted = false := (Follower.AtTip.stepEach ⟨rfl, rfl⟩ hdone).1.running
  have hfresh : done = [] →
      second.1 = (Follower.chain later).map .ok ∧ second.2.2.halted = false := by
    rintro rfl
    exact NodeSettings.stepEach_fresh hsettings hlen hids hl1
  have hlinked : Linked second.2.2.window.headers := by
    have hbefore : settings.freshNode.Sound := Node.sound_after _ _ []
    have hkeptSound : kept.Sound := Follower.sound_stepEach hbefore settings.freshFollower done
    exact (Follower.sound_stepEach hkeptSound settings.freshFollower later).linked
  refine ⟨⟨?_, ?_⟩, hlinked, fun h => (hfresh h).1, ?_, ?_⟩
  · rintro ⟨hok, -⟩
    by_contra hnone
    push Not at hnone
    obtain ⟨hne, hlater⟩ := hnone
    obtain ⟨tip, -, hover⟩ := NodeSettings.overtaken_of_steps hdone hne
    obtain ⟨time, rest, rfl⟩ := List.exists_cons_of_ne_nil hlater
    have hsecond : second = _ := hover.stepEach time rest
    rw [hsecond] at hok
    exact absurd (hok _ List.mem_cons_self) Bool.false_ne_true
  · rintro (hnil | rfl)
    · obtain ⟨hanswers, hrunning⟩ := hfresh hnil
      refine ⟨?_, hrunning⟩
      rw [hanswers]
      intro answer hanswer
      obtain ⟨h, -, rfl⟩ := List.mem_map.mp hanswer
      rfl
    · exact ⟨by simp [second, Follower.stepEach], hkept⟩
  · intro hne
    obtain ⟨tip, htip, hover⟩ := NodeSettings.overtaken_of_steps hdone hne
    refine ⟨tip, htip, hover.newest_eq, ?_⟩
    rintro time rest rfl
    exact hover.stepEach time rest
  · rintro henabled i rfl hnode
    refine ⟨_, start_stop henabled, hnode, rfl, ?_⟩
    intro hne epoch ms hms
    obtain ⟨tip, -, hover⟩ := NodeSettings.overtaken_of_steps hdone hne
    rw [← hover.advance i.settings.gateway.chain.blockTime epoch hms]
    simp only [sleep]
    rw [hnode]

/-- With the standard settings, the follower switched on and one block made before the restart, the
first block after it breaks the chain at that block, and the second one is refused for it. -/
theorem restart_after_one_block :
    let settings : NodeSettings :=
      { NodeSettings.standard with follower := { FollowerSettings.standard with enabled := true } }
    let kept := (settings.freshFollower.stepEach settings.freshNode [5]).2.2
    let second := settings.freshFollower.stepEach kept [7, 9]
    second.2.2.halted = true ∧ ∃ tip, kept.window.newest? = some tip ∧
      second.1 = [.error (.refused (.discontinuity
          (Window.discontinuity tip (Follower.block .zero 0 7)))),
        .error (.refused .halted)] := by
  intro settings kept second
  obtain ⟨-, -, -, hstopped, -⟩ :=
    restart_makes_blocks_iff settings [5] [7, 9] (by decide) (by decide +kernel) (by decide)
      (by decide +kernel) (by decide)
  obtain ⟨tip, -, hnewest, hbreaks⟩ := hstopped (List.cons_ne_nil 5 [])
  have hsecond : second = _ := hbreaks 7 [9] rfl
  exact ⟨by rw [hsecond], tip, hnewest, by rw [hsecond]; rfl⟩

/-- A node does not survive every restart of its follower: after one block it takes in no header any
more. -/
theorem not_survives_restart :
    ¬ ∀ (settings : NodeSettings) (done later : List UInt64), settings.fault? = none →
      (∀ answer ∈ (settings.freshFollower.stepEach settings.freshNode done).1,
        answer.isOk = true) →
      ((Follower.chain later).map Header.id).Nodup →
      settings.follower.l1StartHeight.toNat +
        (later.length - 1) / settings.follower.l1Interval.toNat < UInt64.size →
      let kept := (settings.freshFollower.stepEach settings.freshNode done).2.2
      let second := settings.freshFollower.stepEach kept later
      (∀ answer ∈ second.1, answer.isOk = true) ∧ Linked second.2.2.window.headers ∧
        second.2.2.halted = false := by
  intro hall
  obtain ⟨-, -, hrunning⟩ := hall .standard [5] [7] NodeSettings.fault?_standard (by decide +kernel)
    (by decide +kernel) (by decide)
  revert hrunning
  decide +kernel

end NodeInstance

end ChainView
