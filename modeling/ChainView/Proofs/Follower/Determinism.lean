import ChainView.Proofs.Follower.FailStop
import ChainView.Proofs.Follower.L1Views

/-!
# What the chain of a follower depends on

A follower reports to whatever takes in reports: a node, or anything else that answers each report
by taking it in or refusing it.  `Follower.stepInto` is a step into any such `Target`; into a node
it is the step of the follower (`Follower.stepInto_ingest`).

A target can do no more than refuse.  So the blocks of steps that succeed are those of the chain of
their times (`Follower.answers_eq_chainFrom`), and two followers that make blocks at the same times
make the same blocks, whatever their settings, networks and targets are.

The L1 chain is kept apart from that one.  `Follower.numberL1` reads the L1 blocks off what a target
was told, each with the number of those that had come before.  A block brings the L1 block of its
number on top of the height of the first one or none, so the number alone says which it is, in every
run and whichever of its steps fail (`Follower.L1Numbered`).
-/

namespace ChainView

/-- Something that takes in reports: the answer to a report, and what becomes of it. -/
abbrev Target (τ : Type) : Type := τ → Report → Except ReportFault Receipt × τ

/-- Reports with the answers to them, the first one first. -/
abbrev Told : Type := List (Report × Except ReportFault Receipt)

namespace Target

variable {τ : Type}

/-- Tells a target reports one after the other, until it refuses one. -/
def tell (target : Target τ) (t : τ) : List Report → Except ReportFault Unit × τ
  | [] => (.ok (), t)
  | r :: rest =>
    match target t r with
    | (.error e, u) => (.error e, u)
    | (.ok _, u) => target.tell u rest

/-- A target that also writes down what it is told and what it answers. -/
def logged (target : Target τ) : Target (τ × Told) := fun (t, log) r =>
  ((target t r).1, (target t r).2, log ++ [(r, (target t r).1)])

/-- What a target is told of reports, until it refuses one. -/
def told (target : Target τ) (t : τ) : List Report → Told
  | [] => []
  | r :: rest =>
    match target t r with
    | (.error e, _) => [(r, .error e)]
    | (.ok receipt, u) => (r, .ok receipt) :: target.told u rest

/-- A target that writes down what it is told goes on as it would without. -/
lemma tell_logged (target : Target τ) (t : τ) (log : Told) (rs : List Report) :
    target.logged.tell (t, log) rs =
      ((target.tell t rs).1, (target.tell t rs).2, log ++ target.told t rs) := by
  induction rs generalizing t log with
  | nil => simp [tell, told]
  | cons r rest ih =>
    rcases hanswer : target t r with ⟨_ | _, u⟩ <;> simp [tell, told, logged, hanswer, ih]

/-- A node that is told reports none of which it refuses takes them all in. -/
lemma tell_ingest {n : Node} {rs : List Report}
    (h : ∀ (m : Node) (r : Report), r ∈ rs → ∃ receipt, (m.ingest r).1 = .ok receipt) :
    tell Node.ingest n rs = (.ok (), (n.ingestAll rs).2) := by
  induction rs generalizing n with
  | nil => rfl
  | cons r rest ih =>
    obtain ⟨receipt, hreceipt⟩ := h n r List.mem_cons_self
    have hingest : n.ingest r = (.ok receipt, (n.ingest r).2) := Prod.ext hreceipt rfl
    rw [tell, hingest]
    exact ih fun m r hr => h m r (List.mem_cons_of_mem _ hr)

end Target

namespace Follower

variable {τ : Type} (target : Target τ)

/-! ## Steps into a target -/

/-- Makes the next block at a time and reports it to a target: the header, the L1 block that comes
with it, if one does, and last the status.  The follower holds the block, and the L1 block, only if
they are not refused and there are heights for them. -/
def stepInto (f : Follower) (t : τ) (time : UInt64) : Except StepFault Header × Follower × τ :=
  match f.nextBlock? time with
  | none => (.error .overflow, f, t)
  | some h =>
    match target.tell t (.header h :: f.l1Reports h.index time) with
    | (.error e, t) => (.error (.refused e), f, t)
    | (.ok (), t) =>
      if f.overflowsL1 h.index then (.error .overflow, f, t)
      else
        match target t (.status ((f.holding h).status h)) with
        | (.error e, t) => (.error (.refused e), f.holding h, t)
        | (.ok _, t) => (.ok h, { f.holding h with tip := some h }, t)

/-- Makes blocks at a sequence of times, refused or not, and gives the answer to each. -/
def stepEachInto (f : Follower) (t : τ) :
    List UInt64 → List (Except StepFault Header) × Follower × τ
  | [] => ([], f, t)
  | time :: rest =>
    let (answer, g, u) := f.stepInto target t time
    let (answers, last) := g.stepEachInto u rest
    (answer :: answers, last)

/-- The ways in which a step into a target can end: the answer, the follower and the target behind
it. -/
inductive StepsInto (f : Follower) (t : τ) (time : UInt64) :
    Except StepFault Header → Follower → τ → Prop
  /-- There is no height for the block. -/
  | overflows (hnext : f.nextBlock? time = none) : StepsInto f t time (.error .overflow) f t
  /-- The header or a report of the L1 block is refused. -/
  | headerRefused {h : Header} {e : ReportFault} {u : τ} (hnext : f.nextBlock? time = some h)
      (htell : target.tell t (.header h :: f.l1Reports h.index time) = (.error e, u)) :
      StepsInto f t time (.error (.refused e)) f u
  /-- The header is taken in, and there is no height for the L1 block. -/
  | l1Overflows {h : Header} {u : τ} (hnext : f.nextBlock? time = some h)
      (htell : target.tell t (.header h :: f.l1Reports h.index time) = (.ok (), u))
      (hl1 : f.overflowsL1 h.index = true) : StepsInto f t time (.error .overflow) f u
  /-- They are taken in, and the status is refused. -/
  | statusRefused {h : Header} {e : ReportFault} {u v : τ} (hnext : f.nextBlock? time = some h)
      (htell : target.tell t (.header h :: f.l1Reports h.index time) = (.ok (), u))
      (hl1 : f.overflowsL1 h.index = false)
      (hstatus : target u (.status ((f.holding h).status h)) = (.error e, v)) :
      StepsInto f t time (.error (.refused e)) (f.holding h) v
  /-- Everything is taken in. -/
  | made {h : Header} {receipt : Receipt} {u v : τ} (hnext : f.nextBlock? time = some h)
      (htell : target.tell t (.header h :: f.l1Reports h.index time) = (.ok (), u))
      (hl1 : f.overflowsL1 h.index = false)
      (hstatus : target u (.status ((f.holding h).status h)) = (.ok receipt, v)) :
      StepsInto f t time (.ok h) { f.holding h with tip := some h } v

/-- A step into a target ends in one of these ways. -/
lemma stepsInto_stepInto (f : Follower) (t : τ) (time : UInt64) :
    f.StepsInto target t time (f.stepInto target t time).1 (f.stepInto target t time).2.1
      (f.stepInto target t time).2.2 := by
  cases hnext : f.nextBlock? time with
  | none =>
    simp only [stepInto, hnext]
    exact .overflows hnext
  | some h =>
    rcases htell : target.tell t (.header h :: f.l1Reports h.index time) with ⟨_ | _, u⟩
    · simp only [stepInto, hnext, htell]
      exact .headerRefused hnext htell
    · cases hl1 : f.overflowsL1 h.index with
      | true =>
        simp only [stepInto, hnext, htell, hl1, if_true]
        exact .l1Overflows hnext htell hl1
      | false =>
        rcases hstatus : target u (.status ((f.holding h).status h)) with ⟨_ | _, v⟩
        · simp only [stepInto, hnext, htell, hl1, hstatus, Bool.false_eq_true, if_false]
          exact .statusRefused hnext htell hl1 hstatus
        · simp only [stepInto, hnext, htell, hl1, hstatus, Bool.false_eq_true, if_false]
          exact .made hnext htell hl1 hstatus

@[simp] lemma stepEachInto_cons (f : Follower) (t : τ) (time : UInt64) (rest : List UInt64) :
    f.stepEachInto target t (time :: rest) =
      ((f.stepInto target t time).1 ::
          ((f.stepInto target t time).2.1.stepEachInto target (f.stepInto target t time).2.2
            rest).1,
        ((f.stepInto target t time).2.1.stepEachInto target (f.stepInto target t time).2.2
          rest).2) := rfl

/-- A node refuses no report about the L1 chain. -/
lemma ingest_l1Reports (f : Follower) (index time : UInt64) (m : Node) (r : Report)
    (hr : r ∈ f.l1Reports index time) : ∃ receipt, (m.ingest r).1 = .ok receipt := by
  unfold l1Reports at hr
  split at hr
  · simp only [List.mem_cons, List.not_mem_nil, or_false] at hr
    rcases hr with rfl | rfl <;> exact ⟨_, rfl⟩
  · exact absurd hr List.not_mem_nil

/-- A step into a node is a step. -/
lemma stepInto_ingest (f : Follower) (n : Node) (time : UInt64) :
    f.stepInto Node.ingest n time = f.step n time := by
  rw [step_eq_stepAmid]
  cases hnext : f.nextBlock? time with
  | none => simp [stepInto, stepAmid, hnext]
  | some h =>
    rcases htake : n.takeHeader h with ⟨_ | _, next⟩
    · simp [stepInto, stepAmid, hnext, Target.tell, Node.ingest, htake]
    · have htell := Target.tell_ingest (n := next) (f.ingest_l1Reports h.index time)
      cases hl1 : f.overflowsL1 h.index with
      | true =>
        simp [stepInto, stepAmid, ownReports_eq hnext, hnext, Target.tell, htell, Node.ingest,
          htake, hl1]
      | false =>
        cases hstatus : (next.ingestAll (f.l1Reports h.index time)).2.takeStatus
            ((f.holding h).status h) <;>
          simp [stepInto, stepAmid, ownReports_eq hnext, hnext, Target.tell, htell, Node.ingest,
            htake, hl1, hstatus]

/-- Steps into a node are steps. -/
lemma stepEachInto_ingest (f : Follower) (n : Node) (times : List UInt64) :
    f.stepEachInto Node.ingest n times = f.stepEach n times := by
  induction times generalizing f n with
  | nil => rfl
  | cons time rest ih => rw [stepEachInto_cons, stepEach_cons, stepInto_ingest, ih]

/-! ## The chain of blocks -/

/-- The answers to steps that all succeed are the blocks of the chain of their times, on top of the
last block and from the next height on. -/
lemma answers_eq_chainFrom {f : Follower} {t : τ} {index : UInt64} {times : List UInt64}
    (hindex : ∀ next ∈ f.nextIndex?, next = index)
    (hok : ∀ answer ∈ (f.stepEachInto target t times).1, answer.isOk = true) :
    (f.stepEachInto target t times).1 = (chainFrom f.parentId index times).map .ok := by
  induction times generalizing f t index with
  | nil => rfl
  | cons time rest ih =>
    rw [stepEachInto_cons] at hok ⊢
    obtain ⟨hfirst, hlater⟩ := List.forall_mem_cons.mp hok
    have hends := f.stepsInto_stepInto target t time
    obtain ⟨answer, g, v, hstep⟩ : ∃ answer g v, f.stepInto target t time = (answer, g, v) :=
      ⟨_, _, _, rfl⟩
    rw [hstep] at hends hfirst hlater ⊢
    cases hends with
    | overflows | headerRefused | l1Overflows | statusRefused => exact absurd hfirst nofun
    | made hnext =>
      obtain ⟨height, hheight, rfl⟩ := Option.map_eq_some_iff.mp hnext
      obtain rfl : height = index := hindex height hheight
      rw [chainFrom, List.map_cons]
      refine congrArg _ (ih ?_ hlater)
      exact fun next => eq_add_one_of_wordAbove?

/-- The answers to the first steps are those to a shorter run. -/
lemma take_stepEachInto (f : Follower) (t : τ) (times : List UInt64) (k : ℕ) :
    (f.stepEachInto target t times).1.take k = (f.stepEachInto target t (times.take k)).1 := by
  induction times generalizing f t k with
  | nil => simp [stepEachInto]
  | cons time rest ih =>
    cases k with
    | zero => rfl
    | succ k => rw [stepEachInto_cons, List.take_succ_cons, List.take_succ_cons, ih,
        stepEachInto_cons]

/-- The answers to the first steps of a fresh follower, if these succeed, are the first blocks of
the chain of its times. -/
lemma take_answers_eq_chain {settings : FollowerSettings} {network : String} {t : τ}
    {times : List UInt64} {k : ℕ}
    (hok : ∀ answer ∈ ((create settings network).stepEachInto target t times).1.take k,
      answer.isOk = true) :
    ((create settings network).stepEachInto target t times).1.take k =
      (chain (times.take k)).map .ok := by
  rw [take_stepEachInto] at hok ⊢
  exact answers_eq_chainFrom target (fun next h => (Option.some.inj h).symm) hok

/-! ## What a target is told -/

/-- What a target is told in the course of a step. -/
def toldIn (f : Follower) (t : τ) (time : UInt64) : Told :=
  match f.nextBlock? time with
  | none => []
  | some h =>
    let reports := .header h :: f.l1Reports h.index time
    let status := .status ((f.holding h).status h)
    target.told t reports ++
      match target.tell t reports with
      | (.error _, _) => []
      | (.ok (), u) => if f.overflowsL1 h.index then [] else [(status, (target u status).1)]

/-- A step into a target that writes down what it is told is the step into it without. -/
lemma stepInto_logged (f : Follower) (t : τ) (log : Told) (time : UInt64) :
    f.stepInto target.logged (t, log) time =
      ((f.stepInto target t time).1, (f.stepInto target t time).2.1,
        (f.stepInto target t time).2.2, log ++ f.toldIn target t time) := by
  unfold stepInto toldIn
  cases f.nextBlock? time with
  | none => simp
  | some h =>
    dsimp only
    rw [Target.tell_logged]
    rcases target.tell t (.header h :: f.l1Reports h.index time) with ⟨_ | _, u⟩
    · simp
    · cases f.overflowsL1 h.index with
      | true => simp
      | false =>
        rcases hstatus : target u (.status ((f.holding h).status h)) with ⟨_ | _, last⟩ <;>
          simp [Target.logged, hstatus]

/-- Writing down what it is told changes no answer of a target. -/
lemma answers_logged (f : Follower) (t : τ) (log : Told) (times : List UInt64) :
    (f.stepEachInto target.logged (t, log) times).1 = (f.stepEachInto target t times).1 := by
  induction times generalizing f t log with
  | nil => rfl
  | cons time rest ih => rw [stepEachInto_cons, stepEachInto_cons, stepInto_logged, ih]

/-! ## The chain of L1 blocks -/

/-- Whether a report that was answered says that an L1 block has come.  The status of the reader is
told last of a block. -/
def bringsOne : Report × Except ReportFault Receipt → Bool
  | (.l1Status _, .ok _) => true
  | _ => false

/-- The L1 blocks that a target was told of, each with the number of those that had come before,
counted from a number on. -/
def numberL1 (count : ℕ) : Told → List (ℕ × UInt64 × Digest)
  | [] => []
  | entry :: rest =>
    let later := numberL1 (count + if bringsOne entry then 1 else 0) rest
    match entry.1 with
    | .l1Block height hash => (count, height, hash) :: later
    | _ => later

/-- The L1 block that comes behind a number of others, the first of which stands at a height. -/
def l1BlockAt (start : UInt64) (count : ℕ) : UInt64 × Digest :=
  (start + UInt64.ofNat count, l1HashAfter start (count + 1))

/-- Further reports are numbered from the number of those that have come. -/
lemma numberL1_append (count : ℕ) (first second : Told) :
    numberL1 count (first ++ second) =
      numberL1 count first ++ numberL1 (count + first.countP bringsOne) second := by
  induction first generalizing count with
  | nil => rfl
  | cons entry rest ih =>
    rw [List.cons_append, numberL1, numberL1, ih, List.countP_cons, Nat.add_assoc,
      Nat.add_comm (rest.countP bringsOne)]
    cases entry.1 <;> rfl

/-- What the reports of a step tell of the L1 chain, up to the status: of the next L1 block if of
any, and unless one of them is refused, that it has come if it comes with the block. -/
lemma numberL1_told (f : Follower) (t : τ) (h : Header) (time : UInt64) (count : ℕ) :
    let reports := .header h :: f.l1Reports h.index time
    let told := target.told t reports
    (∀ b ∈ numberL1 count told, b.1 = count ∧ f.broughtL1? h.index = some b.2) ∧
      ((target.tell t reports).1.isOk = false → told.countP bringsOne = 0) ∧
      ((target.tell t reports).1.isOk = true →
        told.countP bringsOne = (f.broughtL1? h.index).toList.length) := by
  rcases hheader : target t (.header h) with ⟨_ | _, u⟩
  · simp [Target.told, Target.tell, hheader, numberL1, bringsOne, Except.isOk, Except.toBool]
  · unfold l1Reports
    rcases hbrought : f.broughtL1? h.index with _ | ⟨height, hash⟩
    · simp [Target.told, Target.tell, hheader, numberL1, bringsOne, Except.isOk, Except.toBool]
    · rcases hblock : target u (.l1Block height hash) with ⟨_ | _, v⟩
      · simp [Target.told, Target.tell, hheader, hblock, numberL1, bringsOne, Except.isOk,
          Except.toBool]
      · rcases hstatus : target v (.l1Status (f.l1Status height hash time)) with ⟨_ | _, w⟩ <;>
          simp [Target.told, Target.tell, hheader, hblock, hstatus, numberL1, bringsOne,
            Except.isOk, Except.toBool]

/-- The L1 block that comes with a block is the next one. -/
lemma nextL1Block?_of_broughtL1? {f : Follower} {index : UInt64} {b : UInt64 × Digest}
    (hbrought : f.broughtL1? index = some b) : f.nextL1Block? = some b := by
  unfold broughtL1? at hbrought
  split at hbrought
  · exact hbrought
  · cases hbrought

/-- A follower that holds a block has moved on to the L1 block that comes with it, if one does. -/
lemma l1_holding (f : Follower) (h : Header) :
    f.broughtL1? h.index = none ∧ (f.holding h).nextL1Height? = f.nextL1Height? ∧
        (f.holding h).l1Tip = f.l1Tip ∨
      ∃ b, f.broughtL1? h.index = some b ∧ (f.holding h).nextL1Height? = wordAbove? b.1 ∧
        (f.holding h).l1Tip = b.2 := by
  unfold holding withL1
  rcases hbrought : f.broughtL1? h.index with _ | b
  · exact .inl ⟨rfl, rfl, rfl⟩
  · exact .inr ⟨b, rfl, rfl, rfl⟩

/-- What is told in a step from a follower to another tells of the next L1 block, if of any, and the
follower moves on to the one behind it exactly if it has come. -/
structure TellsL1 (f g : Follower) (told : Told) : Prop where
  /-- An L1 block that is told of is the next one. -/
  block_eq : ∀ count, ∀ b ∈ numberL1 count told, b.1 = count ∧ f.nextL1Block? = some b.2
  /-- None has come, and the follower waits for it, or it has, and the follower goes on. -/
  moves : told.countP bringsOne = 0 ∧ g.nextL1Height? = f.nextL1Height? ∧ g.l1Tip = f.l1Tip ∨
    told.countP bringsOne = 1 ∧ ∃ b, f.nextL1Block? = some b ∧
      g.nextL1Height? = wordAbove? b.1 ∧ g.l1Tip = b.2

/-- If a header and the reports of the L1 block are taken in, the status behind them tells nothing
more of the L1 chain, and a follower that holds the block has moved on. -/
lemma tellsL1_of_taken {f g : Follower} {t u : τ} {h : Header} {time : UInt64}
    (htell : target.tell t (.header h :: f.l1Reports h.index time) = (.ok (), u))
    (hheight : g.nextL1Height? = (f.holding h).nextL1Height?)
    (htip : g.l1Tip = (f.holding h).l1Tip) (status : ClientStatus)
    (answer : Except ReportFault Receipt) :
    TellsL1 f g
      (target.told t (.header h :: f.l1Reports h.index time) ++ [(.status status, answer)]) where
  block_eq count b hb := by
    obtain ⟨hblocks, -, -⟩ := numberL1_told target f t h time count
    have hmem : b ∈ numberL1 count (target.told t (.header h :: f.l1Reports h.index time)) := by
      simpa [numberL1_append, numberL1] using hb
    exact (hblocks b hmem).imp_right nextL1Block?_of_broughtL1?
  moves := by
    obtain ⟨-, -, hcount⟩ := numberL1_told target f t h time 0
    rw [htell] at hcount
    rw [List.countP_append, hcount rfl, hheight, htip]
    rcases f.l1_holding h with ⟨hnone, hsame⟩ | ⟨b, hbrought, hmoved⟩
    · exact .inl ⟨by rw [hnone]; rfl, hsame⟩
    · exact .inr ⟨by rw [hbrought]; rfl, b, nextL1Block?_of_broughtL1? hbrought, hmoved⟩

/-- What a target is told in a step tells of the next L1 block. -/
lemma tellsL1_toldIn (f : Follower) (t : τ) (time : UInt64) :
    TellsL1 f (f.stepInto target t time).2.1 (f.toldIn target t time) := by
  have hends := f.stepsInto_stepInto target t time
  obtain ⟨answer, g, v, hstep⟩ : ∃ answer g v, f.stepInto target t time = (answer, g, v) :=
    ⟨_, _, _, rfl⟩
  rw [hstep] at hends ⊢
  cases hends with
  | overflows hnext =>
    simp only [toldIn, hnext]
    exact ⟨by simp [numberL1], .inl ⟨rfl, rfl, rfl⟩⟩
  | @headerRefused h _ _ hnext htell =>
    obtain ⟨-, hcount, -⟩ := numberL1_told target _ t h time 0
    rw [htell] at hcount
    simp only [toldIn, hnext, htell, List.append_nil]
    refine ⟨fun count b hb => ?_, .inl ⟨hcount rfl, rfl, rfl⟩⟩
    exact ((numberL1_told target _ t h time count).1 b hb).imp_right nextL1Block?_of_broughtL1?
  | @l1Overflows h _ hnext htell hl1 =>
    obtain ⟨-, -, hcount⟩ := numberL1_told target _ t h time 0
    rw [htell, broughtL1?_of_overflowsL1 hl1] at hcount
    simp only [toldIn, hnext, htell, hl1, if_true, List.append_nil]
    refine ⟨fun count b hb => ?_, .inl ⟨hcount rfl, rfl, rfl⟩⟩
    exact ((numberL1_told target _ t h time count).1 b hb).imp_right nextL1Block?_of_broughtL1?
  | statusRefused hnext htell hl1 =>
    simp only [toldIn, hnext, htell, hl1, Bool.false_eq_true, if_false]
    exact tellsL1_of_taken target htell rfl rfl _ _
  | made hnext htell hl1 =>
    simp only [toldIn, hnext, htell, hl1, Bool.false_eq_true, if_false]
    refine tellsL1_of_taken target htell ?_ ?_ _ _ <;> rfl

/-- The L1 blocks that a target was told of are those that their numbers say, on top of a first one
at a height, and the follower goes on with the next number. -/
structure L1Numbered (start : UInt64) (f : Follower) (log : Told) : Prop where
  /-- The next L1 block stands above those that have come, if there is a height for it. -/
  height_eq : ∀ height ∈ f.nextL1Height?, height.toNat = start.toNat + log.countP bringsOne
  /-- It is made from the hash of the last one that has come. -/
  tip_eq : f.l1Tip = l1HashAfter start (log.countP bringsOne)
  /-- A number says which L1 block it is. -/
  block_eq : ∀ b ∈ numberL1 0 log, b.2 = l1BlockAt start b.1
  /-- The height of an L1 block is as far above that of the first one as its number says. -/
  blockHeight_eq : ∀ b ∈ numberL1 0 log, b.2.1.toNat = start.toNat + b.1

namespace L1Numbered

variable {start : UInt64} {f g : Follower} {log told : Told}

/-- A fresh follower begins with the first L1 block. -/
lemma create (settings : FollowerSettings) (network : String) :
    L1Numbered settings.l1StartHeight (.create settings network) [] where
  height_eq := by simp [nextL1Height?, Follower.create]
  tip_eq := rfl
  block_eq := by simp [numberL1]
  blockHeight_eq := by simp [numberL1]

/-- The next L1 block is the one behind those that have come. -/
lemma nextL1Block?_eq (hn : L1Numbered start f log) {b : UInt64 × Digest}
    (hnext : f.nextL1Block? = some b) :
    b = l1BlockAt start (log.countP bringsOne) ∧
      b.1.toNat = start.toNat + log.countP bringsOne := by
  obtain ⟨height, hheight, rfl⟩ := Option.map_eq_some_iff.mp hnext
  have hnat := hn.height_eq height hheight
  have hroom : start.toNat + log.countP bringsOne < UInt64.size := hnat ▸ height.toNat_lt
  have hheightEq : height = start + UInt64.ofNat (log.countP bringsOne) :=
    UInt64.toNat_inj.mp (hnat.trans (toNat_add_ofNat hroom).symm)
  refine ⟨?_, hnat⟩
  rw [hheightEq, hn.tip_eq, l1Hash_l1HashAfter]
  rfl

/-- What is told in a step has the next number. -/
lemma append (hn : L1Numbered start f log) (htells : TellsL1 f g told) :
    L1Numbered start g (log ++ told) := by
  have hmem (b : ℕ × UInt64 × Digest) (hb : b ∈ numberL1 0 (log ++ told)) :
      b ∈ numberL1 0 log ∨ b.1 = log.countP bringsOne ∧ f.nextL1Block? = some b.2 := by
    rw [numberL1_append, Nat.zero_add] at hb
    exact (List.mem_append.mp hb).imp_right (htells.block_eq _ b)
  have hcount : (log ++ told).countP bringsOne =
      log.countP bringsOne + told.countP bringsOne := List.countP_append
  refine ⟨?_, ?_, fun b hb => ?_, fun b hb => ?_⟩
  · intro height hheight
    rcases htells.moves with ⟨hzero, hsame, -⟩ | ⟨hone, b, hb, hmoved, -⟩
    · rw [hcount, hzero, Nat.add_zero]
      exact hn.height_eq height (hsame ▸ hheight)
    · rw [hmoved] at hheight
      rw [hcount, hone, wordAbove?_eq_some_iff.mp hheight, (hn.nextL1Block?_eq hb).2,
        Nat.add_assoc]
  · rcases htells.moves with ⟨hzero, -, htip⟩ | ⟨hone, b, hb, -, htip⟩
    · rw [hcount, hzero, htip, hn.tip_eq, Nat.add_zero]
    · rw [hcount, hone, htip, (hn.nextL1Block?_eq hb).1]
      rfl
  · rcases hmem b hb with hold | ⟨hnumber, hnext⟩
    · exact hn.block_eq b hold
    · rw [hnumber]
      exact (hn.nextL1Block?_eq hnext).1
  · rcases hmem b hb with hold | ⟨hnumber, hnext⟩
    · exact hn.blockHeight_eq b hold
    · rw [hnumber]
      exact (hn.nextL1Block?_eq hnext).2

/-- Steps keep the L1 blocks numbered, however they end. -/
lemma stepEachInto {τ : Type} (target : Target τ) (t : τ) (hn : L1Numbered start f log)
    (times : List UInt64) :
    let behind := f.stepEachInto target.logged (t, log) times
    L1Numbered start behind.2.1 behind.2.2.2 := by
  induction times generalizing f t log with
  | nil => exact hn
  | cons time rest ih =>
    rw [stepEachInto_cons, stepInto_logged]
    exact ih (f.stepInto target t time).2.2 (hn.append (tellsL1_toldIn target f t time))

end L1Numbered

/-- A node takes in every L1 block with the status of its reader, so in a step into it the number of
the L1 block is that of the ones it was told of before. -/
lemma numbers_toldIn_ingest (f : Follower) (n : Node) (time : UInt64) (count : ℕ) :
    let told := f.toldIn Node.ingest n time
    (numberL1 count told).map Prod.fst = List.range' count (told.countP bringsOne) := by
  intro told
  cases hnext : f.nextBlock? time with
  | none => simp [told, toldIn, hnext, numberL1]
  | some h =>
    rcases hheader : n.ingest (.header h) with ⟨_ | _, m⟩
    · simp [told, toldIn, hnext, Target.told, Target.tell, hheader, numberL1, bringsOne]
    · have hblock (m : Node) (height : UInt64) (hash : Digest) :
          m.ingest (.l1Block height hash) =
            (.ok (.recorded (m.takeL1Block height hash).1), (m.takeL1Block height hash).2) := rfl
      have hstatus (m : Node) (s : L1Status) :
          m.ingest (.l1Status s) = (.ok .accepted, m.takeL1Status s) := rfl
      simp only [told, toldIn, hnext, l1Reports]
      cases f.broughtL1? h.index <;> cases f.overflowsL1 h.index <;>
        simp [Target.told, Target.tell, hheader, hblock, hstatus, numberL1, bringsOne,
          List.countP_cons]

/-- Over a node the L1 blocks are numbered in a row. -/
lemma numbers_ingest (f : Follower) (n : Node) (log : Told) (times : List UInt64)
    (hlog : (numberL1 0 log).map Prod.fst = List.range (log.countP bringsOne)) :
    let told := (f.stepEachInto (Target.logged Node.ingest) (n, log) times).2.2.2
    (numberL1 0 told).map Prod.fst = List.range (told.countP bringsOne) := by
  induction times generalizing f n log with
  | nil => exact hlog
  | cons time rest ih =>
    rw [stepEachInto_cons, stepInto_logged]
    refine ih _ _ _ ?_
    have hrow : List.range' 0 (log.countP bringsOne) ++
        List.range' (0 + log.countP bringsOne) ((f.toldIn Node.ingest n time).countP bringsOne) =
          List.range' 0 _ := List.range'_append_1
    rw [numberL1_append, List.map_append, hlog, numbers_toldIn_ingest, List.countP_append,
      List.range_eq_range', List.range_eq_range', hrow]

/-- The chain of a follower depends on the times of its steps alone, and its L1 chain on the height
of the first L1 block alone.

Let two fresh followers, of any settings and networks, make blocks at two sequences of times and
report to any two targets; a node is such a target.  If the times agree up to some position and all
steps up to there succeed, both followers have made the same blocks there, those of the chain of
these times; in particular this is so for the whole of one sequence.

If the settings name the same height for the first L1 block, then of the L1 blocks that the targets
are told of, those before which equally many had come are the same, at the same height and of the
same hash, and those at the same height are the same, whichever steps fail.  What a target is told
is read off what it writes down, which changes no answer.  Over a node, the number of the L1 blocks
that had come before one is the number of those it was told of before. -/
theorem chain_depends_on_times_alone {τ υ : Type} (target : Target τ) (other : Target υ) (t : τ)
    (u : υ) (settings settings' : FollowerSettings) (network network' : String)
    (times times' : List UInt64) :
    let f := create settings network
    let g := create settings' network'
    let made := (f.stepEachInto target t times).1
    let made' := (g.stepEachInto other u times').1
    let logged := f.stepEachInto target.logged (t, []) times
    let logged' := g.stepEachInto other.logged (u, []) times'
    let l1 := numberL1 0 logged.2.2.2
    let l1' := numberL1 0 logged'.2.2.2
    (∀ k, times.take k = times'.take k → (∀ answer ∈ made.take k, answer.isOk = true) →
        (∀ answer ∈ made'.take k, answer.isOk = true) →
          made.take k = made'.take k ∧ made.take k = (chain (times.take k)).map .ok) ∧
      (settings.l1StartHeight = settings'.l1StartHeight →
        (∀ b ∈ l1, ∀ b' ∈ l1', b.1 = b'.1 → b = b') ∧
          ∀ b ∈ l1, ∀ b' ∈ l1', b.2.1 = b'.2.1 → b = b') ∧
      logged.1 = made ∧
      ∀ n, f.stepEachInto Node.ingest n times = f.stepEach n times ∧
        let overNode := numberL1 0
          (f.stepEachInto (Target.logged Node.ingest) (n, []) times).2.2.2
        overNode.map Prod.fst = List.range overNode.length := by
  intro f g made made' logged logged' l1 l1'
  have hl1 := (L1Numbered.create settings network).stepEachInto target t times
  have hl1' := (L1Numbered.create settings' network').stepEachInto other u times'
  refine ⟨fun k htimes hok hok' => ?_, fun hstart => ⟨?_, ?_⟩, answers_logged target f t [] times,
    fun n => ⟨f.stepEachInto_ingest n times, ?_⟩⟩
  · have hmade : made.take k = (chain (times.take k)).map .ok := take_answers_eq_chain target hok
    have hmade' : made'.take k = (chain (times'.take k)).map .ok :=
      take_answers_eq_chain other hok'
    exact ⟨by rw [hmade, hmade', htimes], hmade⟩
  · intro b hb b' hb' hnumber
    refine Prod.ext hnumber ?_
    rw [hl1.block_eq b hb, hl1'.block_eq b' hb', hstart, hnumber]
  · intro b hb b' hb' hheight
    have hnat := hl1.blockHeight_eq b hb
    rw [hheight, hl1'.blockHeight_eq b' hb', hstart] at hnat
    have hnumber : b.1 = b'.1 := (Nat.add_left_cancel hnat).symm
    refine Prod.ext hnumber ?_
    rw [hl1.block_eq b hb, hl1'.block_eq b' hb', hstart, hnumber]
  · have hrow := numbers_ingest f n [] times rfl
    have hlength := congrArg List.length hrow
    rw [List.length_map, List.length_range] at hlength
    intro overNode
    rw [hlength]
    exact hrow

/-- A follower over a node and one of other settings and another network that reports to something
that takes in everything make the same two blocks at the same two times, and agree on the L1 block
at the height above the first one, which comes with the second block of the one and with the third
of the other. -/
theorem chain_depends_on_times_alone_over_node_and_sink :
    let sink : Target Unit := fun _ _ => (.ok .accepted, ())
    let node := Node.create ⟨2, 1⟩ "signet"
    let f := create ⟨true, 1, 1, 6, 3⟩ "signet"
    let g := create ⟨false, 9, 2, 0, 3⟩ "regtest"
    let l1 := numberL1 0 (f.stepEachInto (Target.logged Node.ingest) (node, []) [7, 9]).2.2.2
    let l1' := numberL1 0 (g.stepEachInto sink.logged ((), []) [7, 9, 11]).2.2.2
    (f.stepEachInto Node.ingest node [7, 9]).1.take 2 =
        (g.stepEachInto sink () [7, 9, 11]).1.take 2 ∧
      ∀ b ∈ l1, ∀ b' ∈ l1', b.2.1 = 4 → b'.2.1 = 4 → b.2.2 = b'.2.2 := by
  have hboth := chain_depends_on_times_alone Node.ingest (fun _ _ => (.ok .accepted, ()))
    (Node.create ⟨2, 1⟩ "signet") () ⟨true, 1, 1, 6, 3⟩ ⟨false, 9, 2, 0, 3⟩ "signet" "regtest"
    [7, 9] [7, 9, 11]
  dsimp only at hboth ⊢
  obtain ⟨hmade, hl1, -, -⟩ := hboth
  refine ⟨(hmade 2 rfl (by decide +kernel) (by decide +kernel)).1, fun b hb b' hb' h h' => ?_⟩
  have hsame : b = b' := (hl1 rfl).2 b hb b' hb' (h.trans h'.symm)
  rw [hsame]

end Follower

end ChainView
