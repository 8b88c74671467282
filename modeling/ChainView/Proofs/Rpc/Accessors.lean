import ChainView.Proofs.Rpc.Parameters
import ChainView.Rpc.NodeMethods

/-!
# The check of parameters and the accessors

Whether a parameter is of a kind is decided twice: by the check that runs before a handler, and by
the accessor with which the handler reads the parameter.  Both decide alike, for each position and
whatever value stands there (`Parameters.word_eq_ok_iff`, `Parameters.digest_eq_ok_iff`).  So a
handler that reads its parameters as its method declares them does not fail on a parameter once the
check has passed.  Such a handler is a `Script` of readings, and the induction is along the script.
-/

namespace ChainView.Rpc

/-! ## The accessors -/

namespace Parameters

variable {ps : Parameters} {i : ℕ}

/-- A word is read where one stands. -/
lemma word_eq_ok_iff {n : UInt64} : ps.word i = .ok n ↔ ps[i]? = some (.word n) := by
  unfold word
  cases hv : ps[i]? with
  | none => simp
  | some v =>
    rw [Option.some_inj, ← Json.Value.word?_eq_some_iff]
    cases hword : v.word? <;> simp [hword]

/-- A digest is read where a text of it stands. -/
lemma digest_eq_ok_iff {d : Digest} :
    ps.digest i = .ok d ↔ ∃ s, ps[i]? = some (.string s) ∧ Digest.ofHex s = .ok d := by
  unfold digest
  cases hv : ps[i]? with
  | none => simp
  | some v =>
    cases v with
    | string s => cases hs : Digest.ofHex s <;> simp [Json.Value.string?, hs]
    | _ => simp [Json.Value.string?]

/-- The value at a position is of the kind of words exactly if a word is read there. -/
lemma accepts_word_iff :
    (∃ v, ps[i]? = some v ∧ ParameterKind.word.accepts v = true) ↔ ∃ n, ps.word i = .ok n := by
  simp only [ParameterKind.accepts_eq_true_iff, word_eq_ok_iff]
  constructor
  · rintro ⟨v, hv, n, rfl⟩
    exact ⟨n, hv⟩
  · rintro ⟨n, hv⟩
    exact ⟨_, hv, ParameterKind.admits_word n⟩

/-- The value at a position is of the kind of digests exactly if a digest is read there. -/
lemma accepts_digest_iff :
    (∃ v, ps[i]? = some v ∧ ParameterKind.digest.accepts v = true) ↔ ∃ d, ps.digest i = .ok d := by
  simp only [ParameterKind.accepts_eq_true_iff, digest_eq_ok_iff]
  constructor
  · rintro ⟨v, hv, s, d, rfl, hs⟩
    exact ⟨d, s, hv, hs⟩
  · rintro ⟨d, s, hv, hs⟩
    exact ⟨_, hv, ParameterKind.admits_digest hs⟩

end Parameters

/-! ## The check -/

/-- The value at a position is not of the kind that is asked for there. -/
def MismatchAt (kinds : List ParameterKind) (ps : Parameters) (i : ℕ) (kind : ParameterKind) :
    Prop :=
  kinds[i]? = some kind ∧ ∃ v, ps[i]? = some v ∧ kind.accepts v = false

/-- At the first position there is a mismatch if the first value is not of the first kind. -/
lemma mismatchAt_zero_iff {kind k : ParameterKind} {kinds : List ParameterKind} {v : Json.Value}
    {vs : Parameters} :
    MismatchAt (kind :: kinds) (v :: vs) 0 k ↔ kind = k ∧ kind.accepts v = false := by
  simp only [MismatchAt, List.getElem?_cons_zero, Option.some_inj, exists_eq_left']
  constructor
  · rintro ⟨rfl, h⟩
    exact ⟨rfl, h⟩
  · rintro ⟨rfl, h⟩
    exact ⟨rfl, h⟩

/-- The mismatch that is found is the first one; its position is counted from the start. -/
lemma firstMismatch_eq_some_iff {index position : ℕ} {kinds : List ParameterKind}
    {ps : Parameters} {kind : ParameterKind} :
    firstMismatch index kinds ps = some (position, kind) ↔
      ∃ i, position = index + i ∧ MismatchAt kinds ps i kind ∧
        ∀ j < i, ∀ k, ¬ MismatchAt kinds ps j k := by
  induction kinds generalizing index ps with
  | nil => simp [firstMismatch, MismatchAt]
  | cons first kinds ih =>
    cases ps with
    | nil => simp [firstMismatch, MismatchAt]
    | cons v vs =>
      cases hfirst : first.accepts v with
      | true =>
        have hzero : ∀ k, ¬ MismatchAt (first :: kinds) (v :: vs) 0 k := by
          intro k hk
          rw [mismatchAt_zero_iff, hfirst] at hk
          cases hk.2
        rw [firstMismatch, if_pos hfirst, ih]
        constructor
        · rintro ⟨i, rfl, hi, hleast⟩
          refine ⟨i + 1, by omega, hi, ?_⟩
          intro j hj k
          cases j with
          | zero => exact hzero k
          | succ j => exact hleast j (Nat.lt_of_succ_lt_succ hj) k
        · rintro ⟨i, rfl, hi, hleast⟩
          cases i with
          | zero => exact absurd hi (hzero kind)
          | succ i =>
            exact ⟨i, by omega, hi, fun j hj => hleast (j + 1) (Nat.succ_lt_succ hj)⟩
      | false =>
        have hrefused : ¬ first.accepts v = true := by simp [hfirst]
        rw [firstMismatch, if_neg hrefused, Option.some_inj, Prod.mk.injEq]
        constructor
        · rintro ⟨rfl, rfl⟩
          exact ⟨0, rfl, mismatchAt_zero_iff.mpr ⟨rfl, hfirst⟩, by simp⟩
        · rintro ⟨i, rfl, hi, hleast⟩
          cases i with
          | zero => exact ⟨rfl, (mismatchAt_zero_iff.mp hi).1⟩
          | succ i =>
            exact absurd (mismatchAt_zero_iff.mpr ⟨rfl, hfirst⟩) (hleast 0 (Nat.succ_pos i) first)

namespace Method

variable {γ : Type} (m : Method γ) (ps : Parameters)

/-- The check passes as many parameters as are asked for, if each is of its kind. -/
lemma checkParameters_eq_ok_iff_accepts :
    m.checkParameters ps = .ok () ↔ ps.length = m.params.length ∧
      ∀ (i : ℕ) (kind : ParameterKind) (v : Json.Value),
        m.params[i]? = some kind → ps[i]? = some v → kind.accepts v = true := by
  rw [checkParameters_eq_ok_iff, Misfit, not_or, not_not]
  simp only [not_exists, not_and, not_not, ParameterKind.accepts_eq_true_iff]

/-- The check complains of the number of parameters first, and then of the first mismatch. -/
lemma checkParameters_eq_error_iff {mismatch : Mismatch} :
    m.checkParameters ps = .error mismatch ↔
      (ps.length ≠ m.params.length ∧ mismatch = .count m.name m.params.length ps.length) ∨
      (ps.length = m.params.length ∧ ∃ i kind, mismatch = .kind i kind ∧
        MismatchAt m.params ps i kind ∧ ∀ j < i, ∀ k, ¬ MismatchAt m.params ps j k) := by
  have hfirst : ∀ i kind, firstMismatch 0 m.params ps = some (i, kind) ↔
      MismatchAt m.params ps i kind ∧ ∀ j < i, ∀ k, ¬ MismatchAt m.params ps j k := by
    intro i kind
    rw [firstMismatch_eq_some_iff]
    simp
  unfold checkParameters
  by_cases hlength : ps.length = m.params.length
  · simp only [← hfirst, hlength, ne_eq, not_true, false_and, false_or, true_and, if_false]
    cases hfound : firstMismatch 0 m.params ps with
    | none => simp
    | some found => simp [Prod.ext_iff, eq_comm]
  · simp [hlength, eq_comm]

end Method

/-! ## Handlers that read what is declared -/

/-- How a handler uses its parameters: it reads them one after the other, each as the kind at its
position says, and goes on with what it has read.  What it ends with is no complaint about a
parameter, so only its readings can fail on one. -/
inductive Script (kinds : List ParameterKind) where
  /-- The handler reads no further parameter. -/
  | done (outcome : Outcome) (h : ∀ why, outcome ≠ .failed (.unfit why))
  /-- The handler reads a word. -/
  | word (index : ℕ) (h : kinds[index]? = some .word) (next : UInt64 → Script kinds)
  /-- The handler reads a digest. -/
  | digest (index : ℕ) (h : kinds[index]? = some .digest) (next : Digest → Script kinds)

/-- What comes of a reading and of what follows it, unless the reading fails. -/
def Outcome.after {α : Type} (reading : Except Failure α) (next : α → Outcome) : Outcome :=
  match reading with
  | .ok a => next a
  | .error e => .failed e

/-- What comes of a script; the first reading that fails ends it. -/
def Script.run {kinds : List ParameterKind} : Script kinds → Parameters → Outcome
  | .done outcome _, _ => outcome
  | .word index _ next, ps => .after (ps.word index) fun n => (next n).run ps
  | .digest index _ next, ps => .after (ps.digest index) fun d => (next d).run ps

/-- A method reads its parameters as it declares them: in each context its handler runs a script. -/
def Method.ReadsDeclared {γ : Type} (m : Method γ) : Prop :=
  ∀ context, ∃ script : Script m.params, ∀ ps, m.handler context ps = script.run ps

/-- A script does not fail on parameters that are of their kinds. -/
lemma Script.run_ne_unfit {kinds : List ParameterKind} {ps : Parameters}
    (hlength : ps.length = kinds.length)
    (haccepts : ∀ (i : ℕ) (kind : ParameterKind) (v : Json.Value),
      kinds[i]? = some kind → ps[i]? = some v → kind.accepts v = true)
    (script : Script kinds) (why : String) : script.run ps ≠ .failed (.unfit why) := by
  -- Where a kind is declared there is a value of it.
  have hvalue : ∀ {index : ℕ} {kind : ParameterKind}, kinds[index]? = some kind →
      ∃ v, ps[index]? = some v ∧ kind.accepts v = true := by
    intro index kind hkind
    obtain ⟨hlt, -⟩ := List.getElem?_eq_some_iff.mp hkind
    obtain ⟨v, hv⟩ : ∃ v, ps[index]? = some v :=
      ⟨_, List.getElem?_eq_getElem (hlength ▸ hlt)⟩
    exact ⟨v, hv, haccepts index kind v hkind hv⟩
  induction script with
  | done outcome h => exact h why
  | word index h next ih =>
    obtain ⟨n, hn⟩ := Parameters.accepts_word_iff.mp (hvalue h)
    rw [run, hn]
    exact ih n
  | digest index h next ih =>
    obtain ⟨d, hd⟩ := Parameters.accepts_digest_iff.mp (hvalue h)
    rw [run, hd]
    exact ih d

/-- A method without parameters reads none. -/
lemma readsDeclared_reading (name description : String) (read : NodeView → Json.Value) :
    (reading name description read).ReadsDeclared := fun view =>
  ⟨.done (.value (read view).sortKeys) (by simp), fun _ => rfl⟩

/-- A method with one parameter reads it as declared, if its accessor is the one of the kind and its
answer is no complaint about the parameter. -/
lemma readsDeclared_asking {α : Type} {kind : ParameterKind} {get : Parameters → Except Failure α}
    (name description : String) (answer : NodeView → α → Except Failure Json.Value)
    (readFirst : (α → Script [kind]) → Script [kind])
    (hrun : ∀ next ps, (readFirst next).run ps = .after (get ps) fun a => (next a).run ps)
    (hanswer : ∀ view a why, answer view a ≠ .error (.unfit why)) :
    (asking name description kind get answer).ReadsDeclared := by
  intro view
  have hlast : ∀ a why,
      Outcome.ofExcept ((answer view a).map Json.Value.sortKeys) ≠ .failed (.unfit why) := by
    intro a why hfails
    cases ha : answer view a with
    | ok v => simp [ha, Outcome.ofExcept, Except.map] at hfails
    | error e =>
      obtain rfl : e = .unfit why := by simpa [ha, Outcome.ofExcept, Except.map] using hfails
      exact hanswer view a why ha
  refine ⟨readFirst fun a => .done _ (hlast a), fun ps => ?_⟩
  refine Eq.trans ?_ (hrun _ ps).symm
  simp only [asking, Script.run]
  cases get ps with
  | error e => rfl
  | ok a => cases h : answer view a <;> simp [h, Outcome.after, Outcome.ofExcept, Except.map]

/-- What is not found is no complaint about a parameter. -/
lemma found_map_ne_unfit {α : Type} (what : String) (found : Option α)
    (toJson : α → Json.Value) (why : String) :
    (NodeView.found what found).map toJson ≠ .error (.unfit why) := by
  cases found <;> simp [NodeView.found, Except.map]

/-- The methods of the node read their parameters as they declare them. -/
lemma readsDeclared_nodeMethods : ∀ m ∈ nodeMethods, m.ReadsDeclared := by
  have hword : ∀ (name description : String)
      (answer : NodeView → UInt64 → Except Failure Json.Value),
      (∀ view n why, answer view n ≠ .error (.unfit why)) →
        (asking name description .word (Parameters.word · 0) answer).ReadsDeclared :=
    fun name description answer =>
      readsDeclared_asking name description answer (.word 0 rfl) fun _ _ => rfl
  have hdigest : ∀ (name description : String)
      (answer : NodeView → Digest → Except Failure Json.Value),
      (∀ view d why, answer view d ≠ .error (.unfit why)) →
        (asking name description .digest (Parameters.digest · 0) answer).ReadsDeclared :=
    fun name description answer =>
      readsDeclared_asking name description answer (.digest 0 rfl) fun _ _ => rfl
  simp only [nodeMethods, List.forall_mem_cons]
  exact ⟨readsDeclared_reading _ _ _, readsDeclared_reading _ _ _, readsDeclared_reading _ _ _,
    readsDeclared_reading _ _ _, hword _ _ _ fun _ _ => found_map_ne_unfit _ _ _,
    readsDeclared_reading _ _ _, readsDeclared_reading _ _ _, hword _ _ _ (by simp),
    hword _ _ _ fun _ _ => found_map_ne_unfit _ _ _,
    hdigest _ _ _ fun _ _ => found_map_ne_unfit _ _ _, List.forall_mem_nil _⟩

/-- The check of parameters and the accessors agree, whatever kinds a method asks for and whatever
values it is given.  The check passes exactly if there are as many values as kinds and every value
is of the kind at its position.  At each position the value is of the kind of words exactly if a
word is read there, and of the kind of digests exactly if a digest is read there; so a handler that
reads its parameters as its method declares them, and makes no complaint of its own about them,
never fails on a parameter behind the check.  If the check refuses parameters, it complains of their
number if that is another one than that of the kinds, and else it names the position of the first
value that is not of its kind. -/
theorem check_agrees_with_accessors {γ : Type} (m : Method γ) (ps : Parameters) :
    (m.checkParameters ps = .ok () ↔ ps.length = m.params.length ∧
      ∀ (i : ℕ) (kind : ParameterKind) (v : Json.Value),
        m.params[i]? = some kind → ps[i]? = some v → kind.accepts v = true) ∧
    (∀ i, ((∃ v, ps[i]? = some v ∧ ParameterKind.word.accepts v = true) ↔
        ∃ n, ps.word i = .ok n) ∧
      ((∃ v, ps[i]? = some v ∧ ParameterKind.digest.accepts v = true) ↔
        ∃ d, ps.digest i = .ok d)) ∧
    (m.ReadsDeclared → m.checkParameters ps = .ok () →
      ∀ context why, m.handler context ps ≠ .failed (.unfit why)) ∧
    (∀ mismatch, m.checkParameters ps = .error mismatch ↔
      (ps.length ≠ m.params.length ∧ mismatch = .count m.name m.params.length ps.length) ∨
      (ps.length = m.params.length ∧ ∃ i kind, mismatch = .kind i kind ∧
        MismatchAt m.params ps i kind ∧ ∀ j < i, ∀ k, ¬ MismatchAt m.params ps j k)) := by
  refine ⟨m.checkParameters_eq_ok_iff_accepts ps,
    fun i => ⟨Parameters.accepts_word_iff, Parameters.accepts_digest_iff⟩, ?_,
    fun mismatch => m.checkParameters_eq_error_iff ps⟩
  intro hreads hcheck context why
  obtain ⟨hlength, haccepts⟩ := (m.checkParameters_eq_ok_iff_accepts ps).mp hcheck
  obtain ⟨script, hscript⟩ := hreads context
  rw [hscript]
  exact script.run_ne_unfit hlength haccepts why

/-- The theorem for the method of the node that asks for an id, which is given in uppercase behind a
mark, and for a method of three parameters, the last two of which are not of their kinds. -/
theorem check_agrees_with_accessors_of_marked_id :
    let byId := asking "strata_getHeaderById" "Block header with a given block id" .digest
      (Parameters.digest · 0) fun view id => (view.headerWithId id).map Header.toJson
    let text := "0xABABABABABABABABABABABABABABABABABABABABABABABABABABABABABABABAB"
    let ps : Parameters := [.string text]
    let view : NodeView := ⟨Node.create ⟨4, 4⟩ "signet", 1, 5000⟩
    let m : Method Unit := ⟨"m", [.word, .digest, .word], "", fun _ _ => .value .null⟩
    byId ∈ nodeMethods ∧ byId.ReadsDeclared ∧ byId.checkParameters ps = .ok () ∧
      byId.handler view ps ≠ .failed (.unfit "") ∧
      m.checkParameters [.word 18446744073709551615, .string "0x", .null] =
        .error (.kind 1 .digest) := by
  intro byId text ps view m
  have hmem : byId ∈ nodeMethods := by simp [byId, nodeMethods]
  have hreads : byId.ReadsDeclared := readsDeclared_nodeMethods byId hmem
  have hcheck : byId.checkParameters ps = .ok () := by decide +kernel
  obtain ⟨-, -, hhandler, -⟩ := check_agrees_with_accessors byId ps
  obtain ⟨-, -, -, hfirst⟩ := check_agrees_with_accessors m
    [.word 18446744073709551615, .string "0x", .null]
  refine ⟨hmem, hreads, hcheck, hhandler hreads hcheck view "", ?_⟩
  have hrefused : MismatchAt m.params [.word 18446744073709551615, .string "0x", .null] 1 .digest :=
    ⟨rfl, .string "0x", rfl, by decide⟩
  refine (hfirst _).mpr (.inr ⟨rfl, 1, .digest, rfl, hrefused, ?_⟩)
  intro j hj k
  obtain rfl : j = 0 := Nat.lt_one_iff.mp hj
  rintro ⟨hk, v, hv, hne⟩
  obtain rfl : .word = k := Option.some.inj hk
  obtain rfl : .word 18446744073709551615 = v := Option.some.inj hv
  exact absurd hne (by decide)

end ChainView.Rpc
