import Mathlib.Tactic.Common
import ChainView.Rpc.Method

/-!
# What fits the parameters of a method

The kinds of parameters without the functions that test them: a value is of the kind of words if it
writes one, and of the kind of digests if it is a text that reads as one.  Parameters fail to fit a
method exactly if there are too few or too many, or one is not of the kind at its position, and this
is what the check of a method finds.
-/

namespace ChainView

/-- The word that a value is, is the word whose value it is. -/
lemma Json.Value.word?_eq_some_iff {v : Json.Value} {n : UInt64} :
    v.word? = some n ↔ v = .word n := by
  cases v with
  | integer i =>
    have hiff : i.toUInt64? = some n ↔ i = .ofUInt64 n := by
      rw [Json.Integer.toUInt64?_eq_some_iff, Json.Integer.ext_iff, Json.Integer.toInt_ofUInt64]
    simpa [word?, word] using hiff
  | _ => simp [word?, word]

namespace Rpc

namespace ParameterKind

/-- A value is of a kind: it writes a word, or it is a text that reads as a digest. -/
def Admits : ParameterKind → Json.Value → Prop
  | .word, v => ∃ n, v = .word n
  | .digest, v => ∃ s d, v = .string s ∧ Digest.ofHex s = .ok d

/-- Every word is of the kind of words. -/
lemma admits_word (n : UInt64) : word.Admits (.word n) := ⟨n, rfl⟩

/-- A text that reads as a digest is of the kind of digests. -/
lemma admits_digest {s : String} {d : Digest} (hs : Digest.ofHex s = .ok d) :
    digest.Admits (.string s) := ⟨s, d, rfl, hs⟩

/-- A kind accepts the values that are of the kind. -/
lemma accepts_eq_true_iff {kind : ParameterKind} {v : Json.Value} :
    kind.accepts v = true ↔ kind.Admits v := by
  cases kind with
  | word => simp [accepts, Admits, Option.isSome_iff_exists, Json.Value.word?_eq_some_iff]
  | digest =>
    cases v with
    | string s =>
      cases hs : Digest.ofHex s <;>
        simp [accepts, Admits, Json.Value.string?, hs, Except.isOk, Except.toBool]
    | _ => simp [accepts, Admits, Json.Value.string?]

end ParameterKind

/-- Parameters do not fit the kinds asked for: there are too few or too many, or one is of another
kind than the one at its position. -/
def Misfit (kinds : List ParameterKind) (ps : Parameters) : Prop :=
  ps.length ≠ kinds.length ∨
    ∃ (i : ℕ) (kind : ParameterKind) (v : Json.Value),
      kinds[i]? = some kind ∧ ps[i]? = some v ∧ ¬ kind.Admits v

/-- If no parameter is asked for, only none fits. -/
lemma eq_nil_of_not_misfit {ps : Parameters} (hfit : ¬ Misfit [] ps) : ps = [] := by
  by_contra hne
  exact hfit (.inl (by simpa using hne))

/-- If one parameter is asked for, only a single one fits. -/
lemma eq_singleton_of_not_misfit {kind : ParameterKind} {ps : Parameters}
    (hfit : ¬ Misfit [kind] ps) : ∃ v, ps = [v] := by
  by_contra hnone
  refine hfit (.inl ?_)
  intro hlength
  exact hnone (List.length_eq_one_iff.mp hlength)

/-- A single parameter fits if it is of the kind asked for. -/
lemma not_misfit_singleton_iff {kind : ParameterKind} {v : Json.Value} :
    ¬ Misfit [kind] [v] ↔ kind.Admits v := by
  constructor
  · intro hfit
    by_contra hrefused
    exact hfit (.inr ⟨0, kind, v, rfl, rfl, hrefused⟩)
  · rintro hadmits (hlength | ⟨i, k, w, hk, hw, hrefused⟩)
    · exact hlength rfl
    · obtain ⟨rfl, rfl⟩ : i = 0 ∧ kind = k := by
        cases i with
        | zero => exact ⟨rfl, by simpa using hk⟩
        | succ i => simp at hk
      obtain rfl : v = w := by simpa using hw
      exact hrefused hadmits

/-- The word at the first position is read. -/
lemma Parameters.word_cons (n : UInt64) (ps : Parameters) :
    Parameters.word (.word n :: ps) 0 = .ok n := by
  have hword : (Json.Value.word n).word? = some n := Json.Value.word?_eq_some_iff.mpr rfl
  simp [Parameters.word, hword]

/-- The digest at the first position is read. -/
lemma Parameters.digest_cons {s : String} {d : Digest} (hs : Digest.ofHex s = .ok d)
    (ps : Parameters) : Parameters.digest (.string s :: ps) 0 = .ok d := by
  simp [Parameters.digest, Json.Value.string?, hs]

/-- There is no first mismatch if every value is of the kind at its position. -/
lemma firstMismatch_eq_none_iff {index : ℕ} {kinds : List ParameterKind} {ps : Parameters} :
    firstMismatch index kinds ps = none ↔
      ∀ (i : ℕ) (kind : ParameterKind) (v : Json.Value),
        kinds[i]? = some kind → ps[i]? = some v → kind.Admits v := by
  induction kinds generalizing index ps with
  | nil => simp [firstMismatch]
  | cons kind kinds ih =>
    cases ps with
    | nil => simp [firstMismatch]
    | cons v vs =>
      unfold firstMismatch
      split
      · rename_i haccepts
        rw [ih]
        constructor
        · intro h i k w hk hw
          cases i with
          | zero =>
            obtain rfl : kind = k := by simpa using hk
            obtain rfl : v = w := by simpa using hw
            exact ParameterKind.accepts_eq_true_iff.mp haccepts
          | succ i => exact h i k w hk hw
        · intro h i k w hk hw
          exact h (i + 1) k w hk hw
      · rename_i hrefuses
        refine iff_of_false (by simp) ?_
        intro h
        exact hrefuses (ParameterKind.accepts_eq_true_iff.mpr (h 0 kind v rfl rfl))

/-- The check of a method passes the parameters that fit. -/
lemma Method.checkParameters_eq_ok_iff {γ : Type} {m : Method γ} {ps : Parameters} :
    m.checkParameters ps = .ok () ↔ ¬ Misfit m.params ps := by
  unfold checkParameters
  by_cases hlength : ps.length = m.params.length
  · rw [if_neg (not_not.mpr hlength)]
    cases hfirst : firstMismatch 0 m.params ps with
    | none =>
      refine iff_of_true rfl ?_
      rintro (hne | ⟨i, kind, v, hkind, hv, hrefused⟩)
      · exact hne hlength
      · exact hrefused (firstMismatch_eq_none_iff.mp hfirst i kind v hkind hv)
    | some found =>
      refine iff_of_false (by simp) ?_
      intro hfit
      have hnone : firstMismatch 0 m.params ps = none := by
        refine firstMismatch_eq_none_iff.mpr ?_
        intro i kind v hkind hv
        by_contra hrefused
        exact hfit (.inr ⟨i, kind, v, hkind, hv, hrefused⟩)
      rw [hfirst] at hnone
      cases hnone
  · rw [if_pos hlength]
    exact iff_of_false (by simp) (not_not.mpr (.inl hlength))

/-- The check of a method complains of parameters that do not fit. -/
lemma Method.exists_mismatch {γ : Type} {m : Method γ} {ps : Parameters}
    (hmisfit : Misfit m.params ps) : ∃ mismatch, m.checkParameters ps = .error mismatch := by
  cases hcheck : m.checkParameters ps with
  | error mismatch => exact ⟨mismatch, rfl⟩
  | ok _ => exact absurd hmisfit (checkParameters_eq_ok_iff.mp hcheck)

end Rpc

end ChainView
