import ChainView.Http.Message
import ChainView.Settings.Gateway

/-!
# Calls from other origins

The headers by which a browser learns whether a page of another origin may call the gateway.  An
origin is granted if all are, or if it is listed; entries of the policy that could not stand in a
header are ignored.  The question of a browser, which it asks by the method OPTIONS, is answered
before anything else.
-/

namespace ChainView.OriginPolicy

open Http

/-- What every response depends on beside the path. -/
def varyValue : String :=
  "origin, access-control-request-method, access-control-request-headers"

/-- The origin that is granted to a request from `origin`. -/
def granted? (p : OriginPolicy) (origin : Option String) : Option String :=
  if p.enabled then
    if p.origins.contains any then some any
    else origin.filter fun o => isFieldValue o && p.origins.contains o
  else none

/-- The methods that are granted. -/
def grantedMethods (p : OriginPolicy) : List String :=
  p.methods.filter isToken

/-- The headers that are granted. -/
def grantedHeaders (p : OriginPolicy) : List String :=
  if p.headers.contains any then [any] else (p.headers.filter isToken).map Ascii.lowercase

/-- A header that lists texts, unless there are none. -/
def listField (name : String) (texts : List String) : List Field :=
  if texts.isEmpty then [] else [(name, ",".intercalate texts)]

/-- The headers of every response to a request from `origin`. -/
def commonFields (p : OriginPolicy) (origin : Option String) : List Field :=
  [("vary", varyValue)] ++
    match p.granted? origin with
    | some o => [("access-control-allow-origin", o)]
    | none => []

/-- The further headers of the answer to a browser that asks. -/
def preflightFields (p : OriginPolicy) : List Field :=
  if p.enabled then
    listField "access-control-allow-methods" p.grantedMethods ++
      listField "access-control-allow-headers" p.grantedHeaders ++
      [("access-control-max-age", toString p.maxAge)]
  else []

/-- An origin is granted exactly if the policy is enabled and grants all, or lists it. -/
theorem granted?_eq_some_iff {p : OriginPolicy} {origin : Option String} {o : String} :
    p.granted? origin = some o ↔
      p.enabled = true ∧
        ((any ∈ p.origins ∧ o = any) ∨
          (any ∉ p.origins ∧ origin = some o ∧ isFieldValue o = true ∧ o ∈ p.origins)) := by
  unfold granted?
  by_cases he : p.enabled = true
  · by_cases ha : any ∈ p.origins
    · rw [if_pos he, if_pos (List.contains_iff_mem.mpr ha)]
      exact ⟨fun h => ⟨he, .inl ⟨ha, (Option.some.inj h).symm⟩⟩,
        fun ⟨_, h⟩ => h.elim (fun h => congrArg some h.2.symm) fun h => absurd ha h.1⟩
    · rw [if_pos he, if_neg fun h => ha (List.contains_iff_mem.mp h), Option.filter_eq_some_iff,
        Bool.and_eq_true, List.contains_iff_mem]
      exact ⟨fun h => ⟨he, .inr ⟨ha, h⟩⟩, fun ⟨_, h⟩ => h.elim (fun h => absurd h.1 ha) And.right⟩
  · rw [if_neg he]
    exact ⟨nofun, fun h => absurd h.1 he⟩

end ChainView.OriginPolicy
