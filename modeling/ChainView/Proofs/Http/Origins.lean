import ChainView.Proofs.Http.Surface

/-!
# Origins that are granted

A browser lets a page of another origin read a response only if the response grants that origin.
Every response of the gateway is one that some route, or the question of a browser, has made, with
the headers about origins in front.  What is made there says nothing about origins
(`Server.not_grants_route`, `Server.not_grants_preflight`), so a response grants what the policy
grants to the origin of the request, and no more (`Server.grants_answer`).

Of a policy only the entry for everything and the entry for the origin of the request matter; so
further entries of other kinds leave the whole response as it is.
-/

namespace ChainView

namespace OriginPolicy

variable {p q : OriginPolicy}

/-- Policies that are both enabled or not, and that both list everything or not and the origin of
the request or not, grant the same. -/
lemma granted?_congr {origin : Option String} (henabled : p.enabled = q.enabled)
    (hany : any ∈ p.origins ↔ any ∈ q.origins)
    (horigin : ∀ o ∈ origin, o ∈ p.origins ↔ o ∈ q.origins) :
    p.granted? origin = q.granted? origin := by
  refine Option.ext fun o => ?_
  rw [granted?_eq_some_iff, granted?_eq_some_iff, henabled, hany]
  refine and_congr_right fun _ => or_congr_right (and_congr_right fun _ => ?_)
  exact and_congr_right fun hsame => and_congr_right fun _ => horigin o hsame

/-- What a policy grants is unchanged by further entries, wherever they stand, other than the one
for everything and the one for the origin of the request. -/
lemma granted?_of_perm {origin : Option String} {origins more : List String}
    (hperm : origins.Perm (p.origins ++ more)) (hany : any ∉ more)
    (horigin : ∀ o ∈ origin, o ∉ more) :
    granted? { p with origins } origin = p.granted? origin := by
  have hsame {o : String} (ho : o ∉ more) : o ∈ origins ↔ o ∈ p.origins := by
    rw [hperm.mem_iff, List.mem_append, or_iff_left ho]
  exact granted?_congr rfl (hsame hany) fun o ho => hsame (horigin o ho)

end OriginPolicy

namespace Http

/-- The name of the header that grants an origin. -/
def grantName : String := "access-control-allow-origin"

/-- The origins that a response grants. -/
def Response.grants (response : Response) : List String :=
  (response.headers.filter (·.1 = grantName)).map Prod.snd

/-- Headers of other names grant nothing. -/
lemma Response.grants_eq_nil {response : Response}
    (h : ∀ field ∈ response.headers, field.1 ≠ grantName) : response.grants = [] := by
  have hnone : response.headers.filter (·.1 = grantName) = [] :=
    List.filter_eq_nil_iff.mpr fun field hfield => by simpa using h field hfield
  rw [grants, hnone, List.map_nil]

/-- A header that lists texts has the name that is asked for. -/
lemma fst_of_mem_listField {name : String} {texts : List String} {field : Field}
    (h : field ∈ OriginPolicy.listField name texts) : field.1 = name := by
  unfold OriginPolicy.listField at h
  split_ifs at h
  · exact absurd h List.not_mem_nil
  · rw [List.mem_singleton.mp h]

namespace Server

variable (s : Server) (n : Node) (r : Request) (elapsed : UInt64)

/-- The further headers of the answer to a browser grant no origin. -/
lemma not_grants_preflight : (s.preflight r).grants = [] := by
  refine Response.grants_eq_nil fun field hfield => ?_
  rcases List.mem_append.mp hfield with hpolicy | hroute
  · unfold OriginPolicy.preflightFields at hpolicy
    split_ifs at hpolicy
    · rcases List.mem_append.mp hpolicy with hlists | hage
      · rcases List.mem_append.mp hlists with hmethods | hheaders
        · rw [fst_of_mem_listField hmethods]
          decide
        · rw [fst_of_mem_listField hheaders]
          decide
      · rw [List.mem_singleton.mp hage]
        exact (by decide : "access-control-max-age" ≠ grantName)
    · exact absurd hpolicy List.not_mem_nil
  · cases hpath : Route.ofPath? r.path with
    | none => simp [hpath] at hroute
    | some route =>
      rw [hpath, List.mem_singleton] at hroute
      rw [hroute]
      exact (by decide : "allow" ≠ grantName)

/-- What a route serves grants no origin: it has a header for the type of the body only. -/
lemma not_grants_serve (route : Route) : (s.serve n route r elapsed).1.grants = [] := by
  cases route with
  | calls =>
    change (s.call n r.body elapsed).1.grants = []
    unfold call
    split_ifs <;> rfl
  | health => rfl
  | methods => rfl
  | metrics => rfl

/-- What is answered apart from the headers about origins grants no origin. -/
lemma not_grants_route : (s.route n r elapsed).1.grants = [] := by
  unfold route
  split
  · rfl
  · rename_i route _
    split_ifs
    · have hserve := s.not_grants_serve n r elapsed route
      -- leaving out the body leaves the headers
      unfold forMethod
      split_ifs <;> exact hserve
    · rfl

/-- With the headers about origins a response that granted none grants what the policy does. -/
lemma grants_withOrigin {response : Response} (h : response.grants = []) :
    (s.withOrigin r response).grants =
      (s.settings.cors.granted? (r.header? "origin")).toList := by
  have hnone : (response.headers.filter (·.1 = grantName)).map Prod.snd = [] := h
  simp only [Response.grants, withOrigin, OriginPolicy.commonFields, List.filter_append,
    List.map_append, hnone, List.append_nil]
  cases s.settings.cors.granted? (r.header? "origin") <;> rfl

/-- A response grants what the policy grants to the origin of the request, and no more. -/
lemma grants_answer :
    (s.answer n r elapsed).1.grants =
      (s.settings.cors.granted? (r.header? "origin")).toList := by
  unfold answer
  split_ifs
  · exact s.grants_withOrigin r (s.not_grants_preflight r)
  · exact s.grants_withOrigin r (s.not_grants_route n r elapsed)

/-- A policy shows in a response by what it grants to the origin of the request and, if a browser
asks, by its further headers. -/
lemma answer_congr {cors : OriginPolicy}
    (hgranted : cors.granted? (r.header? "origin") =
      s.settings.cors.granted? (r.header? "origin"))
    (hpreflight : cors.preflightFields = s.settings.cors.preflightFields) :
    (answer { s with settings.cors := cors } n r elapsed).1 = (s.answer n r elapsed).1 := by
  have hcommon : cors.commonFields (r.header? "origin") =
      s.settings.cors.commonFields (r.header? "origin") := by
    rw [OriginPolicy.commonFields, OriginPolicy.commonFields, hgranted]
  have hroute : (route { s with settings.cors := cors } n r elapsed).1 =
      (s.route n r elapsed).1 := by
    unfold route
    split
    · rfl
    · rename_i route _
      split_ifs
      · cases route with
        | calls =>
          simp only [serve, call]
          split_ifs <;> rfl
        | health => rfl
        | methods => rfl
        | metrics => rfl
      · rfl
  unfold answer
  split_ifs
  · simp only [withOrigin, preflight, hcommon, hpreflight]
  · simp only [withOrigin, hcommon, hroute]

/-- No origin is granted that is not listed.

Whatever a server is asked, by a request from any origin or from none, its response grants one
origin at most.  It grants something exactly if the policy is enabled and either lists the entry for
everything, which is then granted, or does not and lists the very origin of the request, which is
then granted if it may stand in a header.  Further entries of the policy, wherever they stand and
whether or not they may stand in a header, leave the response as it is, as long as none of them is
the entry for everything or the origin of the request. -/
theorem unlisted_origin_is_not_granted (s : Server) (n : Node) (r : Request) (elapsed : UInt64) :
    let policy := s.settings.cors
    let response := (s.answer n r elapsed).1
    response.grants.length ≤ 1 ∧
      (∀ granted, response.grants = [granted] ↔
        policy.enabled = true ∧
          (OriginPolicy.any ∈ policy.origins ∧ granted = OriginPolicy.any ∨
            OriginPolicy.any ∉ policy.origins ∧ r.header? "origin" = some granted ∧
              granted ∈ policy.origins ∧ isFieldValue granted = true)) ∧
      ∀ origins more, origins.Perm (policy.origins ++ more) → OriginPolicy.any ∉ more →
        (∀ o ∈ r.header? "origin", o ∉ more) →
          (answer { s with settings.cors.origins := origins } n r elapsed).1 = response := by
  intro policy response
  have hgrants : response.grants = (policy.granted? (r.header? "origin")).toList :=
    s.grants_answer n r elapsed
  refine ⟨?_, fun granted => ?_, fun origins more hperm hany horigin => ?_⟩
  · rw [hgrants]
    exact Option.length_toList_le
  · rw [hgrants, Option.toList_eq_singleton_iff, OriginPolicy.granted?_eq_some_iff,
      and_comm (a := isFieldValue granted = true)]
  · have hsame : OriginPolicy.granted? { policy with origins } (r.header? "origin") =
        policy.granted? (r.header? "origin") := OriginPolicy.granted?_of_perm hperm hany horigin
    exact s.answer_congr n r elapsed hsame rfl

/-- A page of another site is not granted what the one listed site is, and would not be if two
further entries stood in front, one of which could not stand in a header. -/
theorem unlisted_origin_is_not_granted_beside_listed_site :
    let listed := ["https://app.example.com"]
    let settings := { GatewaySettings.standard with cors.origins := listed }
    let server := create settings
    let node := Node.create settings.retention "signet"
    let request : Request := ⟨"OPTIONS", "/", [("Origin", "https://evil.example")], []⟩
    let longer := ["https://other.example", "bad\norigin", "https://app.example.com"]
    (server.answer node request 0).1.grants ≠ ["https://evil.example"] ∧
      (answer { server with settings.cors.origins := longer } node request 0).1 =
        (server.answer node request 0).1 := by
  intro listed settings server node request longer
  obtain ⟨-, hgrants, hmore⟩ := unlisted_origin_is_not_granted server node request 0
  refine ⟨fun hgranted => ?_, ?_⟩
  · obtain ⟨-, ⟨hany, -⟩ | ⟨-, -, hlisted, -⟩⟩ := (hgrants _).mp hgranted
    · revert hany
      decide
    · revert hlisted
      decide
  · refine hmore longer ["https://other.example", "bad\norigin"] ?_ (by decide) (by decide)
    decide

end Server

end Http

end ChainView
