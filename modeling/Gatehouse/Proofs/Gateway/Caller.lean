import Gatehouse.Proofs.Gateway.Gate
import Mathlib.Data.List.Basic

/-!
# Callers without the token

What a caller learns who does not present the token.

* `Unaccepted` says which values of the authorization header are no credential, and `mayCall_iff` that
  every other one opens the gate;
* `unaccepted_alike`: to all who present the same value that is none, the generation routes say the
  same, and the other routes say the same to everybody.
-/

namespace Gatehouse.Gateway.Service

open Gatehouse.Text (trim isBlankText)
open Gatehouse.Gateway.Refusal (errorBody)

/-! ## 1. Credentials -/

/-- **What a request has in its authorization header is no credential for the token.** -/
inductive Unaccepted (token : String) : (value : Option String) → Prop where
  | absent : Unaccepted token none
  /-- It is not visible text. -/
  | invisible {value : String} : Http.Header.visible? value = none → Unaccepted token (some value)
  /-- It is of another kind. -/
  | otherKind {value : String} : ¬ "Bearer ".toList <+: value.toList → Unaccepted token (some value)
  /-- It is of the right kind, and presents something else. -/
  | wrong {value : String} {rest : List Char} : value.toList = "Bearer ".toList ++ rest →
      tokenDigest (trim (String.ofList rest)) ≠ tokenDigest (trim token) →
      Unaccepted token (some value)

/-- What the value of an authorization header presents. -/
def presented (value : Option String) : Option String :=
  ((value.bind Http.Header.visible?).bind (fun v =>
    ("Bearer ".toList.isPrefixOf? v.toList))).map (fun cs => trim (String.ofList cs))

theorem credential?_eq (r : Http.Request) :
    credential? r = presented (r.header? "authorization") := rfl

theorem presented_of_visible {value : String} (h : Http.Header.visible? value ≠ none) :
    presented (some value) =
      ("Bearer ".toList.isPrefixOf? value.toList).map (fun cs => trim (String.ofList cs)) := by
  have hvisible : Http.Header.visible? value = some value := by
    unfold Http.Header.visible? at h ⊢
    split
    · rfl
    · rename_i hall
      exact absurd (if_neg hall) h
  rw [presented, Option.bind_some, hvisible, Option.bind_some]

/-- A value is no credential exactly if it presents nothing, or something with another digest. -/
theorem unaccepted_iff (token : String) (value : Option String) : Unaccepted token value ↔
    ∀ t, presented value = some t → tokenDigest t ≠ tokenDigest (trim token) := by
  cases value with
  | none => exact iff_of_true .absent nofun
  | some value =>
    by_cases hvisible : Http.Header.visible? value = none
    · refine iff_of_true (.invisible hvisible) fun t ht => ?_
      rw [presented, Option.bind_some, hvisible] at ht
      cases ht
    · rw [presented_of_visible hvisible]
      cases hrest : "Bearer ".toList.isPrefixOf? value.toList with
      | none =>
        refine iff_of_true (.otherKind fun hprefix => ?_) nofun
        obtain ⟨rest, hvalue⟩ := hprefix
        rw [List.isPrefixOf?_eq_some_iff_append_eq.2 hvalue] at hrest
        cases hrest
      | some rest =>
        have hvalue : "Bearer ".toList ++ rest = value.toList :=
          List.isPrefixOf?_eq_some_iff_append_eq.1 hrest
        simp only [Option.map_some, Option.some.injEq, forall_eq']
        refine ⟨fun h => ?_, .wrong hvalue.symm⟩
        cases h with
        | invisible h => exact absurd h hvisible
        | otherKind h => exact absurd ⟨rest, hvalue⟩ h
        | wrong hvalue' hdigest =>
          obtain rfl := List.append_cancel_left (hvalue.trans hvalue')
          exact hdigest

/-- What a caller with this value is told if it is no credential. -/
def rebuff (value : Option String) : Refusal :=
  .unauthorized (if (presented value).isSome then "Invalid service token" else "Missing service token")

/-- The digest of a token that is not blank is kept. -/
theorem digest_ofConfigured {token : String} (h : isBlankText token = false) :
    (ServiceToken.ofConfigured token).digest = some (tokenDigest (trim token)) := by
  have hempty : (trim token).isEmpty = false := by
    rw [← Bool.not_eq_true, String.isEmpty_iff, trim, String.ofList_eq_empty_iff,
      Text.trimChars_eq_nil_iff]
    rw [isBlankText] at h
    simp [h]
  simp [ServiceToken.ofConfigured, hempty]

section

variable {token : String} (hblank : isBlankText token = false) (g : Gateway) (r : Http.Request)

include hblank

/-- **The gate opens for every value but those that are no credential.** -/
theorem mayCall_iff : MayCall ⟨g, .ofConfigured token⟩ r ↔
    ¬ Unaccepted token (r.header? "authorization") := by
  have hdigest := digest_ofConfigured hblank
  simp [MayCall, ServiceToken.isEnabled, ServiceToken.accepts, hdigest, unaccepted_iff,
    credential?_eq]

/-- What a caller is told depends on the value of the header alone. -/
theorem unauthorized?_of_unaccepted (h : Unaccepted token (r.header? "authorization")) :
    unauthorized? ⟨g, .ofConfigured token⟩ r = some (rebuff (r.header? "authorization")) := by
  have hdigest := digest_ofConfigured hblank
  rw [unaccepted_iff] at h
  rw [unauthorized?, credential?_eq, rebuff]
  cases hpresented : presented (r.header? "authorization") with
  | none => simp [ServiceToken.isEnabled, hdigest]
  | some t => simp [ServiceToken.isEnabled, ServiceToken.accepts, hdigest, h t hpresented]

end

/-! ## 2. Routes -/

/-- **A generation route turns such a caller away** before it looks at anything else. -/
theorem answer_of_unaccepted {token : String} (hblank : isBlankText token = false)
    {g : Gateway} {r : Http.Request} (h : Unaccepted token (r.header? "authorization"))
    (out : Outside) (route : Route) (hroute : route.isGuarded = true)
    (hmethod : r.method = "POST") (hpath : r.path = route.path) :
    answer ⟨g, .ofConfigured token⟩ out r =
      ⟨(rebuff (r.header? "authorization")).response.withHeader "access-control-allow-origin" "*",
        [], ⟨g, .ofConfigured token⟩⟩ := by
  rw [answer_of_post hroute hmethod hpath, guarded, unauthorized?_of_unaccepted hblank g r h]

/-- **The other routes look neither at headers and bodies nor at the token.** -/
theorem answer_of_open (g : Gateway) (out : Outside) (method : String) (route : Route)
    (hroute : route.isGuarded = false) : ∃ response, ∀ (token : ServiceToken) (r : Http.Request),
      r.method = method → r.path = route.path →
      answer ⟨g, token⟩ out r = ⟨response, [], ⟨g, token⟩⟩ := by
  have hserved : ∃ body, ∀ token r, serve ⟨g, token⟩ out route r = ⟨body, [], ⟨g, token⟩⟩ := by
    cases route with
    | generate => cases hroute
    | generateStream => cases hroute
    | health => exact ⟨.json 200 (health ⟨g, ⟨none⟩⟩ out.toStamp), fun _ _ => rfl⟩
    | providers => exact ⟨.json 200 (providers ⟨g, ⟨none⟩⟩), fun _ _ => rfl⟩
  obtain ⟨body, hserve⟩ := hserved
  let response : Http.Response :=
    if method == "OPTIONS" then preflight (some route)
    else if route.methods.contains method then
      if method == "HEAD" then body.headOnly else body
    else .empty 405 [allowed route]
  refine ⟨response.withHeader "access-control-allow-origin" "*", ?_⟩
  rintro token r rfl hpath
  have hfound : Route.ofPath? r.path = some route := (Route.ofPath?_eq_some_iff _ _).2 hpath
  simp only [answer, hfound, onRoute, hroute, dispatch, hserve, response, Bool.false_eq_true,
    if_false]
  split
  · rfl
  · split
    · split <;> rfl
    · rfl

/-- **Whoever does not present the token learns nothing from the generation routes.** The gate opens
    for every value of the authorization header but those that are no credential. All requests with
    the same value that is none get the same response, which refuses them; nothing is logged, and
    nothing changes, so that no provider is called. The other routes answer everybody alike, whatever
    the header and the token are. -/
theorem unaccepted_alike :
    (∀ (token : String) (g : Gateway) (r : Http.Request), isBlankText token = false →
      (MayCall ⟨g, .ofConfigured token⟩ r ↔ ¬ Unaccepted token (r.header? "authorization"))) ∧
    (∀ (token : String) (value : Option String), isBlankText token = false →
      Unaccepted token value → ∃ response : Http.Response, response.status = 401 ∧
        ∀ (g : Gateway) (out : Outside) (r : Http.Request), r.method = "POST" →
          r.path = "/v1/generate" ∨ r.path = "/v1/generate_stream" →
          r.header? "authorization" = value → answer ⟨g, .ofConfigured token⟩ out r =
            ⟨response, [], ⟨g, .ofConfigured token⟩⟩) ∧
    ∀ (g : Gateway) (out : Outside) (method path : String),
      path = "/v1/health" ∨ path = "/v1/providers" → ∃ response : Http.Response,
        ∀ (token : String) (r : Http.Request), r.method = method → r.path = path →
          answer ⟨g, .ofConfigured token⟩ out r = ⟨response, [], ⟨g, .ofConfigured token⟩⟩ := by
  refine ⟨fun token g r hblank => mayCall_iff hblank g r, ?_, ?_⟩
  · intro token value hblank hvalue
    refine ⟨(rebuff value).response.withHeader "access-control-allow-origin" "*", rfl, ?_⟩
    rintro g out r hmethod hpath rfl
    rcases hpath with hpath | hpath
    · exact answer_of_unaccepted hblank hvalue out .generate rfl hmethod hpath
    · exact answer_of_unaccepted hblank hvalue out .generateStream rfl hmethod hpath
  · rintro g out method path (rfl | rfl)
    · obtain ⟨response, hanswer⟩ := answer_of_open g out method .health rfl
      exact ⟨response, fun token => hanswer (.ofConfigured token)⟩
    · obtain ⟨response, hanswer⟩ := answer_of_open g out method .providers rfl
      exact ⟨response, fun token => hanswer (.ofConfigured token)⟩

/-- A request with another token. -/
def stranger : Http.Request :=
  { welcome with headers := [("Authorization", "Bearer wrong"), ("Content-Type", "application/json")] }

/-- A request with that token to another route, and with nothing in it. -/
def strangerStreaming : Http.Request :=
  ⟨"POST", "/v1/generate_stream", [("authorization", "Bearer wrong")], []⟩

/-- A service with the token but without providers. -/
def deserted : Service := ⟨⟨⟨[]⟩, "standard"⟩, .ofConfigured "secret"⟩

theorem unaccepted_alike_stranger :
    (∃ response : Http.Response, response.status = 401 ∧
      welcoming.answer quiet stranger = ⟨response, [], welcoming⟩ ∧
      deserted.answer ⟨⟨"other", "later"⟩, "", .empty 200 []⟩ strangerStreaming = ⟨response, [], deserted⟩) ∧
    ∃ response : Http.Response, deserted.answer quiet ⟨"GET", "/v1/providers", [], []⟩ =
      ⟨response, [], deserted⟩ := by
  obtain ⟨-, hguarded, hopen⟩ := unaccepted_alike
  have hvalue : "Bearer wrong".toList = "Bearer ".toList ++ "wrong".toList := by decide
  have hwrong : Unaccepted "secret" (some "Bearer wrong") := .wrong hvalue (by decide +kernel)
  obtain ⟨response, hstatus, hanswer⟩ := hguarded "secret" _ (by decide) hwrong
  obtain ⟨listing, hlisting⟩ := hopen ⟨⟨[]⟩, "standard"⟩ quiet "GET" "/v1/providers"
    (.inr rfl)
  refine ⟨⟨response, hstatus, ?_, ?_⟩, listing, ?_⟩
  · exact hanswer _ _ stranger rfl (.inl (by decide)) (by decide +kernel)
  · exact hanswer _ _ strangerStreaming rfl (.inr (by decide)) (by decide +kernel)
  · exact hlisting "secret" _ rfl (by decide)

end Gatehouse.Gateway.Service
