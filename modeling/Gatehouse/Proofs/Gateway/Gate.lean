import Gatehouse.Gateway.Service
import Gatehouse.Proofs.Gateway.Stream

/-!
# The gate in front of the providers

A request to a generation route has to meet five conditions before any provider is called.

* `Admitted` states the five, `TurnedAway` what the caller is told by the first that fails;
* `guarded_of_turnedAway` and `callsOf_guarded`: what becomes of a request on either side of the gate;
* `provider_called_iff`: a provider is called exactly for what is admitted, and then it is one call of
  the one provider that was asked for.
-/

namespace Gatehouse

open Gatehouse.Generation (Params)
open Gatehouse.Provider (Call Registry)
open Gatehouse.Safety

/-! ## 1. The calls of a provider -/

namespace Provider

/-- A registry with one provider changed has the changed one under its name, and all others as they
    were. -/
theorem Registry.find?_update (r : Registry) (name other : String) (f : Provider → Provider) :
    (r.update name f).find? other =
      if other = name then (r.find? other).map f else r.find? other := by
  unfold Registry.update Registry.find?
  induction r.entries with
  | nil => simp
  | cons entry entries ih =>
    obtain ⟨n, p⟩ := entry
    have hentry : (if n = name then (n, f p) else (n, p)) = (n, if n = name then f p else p) := by
      by_cases h : n = name <;> simp [h]
    simp only [List.map_cons, hentry, List.lookup_cons]
    by_cases hn : other = n
    · rw [beq_iff_eq.2 hn, hn]
      by_cases hname : n = name <;> simp [hname]
    · rw [beq_false_of_ne hn]
      exact ih

theorem calls_generate (p : Provider) (params : Params) :
    (p.generate params).2.account.calls = p.account.calls ++ [.generate params] := by
  unfold generate
  cases p.engine <;> rfl

theorem calls_stream (p : Provider) (params : Params) :
    (p.stream params).2.account.calls = p.account.calls ++ [.stream params] := by
  unfold stream
  cases p.engine <;> rfl

end Provider

/-- The calls of the provider under a name, the first one first; none if there is no such provider. -/
def Gateway.callsOf (g : Gateway) (name : String) : List Call :=
  ((g.registry.find? name).map (fun p => p.account.calls)).getD []

namespace Gateway

open Gatehouse.Gateway.Refusal (errorBody)

/-- What the provider under a name has in one of its books; nothing if there is no such provider. -/
def booked {α : Type} (g : Gateway) (book : Provider → List α) (name : String) : List α :=
  ((g.registry.find? name).map book).getD []

/-- Only the provider that was changed has other entries afterwards. -/
theorem booked_withProvider {α : Type} {g : Gateway} {book : Provider → List α} {name : String}
    {p q : Provider} {entries : List α} (hfound : g.registry.find? name = some p)
    (hentries : book q = book p ++ entries) (other : String) :
    (g.withProvider name q).booked book other =
      g.booked book other ++ if other = name then entries else [] := by
  unfold booked withProvider
  rw [Registry.find?_update]
  by_cases h : other = name
  · rw [if_pos h, if_pos h, h, hfound]
    exact hentries
  · rw [if_neg h, if_neg h, List.append_nil]

theorem callsOf_eq_booked (g : Gateway) : g.callsOf = g.booked (fun p => p.account.calls) := rfl

section

variable {g : Gateway} {q : Generation.Request} {a : Permit} {log : List SafetyEvent}
  (h : g.permit q = (.ok a, log))

include h

/-- A whole generation changes nothing but its provider. -/
theorem after_generate : (g.generate q).after =
    g.withProvider a.name (a.provider.generate a.params).2 := by
  cases hp : a.provider.generate a.params with
  | mk answer p =>
    cases answer with
    | failed f => rw [generate_of_failed h hp]
    | brokeDown payload => rw [generate_of_brokeDown h hp]
    | ok reply => rw [generate_of_ok h hp]

/-- Nor does a streamed one, after which what was taken of the stream may have been booked. -/
theorem exists_after_stream : ∃ p, (g.stream q).after = g.withProvider a.name p ∧
    p.account.calls = (a.provider.stream a.params).2.account.calls ∧
    p.account.requests = (a.provider.stream a.params).2.account.requests := by
  cases hp : a.provider.stream a.params with
  | mk answer p =>
    cases answer with
    | failed f => exact ⟨p, by rw [stream_of_failed h hp], rfl, rfl⟩
    | brokeDown payload => exact ⟨p, by rw [stream_of_brokeDown h hp], rfl, rfl⟩
    | ok items =>
      exact ⟨p.settle (relay a.screen items).taken, by rw [stream_of_ok h hp], rfl, rfl⟩

end

/-! ## 2. The gate -/

/-- The call that a generation route makes. -/
def Route.call : Route → Params → Call
  | .generate => .generate
  | _ => .stream

namespace Service

/-- The caller may use the generation routes: the check of tokens is off, or accepts the one that the
    caller presents. -/
def MayCall (s : Service) (r : Http.Request) : Prop :=
  s.token.isEnabled = false ∨ ∃ t, credential? r = some t ∧ s.token.accepts t = true

/-- The verdict on a prompt, at the level the request names or else at that of the deployment. -/
def promptVerdict (s : Service) (q : Generation.Request) : Verdict :=
  (Pipeline.standard (.ofName (q.safetyLevel.getD s.gateway.defaultLevel))).checkInput q.prompt

/-- **The request passes the gate**, and this is what it asks for. -/
structure Admitted (s : Service) (r : Http.Request) (q : Generation.Request) : Prop where
  caller : s.MayCall r
  body : r.readJson Generation.Request.shape = .ok q
  faultless : q.fault? = none
  prompt : (s.promptVerdict q).passed = true
  provider : ∃ p, s.gateway.registry.find? q.provider = some p

/-- **The request does not pass the gate**, and this is what is said about the first condition it does
    not meet. -/
inductive TurnedAway (s : Service) (remark : String) (r : Http.Request) : Http.Response → Prop where
  | noToken : s.token.isEnabled = true → credential? r = none →
      TurnedAway s remark r (.json 401 (errorBody "Missing service token" "UNAUTHORIZED" none))
  | wrongToken {t : String} : s.token.isEnabled = true → credential? r = some t →
      s.token.accepts t = false →
      TurnedAway s remark r (.json 401 (errorBody "Invalid service token" "UNAUTHORIZED" none))
  | body {fault : Http.BodyFault} : s.MayCall r →
      r.readJson Generation.Request.shape = .error fault →
      TurnedAway s remark r (.json 422 (errorBody (fault.message remark) "VALIDATION_ERROR" none))
  | faulty {q : Generation.Request} {fault : Generation.Request.Fault} : s.MayCall r →
      r.readJson Generation.Request.shape = .ok q → q.fault? = some fault →
      TurnedAway s remark r (.json 422 (errorBody fault.message "VALIDATION_ERROR" none))
  | prompt {q : Generation.Request} : s.MayCall r →
      r.readJson Generation.Request.shape = .ok q → q.fault? = none →
      (s.promptVerdict q).passed = false →
      TurnedAway s remark r (.json 422 (.object [("error", .string "content_safety"),
        ("category", .ofString? ((s.promptVerdict q).category?.map Category.name)),
        ("detail", .string (s.promptVerdict q).detail)]))
  | provider {q : Generation.Request} : s.MayCall r →
      r.readJson Generation.Request.shape = .ok q → q.fault? = none →
      (s.promptVerdict q).passed = true → s.gateway.registry.find? q.provider = none →
      TurnedAway s remark r (.json 400
        (errorBody ("Provider '" ++ q.provider ++ "' not registered") "UNKNOWN_PROVIDER" none))

variable (s : Service) (remark : String) (r : Http.Request)

/-- Every request is on one side of the gate. -/
theorem admitted_or_turnedAway :
    (∃ q, s.Admitted r q) ∨ ∃ response, s.TurnedAway remark r response := by
  by_cases hcaller : s.MayCall r
  · cases hbody : r.readJson Generation.Request.shape with
    | error fault => exact .inr ⟨_, .body hcaller hbody⟩
    | ok q =>
      cases hfault : q.fault? with
      | some fault => exact .inr ⟨_, .faulty hcaller hbody hfault⟩
      | none =>
        cases hprompt : (s.promptVerdict q).passed with
        | false => exact .inr ⟨_, .prompt hcaller hbody hfault hprompt⟩
        | true =>
          cases hprovider : s.gateway.registry.find? q.provider with
          | none => exact .inr ⟨_, .provider hcaller hbody hfault hprompt hprovider⟩
          | some p => exact .inl ⟨q, hcaller, hbody, hfault, hprompt, p, hprovider⟩
  · unfold MayCall at hcaller
    rw [not_or, Bool.not_eq_false] at hcaller
    obtain ⟨henabled, hcredential⟩ := hcaller
    cases hpresented : credential? r with
    | none => exact .inr ⟨_, .noToken henabled hpresented⟩
    | some t =>
      have haccepts : s.token.accepts t = false := by
        rw [← Bool.not_eq_true]
        intro h
        exact hcredential ⟨t, hpresented, h⟩
      exact .inr ⟨_, .wrongToken henabled hpresented haccepts⟩

/-! ## 3. The conditions, one by one -/

variable {s r}

theorem submission_of_unreadable {fault : Http.BodyFault}
    (h : r.readJson Generation.Request.shape = .error fault) :
    submission remark r = .error (.validation (fault.message remark)) := by
  rw [submission, h]

theorem submission_of_faulty {q : Generation.Request} {fault : Generation.Request.Fault}
    (h : r.readJson Generation.Request.shape = .ok q) (hfault : q.fault? = some fault) :
    submission remark r = .error (.validation fault.message) := by
  rw [submission, h]
  simp only [hfault]

theorem submission_of_faultless {q : Generation.Request}
    (h : r.readJson Generation.Request.shape = .ok q) (hfault : q.fault? = none) :
    submission remark r = .ok q := by
  rw [submission, h]
  simp only [hfault]

@[simp] theorem gateway_conclude {α : Type} (o : Outcome α) (response : α → Http.Response) :
    (s.conclude o response).after.gateway = o.after := by
  unfold conclude
  cases o.result <;> rfl

theorem checkInput_pipeline (q : Generation.Request) :
    (s.gateway.pipeline q).checkInput q.prompt = s.promptVerdict q := rfl

/-- A prompt that does not pass is refused with the category and the detail of its verdict. -/
theorem permit_of_flagged {q : Generation.Request} (h : (s.promptVerdict q).passed = false) :
    ∃ log, s.gateway.permit q =
      (.error (.contentSafety (s.promptVerdict q).category? (s.promptVerdict q).detail), log) := by
  cases hv : s.promptVerdict q with
  | allowed =>
    rw [hv] at h
    cases h
  | blocked f => exact ⟨_, Gateway.permit_of_flagged (by rw [checkInput_pipeline, hv]; rfl)⟩
  | redacted f => exact ⟨_, Gateway.permit_of_flagged (by rw [checkInput_pipeline, hv]; rfl)⟩

theorem finding?_of_passed {q : Generation.Request} (h : (s.promptVerdict q).passed = true) :
    ((s.gateway.pipeline q).checkInput q.prompt).finding? = none := by
  rw [checkInput_pipeline]
  cases hv : s.promptVerdict q with
  | allowed => rfl
  | blocked f =>
    rw [hv] at h
    cases h
  | redacted f =>
    rw [hv] at h
    cases h

theorem permit_of_unregistered {q : Generation.Request} (h : (s.promptVerdict q).passed = true)
    (hprovider : s.gateway.registry.find? q.provider = none) :
    s.gateway.permit q =
      (.error (.unknownProvider ("Provider '" ++ q.provider ++ "' not registered")), []) := by
  have hget : s.gateway.registry.get q.provider = .error (.notRegistered q.provider) := by
    rw [Registry.get, hprovider]
  exact permit_of_get_eq_error (finding?_of_passed h) hget

theorem permit_of_admitted {q : Generation.Request} (h : s.Admitted r q) :
    ∃ a, s.gateway.permit q = (.ok a, []) ∧ a.name = q.provider ∧
      s.gateway.registry.find? q.provider = some a.provider ∧
      a.params = q.params (systemPrompt q) := by
  obtain ⟨p, hp⟩ := h.provider
  have hget : s.gateway.registry.get q.provider = .ok p := by
    unfold Registry.get
    rw [hp]
  exact ⟨⟨q.provider, p, q.params (systemPrompt q), ⟨s.gateway.pipeline q, s.gateway.scope q⟩⟩,
    permit_eq_ok_iff.2 ⟨finding?_of_passed h.prompt, hget, rfl, rfl⟩, rfl, hp, rfl⟩

/-! ## 4. The routes -/

/-- What a request to a generation route is answered, but for the headers that all responses share. -/
def guarded (s : Service) (out : Outside) (route : Route) (r : Http.Request) : Exchange :=
  match s.unauthorized? r with
  | none => s.serve out route r
  | some e => ⟨e.response, [], s⟩

theorem unauthorized?_of_mayCall (h : s.MayCall r) : s.unauthorized? r = none := by
  unfold unauthorized?
  rcases h with h | ⟨t, ht, haccepts⟩
  · rw [h]
    rfl
  · rw [ht]
    simp only [haccepts, if_true, ite_self]

theorem guarded_of_mayCall {out : Outside} {route : Route} (h : s.MayCall r) :
    s.guarded out route r = s.serve out route r := by
  rw [guarded, unauthorized?_of_mayCall h]

section

variable {out : Outside} {route : Route} (hroute : route.isGuarded = true)

include hroute

theorem answer_of_post (hmethod : r.method = "POST") (hpath : r.path = route.path) :
    s.answer out r =
      { s.guarded out route r with
        response :=
          (s.guarded out route r).response.withHeader "access-control-allow-origin" "*" } := by
  have hfound : Route.ofPath? r.path = some route := (Route.ofPath?_eq_some_iff _ _).2 hpath
  have hmethods : "POST" ∈ route.methods := by simp [Route.methods, hroute]
  have hguarded : s.onRoute out route r = s.guarded out route r := by
    cases hcaller : s.unauthorized? r with
    | none => simp [onRoute, guarded, dispatch, hroute, hcaller, hmethod, hmethods]
    | some e => simp [onRoute, guarded, hroute, hcaller, hmethod, hmethods]
  have hoptions : (r.method == "OPTIONS") = false := by
    rw [hmethod]
    rfl
  unfold answer
  simp only [hfound, hoptions, hguarded, Bool.false_eq_true, if_false]

theorem serve_of_refusal {e : Refusal} (h : submission out.remark r = .error e) :
    s.serve out route r = ⟨e.response, [], s⟩ := by
  cases route with
  | generate => simp only [serve, generate, h]
  | generateStream => simp only [serve, generateStream, h]
  | health => cases hroute
  | providers => cases hroute

theorem serve_of_not_permitted {q : Generation.Request} {e : Refusal} {log : List SafetyEvent}
    (h : submission out.remark r = .ok q) (hp : s.gateway.permit q = (.error e, log)) :
    s.serve out route r = ⟨e.response, log, s⟩ := by
  cases route with
  | generate => simp only [serve, generate, h, Gateway.generate, hp, conclude]
  | generateStream => simp only [serve, generateStream, h, Gateway.stream, hp, conclude]
  | health => cases hroute
  | providers => cases hroute

/-- **What is turned away is told so, and leaves everything as it was.** -/
theorem guarded_of_turnedAway {response : Http.Response} (h : s.TurnedAway out.remark r response) :
    (s.guarded out route r).response = response ∧ (s.guarded out route r).after = s := by
  cases h with
  | noToken henabled hcredential =>
    simp [guarded, unauthorized?, henabled, hcredential, Refusal.response]
  | wrongToken henabled hcredential haccepts =>
    simp [guarded, unauthorized?, henabled, hcredential, haccepts, Refusal.response]
  | body hcaller hbody =>
    have hsubmission := submission_of_unreadable out.remark hbody
    rw [guarded_of_mayCall hcaller, serve_of_refusal hroute hsubmission]
    exact ⟨rfl, rfl⟩
  | faulty hcaller hbody hfault =>
    have hsubmission := submission_of_faulty out.remark hbody hfault
    rw [guarded_of_mayCall hcaller, serve_of_refusal hroute hsubmission]
    exact ⟨rfl, rfl⟩
  | prompt hcaller hbody hfault hprompt =>
    have hsubmission := submission_of_faultless out.remark hbody hfault
    obtain ⟨log, hpermit⟩ := permit_of_flagged hprompt
    rw [guarded_of_mayCall hcaller, serve_of_not_permitted hroute hsubmission hpermit]
    exact ⟨rfl, rfl⟩
  | provider hcaller hbody hfault hprompt hprovider =>
    have hsubmission := submission_of_faultless out.remark hbody hfault
    have hpermit := permit_of_unregistered hprompt hprovider
    rw [guarded_of_mayCall hcaller, serve_of_not_permitted hroute hsubmission hpermit]
    exact ⟨rfl, rfl⟩

/-- **What is admitted makes one call**, of the provider it names. -/
theorem callsOf_guarded {q : Generation.Request} (h : s.Admitted r q) (name : String) :
    (s.guarded out route r).after.gateway.callsOf name = s.gateway.callsOf name ++
      if name = q.provider then [route.call (q.params (systemPrompt q))] else [] := by
  have hsubmission := submission_of_faultless out.remark h.body h.faultless
  obtain ⟨a, hpermit, hname, hfound, hparams⟩ := permit_of_admitted h
  rw [guarded_of_mayCall h.caller, ← hparams]
  rw [← hname] at hfound ⊢
  cases route with
  | generate =>
    have hcalls := a.provider.calls_generate a.params
    simp only [serve, generate, hsubmission, gateway_conclude, after_generate hpermit,
      callsOf_eq_booked]
    exact booked_withProvider hfound hcalls name
  | generateStream =>
    obtain ⟨p, hafter, hcalls, -⟩ := exists_after_stream hpermit
    rw [a.provider.calls_stream a.params] at hcalls
    simp only [serve, generateStream, hsubmission, gateway_conclude, hafter, callsOf_eq_booked]
    exact booked_withProvider hfound hcalls name
  | health => cases hroute
  | providers => cases hroute

end

/-- **A provider is called exactly for what is admitted.** Then it is the one the request names, it is
    called once, and with what the request says; no other provider is called. A request that is not
    admitted is told which condition it is the first it does not meet, and changes nothing. -/
theorem provider_called_iff (s : Service) (out : Outside) (r : Http.Request) (route : Route)
    (hroute : route.isGuarded = true) (hmethod : r.method = "POST") (hpath : r.path = route.path) :
    ((∃ name, (s.answer out r).after.gateway.callsOf name ≠ s.gateway.callsOf name) ↔
      ∃ q, s.Admitted r q) ∧
    (∀ q, s.Admitted r q → ∀ name,
      (s.answer out r).after.gateway.callsOf name = s.gateway.callsOf name ++
        if name = q.provider
        then [route.call ⟨q.prompt, q.model, q.temperature, q.maxTokens, systemPrompt q⟩]
        else []) ∧
    (∀ response, s.TurnedAway out.remark r response →
      (s.answer out r).response = response.withHeader "access-control-allow-origin" "*" ∧
        (s.answer out r).after = s) ∧
    ((∃ q, s.Admitted r q) ∨ ∃ response, s.TurnedAway out.remark r response) := by
  rw [answer_of_post hroute hmethod hpath]
  refine ⟨?_, fun q h => callsOf_guarded hroute h, ?_, admitted_or_turnedAway s out.remark r⟩
  · constructor
    · intro hcalled
      obtain ⟨name, hname⟩ := hcalled
      rcases admitted_or_turnedAway s out.remark r with h | ⟨response, h⟩
      · exact h
      · exact absurd (by rw [(guarded_of_turnedAway hroute h).2]) hname
    · intro hadmitted
      obtain ⟨q, h⟩ := hadmitted
      refine ⟨q.provider, ?_⟩
      rw [callsOf_guarded hroute h, if_pos rfl]
      simp
  · intro response h
    have htold : (s.guarded out route r).response = response ∧
        (s.guarded out route r).after = s := guarded_of_turnedAway hroute h
    exact ⟨by rw [htold.1], htold.2⟩

/-- A service with a token and one provider. -/
def welcoming : Service :=
  ⟨scripted [.reply "Hello" none Generation.Usage.zero "stop"] [], .ofConfigured "secret"⟩

/-- A request with that token, and with a greeting for that provider. -/
def welcome : Http.Request where
  method := "POST"
  target := "/v1/generate"
  headers := [("Authorization", "Bearer secret"), ("Content-Type", "application/json")]
  body := "\x7b\"provider\":\"script\",\"model\":\"model\",\"prompt\":\"Say hello\"\x7d".toList.map
    (fun c => UInt8.ofNat c.toNat)

theorem admitted_welcome : welcoming.Admitted welcome greeting where
  caller := .inr ⟨"secret", by decide +kernel, by decide +kernel⟩
  body := by
    have h : (welcome.readJson Generation.Request.shape).toOption = some greeting := by
      decide +kernel
    cases hread : welcome.readJson Generation.Request.shape with
    | error fault =>
      rw [hread] at h
      cases h
    | ok q =>
      rw [hread] at h
      rw [Option.some.inj h]
  faultless := by decide +kernel
  prompt := by decide +kernel
  provider := ⟨_, rfl⟩

/-- Nothing in particular outside. -/
def quiet : Outside := ⟨⟨"id", "now"⟩, "", .empty 200 []⟩

theorem provider_called_for_welcome :
    (welcoming.answer quiet welcome).after.gateway.callsOf "script" =
        [.generate ⟨"Say hello", "model", greeting.temperature, 2048, none⟩] ∧
      (welcoming.answer quiet { welcome with headers := [] }).response.status = 401 := by
  obtain ⟨-, hcalled, -⟩ := provider_called_iff welcoming quiet welcome .generate rfl rfl
    (by decide)
  obtain ⟨-, -, htold, -⟩ := provider_called_iff welcoming quiet
    { welcome with headers := [] } .generate rfl rfl (by decide)
  refine ⟨hcalled greeting admitted_welcome "script", ?_⟩
  rw [(htold _ (.noToken rfl rfl)).1]
  rfl

end Service

end Gateway

end Gatehouse
