import Gatehouse.Proofs.Gateway.Gate
import Gatehouse.Proofs.Provider.Posted
import Gatehouse.Proofs.Provider.Redirections
import Gatehouse.Proofs.Provider.Registry

/-!
# What a request becomes on its way to a provider

* `Resolved` says which system prompt a request has: its own, unless that is blank, or else the template
  of its task; `resolved_iff`: there is exactly one answer;
* `Remote.reaches` says whether a call gets through to the provider's server, `Gateway.requestsOf` which
  requests have;
* `Remote.followUps` are the requests that its client makes besides where an answer is a redirection;
* `forwarded_faithfully`: one call of a provider behind a network sends at most one request of its own, to
  that provider alone, and its body says what the caller has said and nothing else. Requests for
  redirections have the same body, or none.
-/

namespace Gatehouse

open Gatehouse.Generation (Params)
open Gatehouse.Json (Value)
open Gatehouse.Json.Reader (readFirst stringItems)
open Gatehouse.Provider (Remote Vendor WireRequest Posted Turn Registry plainParams)
open Gatehouse.Safety

/-! ## 1. System prompts -/

namespace Gateway

/-- The caller has no system prompt that says anything. -/
def Unprompted (q : Generation.Request) : Prop :=
  ∀ s, q.systemPrompt = some s → Text.isBlankText s = true

/-- **The system prompt of a request.** -/
inductive Resolved (q : Generation.Request) : Option String → Prop where
  /-- The caller's own is used as it is. -/
  | own {s : String} : q.systemPrompt = some s → Text.isBlankText s = false → Resolved q (some s)
  /-- Otherwise it is the template of the task. -/
  | template {task text : String} : Unprompted q → q.taskType = some task →
      (task, text) ∈ Generation.templates → Resolved q (some text)
  /-- If the task is not known either there is none. -/
  | none : Unprompted q →
      (∀ task text, q.taskType = some task → (task, text) ∉ Generation.templates) → Resolved q none

theorem templateFor_iff (task text : String) :
    Generation.templateFor task = some text ↔ (task, text) ∈ Generation.templates :=
  Provider.lookup_eq_some_iff_mem (by decide +kernel) task text

/-- The template of the task, for a request without a system prompt of its own. -/
theorem resolved_template {q : Generation.Request} (h : Unprompted q) :
    Resolved q (q.taskType.bind Generation.templateFor) := by
  cases htask : q.taskType with
  | none => exact .none h (by simp [htask])
  | some task =>
    cases htext : Generation.templateFor task with
    | some text =>
      rw [Option.bind_some, htext]
      exact .template h htask ((templateFor_iff task text).1 htext)
    | none =>
      rw [Option.bind_some, htext]
      refine .none h ?_
      intro task' text htask' hmem
      obtain rfl : task = task' := Option.some.inj (htask.symm.trans htask')
      rw [(templateFor_iff task text).2 hmem] at htext
      cases htext

theorem resolved_systemPrompt (q : Generation.Request) : Resolved q (systemPrompt q) := by
  unfold systemPrompt
  cases hs : q.systemPrompt with
  | none =>
    have hun : Unprompted q := by simp [Unprompted, hs]
    exact resolved_template hun
  | some s =>
    cases hblank : Text.isBlankText s with
    | true =>
      have hun : Unprompted q := by simp [Unprompted, hs, hblank]
      simp only [hblank, if_true]
      exact resolved_template hun
    | false =>
      simp only [hblank, Bool.false_eq_true, if_false]
      exact .own hs hblank

/-- **A request has exactly one system prompt, or none.** -/
theorem resolved_iff {q : Generation.Request} {system : Option String} :
    Resolved q system ↔ system = systemPrompt q := by
  constructor
  · intro h
    have hsystem := resolved_systemPrompt q
    cases h with
    | own hs hblank => simp [systemPrompt, hs, hblank]
    | template hun htask hmem =>
      have htext := (templateFor_iff _ _).2 hmem
      cases hs : q.systemPrompt with
      | none => simp [systemPrompt, hs, htask, htext]
      | some s => simp [systemPrompt, hs, hun s hs, htask, htext]
    | none hun hunknown =>
      have htemplate : q.taskType.bind Generation.templateFor = none := by
        cases htask : q.taskType with
        | none => rfl
        | some task =>
          rw [Option.bind_some, Option.eq_none_iff_forall_ne_some]
          intro text htext
          exact hunknown task text htask ((templateFor_iff task text).1 htext)
      cases hs : q.systemPrompt with
      | none => simp [systemPrompt, hs, htemplate]
      | some s => simp [systemPrompt, hs, hun s hs, htemplate]
  · intro h
    rw [h]
    exact resolved_systemPrompt q

/-- No system prompt is empty, so that no provider leaves it out. -/
theorem Resolved.ne_empty {q : Generation.Request} {system : Option String} (h : Resolved q system) :
    system ≠ some "" := by
  have htemplates : ∀ t ∈ Generation.templates, t.2 ≠ "" := by decide +kernel
  intro he
  cases h with
  | own hs hblank =>
    obtain rfl := Option.some.inj he
    cases hblank
  | template hun htask hmem => exact htemplates _ hmem (Option.some.inj he)
  | none hun hunknown => cases he

theorem isFinite_of_faultless {q : Generation.Request} (h : q.fault? = none) :
    q.temperature.isFinite = true := by
  have hrange : Generation.Request.temperatureInRange q.temperature = true := by
    -- the three blank fields are looked at before the temperature
    unfold Generation.Request.fault? at h
    split at h
    · cases h
    · split at h
      · cases h
      · split at h
        · cases h
        · split at h
          · cases h
          · rename_i hinside
            rwa [Bool.not_eq_true, Bool.not_eq_eq_eq_not, Bool.not_false] at hinside
  rw [Generation.Request.temperatureInRange, Bool.and_eq_true, Bool.and_eq_true] at hrange
  exact hrange.1.1

end Gateway

/-! ## 2. Requests that get through -/

namespace Provider

/-- Does a call get through to the provider's server? It needs a key that can be put into a header, an
    open provider, and a network that delivers it. -/
def Remote.reaches (R : Remote) : Bool :=
  R.isConfigured && !R.isClosed && Http.Header.isLegal R.key && R.line.next.1.isAnswered

/-- The requests that the provider's client makes where the answer to one is a redirection. -/
def Remote.followUps (R : Remote) (w : WireRequest) : List WireRequest :=
  (w.trail (R.line.exchange maxHops).delivery.isAnswered (R.line.exchange maxHops).redirections).tail

/-- **A request is sent exactly if it gets through**, and it is the request for the call. -/
theorem Remote.requests_send (R : Remote) (p : Params) (streamed : Bool) :
    (R.send p streamed).requests =
      if R.reaches then R.request p streamed :: R.followUps (R.request p streamed) else [] := by
  unfold Remote.send Remote.reaches Remote.isConfigured
  cases R.key.isEmpty with
  | true => rfl
  | false =>
    cases R.isClosed with
    | true => rfl
    | false =>
      cases Http.Header.isLegal R.key with
      | false => rfl
      | true => exact WireRequest.trail_exchange _ maxHops R.line

theorem Remote.followUps_of_unredirected {R : Remote} (h : R.line.Unredirected) (w : WireRequest) :
    R.followUps w = [] := by
  rw [followUps, Line.exchange_of_unredirected h, WireRequest.trail]
  split <;> rfl

theorem Remote.body_of_mem_followUps {R : Remote} {w v : WireRequest} (h : v ∈ R.followUps w) :
    v.method = w.method ∧ v.body = w.body ∨ v.method = .get ∧ v.body = "" :=
  WireRequest.body_of_mem_trail w _ _ (List.mem_of_mem_tail h)

end Provider

/-- The requests that the server of the provider under a name has answered, the first one first; none
    if there is no such provider. -/
def Gateway.requestsOf (g : Gateway) (name : String) : List WireRequest :=
  g.booked (fun p => p.account.requests) name

/-- The gateway after a request to one of the generation routes. -/
def Gateway.afterwards (g : Gateway) (streamed : Bool) (q : Generation.Request) : Gateway :=
  if streamed then (g.stream q).after else (g.generate q).after

namespace Gateway

variable {g : Gateway} {q : Generation.Request} {a : Permit} {log : List SafetyEvent}

/-- A request that is let through changes its provider only, which books what was sent. -/
theorem exists_afterwards (hpermit : g.permit q = (.ok a, log)) {R : Remote}
    (hremote : a.provider.engine = .remote R) (streamed : Bool) :
    ∃ p, g.afterwards streamed q = g.withProvider a.name p ∧
      p.account.requests =
        a.provider.account.requests ++ (R.send a.params streamed).requests := by
  cases streamed with
  | true =>
    obtain ⟨p, hafter, -, hrequests⟩ := exists_after_stream hpermit
    refine ⟨p, hafter, ?_⟩
    rw [hrequests, Provider.stream, hremote]
    rfl
  | false =>
    refine ⟨_, after_generate hpermit, ?_⟩
    rw [Provider.generate, hremote]
    rfl

/-! ## 3. What is sent -/

/-- **A request is forwarded faithfully.** If it has no fault and is let through to a provider behind a
    network, exactly one request gets through to the provider's server if any can, and none to others.
    What the client sends besides for redirections has the same body, or none; without redirections it
    is nothing. The body has the caller's model and token limit, the prompt as the last message and the only one
    of the user, says that it is streamed exactly if it is, and has a system prompt exactly if one is
    resolved. Which members and messages the body is made of does not depend on any text. -/
theorem forwarded_faithfully (hfault : q.fault? = none) (hpermit : g.permit q = (.ok a, log))
    {R : Remote} (hremote : a.provider.engine = .remote R) (streamed : Bool) :
    ∃ w : WireRequest, ∃ system : Option String, Resolved q system ∧
      w = R.request (q.params system) streamed ∧
      (∀ name, (g.afterwards streamed q).requestsOf name = g.requestsOf name ++
        if name = q.provider then (if R.reaches then w :: R.followUps w else []) else []) ∧
      (∀ v ∈ R.followUps w, v.method = w.method ∧ v.body = w.body ∨ v.method = .get ∧ v.body = "") ∧
      (R.line.Unredirected → R.followUps w = []) ∧
      (∃ temperature, Posted.decode w.body = .ok
        { model := q.model
          maxTokens := q.maxTokens
          temperature := temperature
          system := match R.vendor with
            | .openAi => none
            | .anthropic => system
          turns := (match R.vendor with
            | .openAi => (system.map (Turn.mk "system")).toList
            | .anthropic => []) ++ [⟨"user", q.prompt⟩]
          stream := if streamed then some true else none }) ∧
      (readFirst (stringItems w.body)).1.outline =
        (R.vendor.requestBody (plainParams system.isSome) streamed).outline := by
  obtain ⟨-, hget, ha, -⟩ := permit_eq_ok_iff.1 hpermit
  have hname : a.name = q.provider := by rw [ha]
  have hparams : a.params = q.params (systemPrompt q) := by rw [ha]
  have hfound : g.registry.find? a.name = some a.provider := by
    rw [Registry.get] at hget
    rw [hname]
    cases hp : g.registry.find? q.provider with
    | none => rw [hp] at hget; cases hget
    | some p => rw [hp] at hget; rw [Except.ok.inj hget]
  have hresolved := resolved_systemPrompt q
  have hsystem : (q.params (systemPrompt q)).systemPrompt ≠ some "" := hresolved.ne_empty
  have hfinite : (q.params (systemPrompt q)).temperature.isFinite = true :=
    isFinite_of_faultless hfault
  refine ⟨_, systemPrompt q, hresolved, rfl, ?_, fun v hv => Remote.body_of_mem_followUps hv,
    fun h => Remote.followUps_of_unredirected h _, ?_, ?_⟩
  · intro name
    obtain ⟨p, hafter, hsent⟩ := exists_afterwards hpermit hremote streamed
    rw [Remote.requests_send, hparams] at hsent
    rw [hafter, requestsOf, booked_withProvider hfound hsent, hname]
    rfl
  · exact Posted.decode_requestBody hsystem hfinite R.vendor streamed
  · have hread : (readFirst (stringItems (R.request (q.params (systemPrompt q)) streamed).body)).1 =
        (R.vendor.requestBody (q.params (systemPrompt q)) streamed).tree := by
      rw [Remote.request, stringItems, Value.text, String.toList_ofList, Json.Reader.readFirst_chars]
    rw [hread]
    exact Provider.outline_requestBody R.vendor hsystem hfinite streamed

/-- A provider behind a network that answers. -/
def answeringRemote : Remote :=
  .ofSettings .anthropic { Provider.Settings.blank with apiKey := "key" } ⟨[.answered 200 [] .complete]⟩

/-- A request to it, with a system prompt that looks like a part of the body. -/
def pointedQuestion : Generation.Request :=
  ⟨"remote", "model", "Say hello", Generation.Request.defaultTemperature,
    Generation.Request.defaultMaxTokens, some "\"\x7d],\n\"stream\":null", some "rewrite", none⟩

/-- A gateway with that provider. -/
def behindNetwork : Gateway := ⟨⟨[("remote", .ofEngine (.remote answeringRemote))]⟩, "strict"⟩

theorem permit_pointedQuestion : behindNetwork.permit pointedQuestion =
    (.ok ⟨"remote", .ofEngine (.remote answeringRemote),
      pointedQuestion.params (systemPrompt pointedQuestion),
      ⟨.standard (.ofName "strict"), ⟨some "rewrite", none, "strict"⟩⟩⟩, []) := by
  refine permit_eq_ok_iff.2 ⟨?_, rfl, rfl, rfl⟩
  show ((Pipeline.standard (.ofName "strict")).checkInput "Say hello").finding? = none
  decide +kernel

theorem forwarded_faithfully_pointedQuestion : ∃ w : WireRequest,
    (behindNetwork.afterwards true pointedQuestion).requestsOf "remote" = [w] ∧
      ∃ t, Posted.decode w.body = .ok ⟨"model", 2048, t, some "\"\x7d],\n\"stream\":null",
        [⟨"user", "Say hello"⟩], some true⟩ := by
  have hfault : pointedQuestion.fault? = none := by decide +kernel
  obtain ⟨w, system, hsystem, -, hsent, -, hfollowed, hbody, -⟩ :=
    forwarded_faithfully hfault permit_pointedQuestion (R := answeringRemote) rfl true
  have hreaches : answeringRemote.reaches = true := by decide +kernel
  obtain rfl : system = some "\"\x7d],\n\"stream\":null" := resolved_iff.1 hsystem
  refine ⟨w, ?_, hbody⟩
  have hone := hsent "remote"
  have hunredirected : answeringRemote.line.Unredirected :=
    Provider.Line.unredirected_answered _ _ _
  rw [hreaches, hfollowed hunredirected] at hone
  exact hone

end Gateway

end Gatehouse
