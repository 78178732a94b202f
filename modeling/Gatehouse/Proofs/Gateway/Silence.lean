import Gatehouse.Proofs.Gateway.Stream
import Gatehouse.Gateway.Service
import Gatehouse.Proofs.Provider.Registry

/-!
# Services without what their faults carry

* `silenced` empties the payload of every breakdown, in a script as in all that follows one, up to a
  whole service;
* `relay_silenced`, `generate_silenced` and `stream_silenced`: no step of the gateway looks at a
  payload; `answer_silenced`: nor does an answer of the service, and `told_silenced`: nor do answers one
  after the other.
-/

namespace Gatehouse

open Gatehouse.Generation (Params)
open Gatehouse.Provider (Item Answer Registry)

/-! ## 1. Providers -/

namespace Provider

/-- An item without what it carries. -/
def Item.silenced : Item → Item
  | .brokeDown _ => .brokeDown ""
  | item => item

def ReplyLine.silenced : ReplyLine → ReplyLine
  | .brokeDown _ => .brokeDown ""
  | line => line

def StreamLine.silenced : StreamLine → StreamLine
  | .items taken => .items (taken.map Item.silenced)
  | .failed f => .failed f
  | .brokeDown _ => .brokeDown ""

def Scripted.silenced (s : Scripted) : Scripted :=
  { s with
    replies := s.replies.map ReplyLine.silenced
    streams := s.streams.map StreamLine.silenced }

/-- What is behind a network never breaks down. -/
def Engine.silenced : Engine → Engine
  | .remote r => .remote r
  | .scripted s => .scripted s.silenced

/-- An answer without what it carries; `inner` does the same for what was asked for. -/
def Answer.silenced {α : Type} (inner : α → α) : Answer α → Answer α
  | .ok a => .ok (inner a)
  | .failed f => .failed f
  | .brokeDown _ => .brokeDown ""

/-- A stream that is answered, without what its breakdown carries. -/
abbrev Answer.streamSilenced : Answer (List Item) → Answer (List Item) :=
  Answer.silenced (List.map Item.silenced)

/-- **Two items are alike without what they carry** exactly if they are equal or both break down. -/
theorem Item.silenced_eq_iff (a b : Item) : a.silenced = b.silenced ↔
    a = b ∨ ∃ payload payload', a = .brokeDown payload ∧ b = .brokeDown payload' := by
  cases a <;> cases b <;> simp [silenced]

theorem Scripted.advance_map {α : Type} (f : α → α) (lines : List α) :
    advance (lines.map f) = (advance lines).map f := by
  cases lines with
  | nil => rfl
  | cons line lines => cases lines <;> rfl

end Provider

def Provider.silenced (p : Provider) : Provider := { p with engine := p.engine.silenced }

namespace Provider

theorem models_silenced (p : Provider) : p.silenced.models = p.models := by
  obtain ⟨engine, account⟩ := p
  cases engine <;> rfl

theorem isConfigured_silenced (p : Provider) : p.silenced.isConfigured = p.isConfigured := by
  obtain ⟨engine, account⟩ := p
  cases engine <;> rfl

/-- **A silenced provider answers alike**, and is the silenced provider afterwards. -/
theorem generate_silenced (p : Provider) (params : Params) :
    ∃ answer, p.silenced.generate params = (answer, (p.generate params).2.silenced) ∧
      answer.silenced id = (p.generate params).1.silenced id := by
  obtain ⟨engine, account⟩ := p
  cases engine with
  | remote r => exact ⟨_, rfl, rfl⟩
  | scripted s =>
    refine ⟨(s.silenced.generate params).1, ?_, ?_⟩
    · simp [Provider.silenced, Engine.silenced, Provider.generate, Scripted.generate,
        Scripted.silenced, Scripted.advance_map]
    · show (s.silenced.answerOf params (s.replies.map ReplyLine.silenced).head?).silenced id =
        (s.answerOf params s.replies.head?).silenced id
      rw [List.head?_map]
      cases s.replies.head? with
      | none => rfl
      | some line => cases line <;> rfl

theorem stream_silenced (p : Provider) (params : Params) :
    ∃ answer, p.silenced.stream params = (answer, (p.stream params).2.silenced) ∧
      answer.streamSilenced = (p.stream params).1.streamSilenced := by
  obtain ⟨engine, account⟩ := p
  cases engine with
  | remote r => exact ⟨_, rfl, rfl⟩
  | scripted s =>
    refine ⟨s.silenced.stream.1, ?_, ?_⟩
    · simp [Provider.silenced, Engine.silenced, Provider.stream, Scripted.stream,
        Scripted.silenced, Scripted.advance_map]
    · show (Scripted.openingOf (s.streams.map StreamLine.silenced).head?).streamSilenced =
        (Scripted.openingOf s.streams.head?).streamSilenced
      rw [List.head?_map]
      cases s.streams.head? with
      | none => rfl
      | some line =>
        cases line with
        | items items =>
          have htwice : Item.silenced ∘ Item.silenced = Item.silenced := by
            funext item
            cases item <;> rfl
          simp [StreamLine.silenced, Scripted.openingOf, Answer.silenced, htwice]
        | failed f => rfl
        | brokeDown payload => rfl

def Registry.silenced (r : Registry) : Registry :=
  ⟨r.entries.map (fun entry => (entry.1, entry.2.silenced))⟩

namespace Registry

variable (r : Registry) (name : String)

theorem find?_silenced : r.silenced.find? name = (r.find? name).map Provider.silenced :=
  lookup_map Provider.silenced r.entries name

theorem get_silenced : r.silenced.get name = (r.get name).map Provider.silenced := by
  rw [get, find?_silenced, get]
  cases r.find? name <;> rfl

theorem update_silenced (p : Provider) :
    r.silenced.update name (fun _ => p.silenced) = (r.update name (fun _ => p)).silenced := by
  simp only [update, silenced, List.map_map]
  congr 2
  funext entry
  by_cases h : entry.1 = name <;> simp [h]

theorem list_silenced : r.silenced.list = r.list := by
  simp [list, silenced, Function.comp_def, models_silenced]

theorem configured_silenced : r.silenced.configured = r.configured := by
  simp [configured, silenced, List.filter_map, Function.comp_def, isConfigured_silenced]

end Registry

end Provider

/-! ## 2. The gateway -/

def Gateway.silenced (g : Gateway) : Gateway := { g with registry := g.registry.silenced }

namespace Gateway

/-- A result without what it carries. -/
def Result.silenced {α : Type} : Result α → Result α
  | .brokeDown _ => .brokeDown ""
  | result => result

/-- **What a silenced gateway makes of a request**: the same, but for what a breakdown carries. -/
structure Outcome.AlikeSilenced {α : Type} (o o' : Outcome α) : Prop where
  result : o'.result.silenced = o.result.silenced
  log : o'.log = o.log
  after : o'.after = o.after.silenced

/-- **Relaying a stream does not depend on what a breakdown carries.** -/
theorem relay_silenced (s : Screen) (items : List Item) :
    relay s (items.map Item.silenced) = relay s items := by
  induction items with
  | nil => rfl
  | cons item items ih =>
    cases item with
    | chunk c =>
      have hchunk : (Item.chunk c).silenced = .chunk c := rfl
      rw [List.map_cons, hchunk, relay, ih, relay]
    | failed f => rfl
    | brokeDown payload => rfl
    | stalled => rfl

theorem relay_of_streamSilenced {s : Screen} {items items' : List Item}
    (h : items'.map Item.silenced = items.map Item.silenced) : relay s items' = relay s items := by
  rw [← relay_silenced s items', h, relay_silenced]

variable (g : Gateway) (q : Generation.Request)

theorem withProvider_silenced (name : String) (p : Provider) :
    g.silenced.withProvider name p.silenced = (g.withProvider name p).silenced := by
  simp only [withProvider, silenced, Registry.update_silenced]

/-- A permit without what its provider carries. -/
def Permit.silenced (a : Permit) : Permit := { a with provider := a.provider.silenced }

/-- **A silenced gateway permits what the gateway itself permits.** -/
theorem permit_silenced :
    (∃ e log, g.permit q = (.error e, log) ∧ g.silenced.permit q = (.error e, log)) ∨
      ∃ a log, g.permit q = (.ok a, log) ∧ g.silenced.permit q = (.ok a.silenced, log) := by
  have hpipeline : g.silenced.pipeline q = g.pipeline q := rfl
  have hget : g.silenced.registry.get q.provider =
      (g.registry.get q.provider).map Provider.silenced := Registry.get_silenced _ _
  rw [permit, permit, hpipeline, hget]
  cases ((g.pipeline q).checkInput q.prompt).finding? with
  | some f => exact .inl ⟨_, _, rfl, rfl⟩
  | none =>
    cases g.registry.get q.provider with
    | error e => exact .inl ⟨_, _, rfl, rfl⟩
    | ok p => exact .inr ⟨_, _, rfl, rfl⟩

theorem generate_silenced : (g.generate q).AlikeSilenced (g.silenced.generate q) := by
  rcases permit_silenced g q with ⟨e, log, hpermit, hsilenced⟩ | ⟨a, log, hpermit, hsilenced⟩
  · rw [generate, generate, hpermit, hsilenced]
    exact ⟨rfl, rfl, rfl⟩
  · obtain ⟨answer', hp', halike⟩ := a.provider.generate_silenced a.params
    cases hp : a.provider.generate a.params with
    | mk answer p =>
      have hafter := withProvider_silenced g a.name p
      rw [hp] at hp' halike
      cases answer with
      | failed f =>
        cases answer' <;> cases halike
        rw [generate_of_failed hpermit hp, generate_of_failed hsilenced hp']
        exact ⟨rfl, rfl, hafter⟩
      | brokeDown payload =>
        cases answer' <;> cases halike
        rw [generate_of_brokeDown hpermit hp, generate_of_brokeDown hsilenced hp']
        exact ⟨rfl, rfl, hafter⟩
      | ok reply =>
        cases answer' <;> cases halike
        rw [generate_of_ok hpermit hp, generate_of_ok hsilenced hp']
        exact ⟨rfl, rfl, hafter⟩

theorem stream_silenced : (g.stream q).AlikeSilenced (g.silenced.stream q) := by
  rcases permit_silenced g q with ⟨e, log, hpermit, hsilenced⟩ | ⟨a, log, hpermit, hsilenced⟩
  · rw [stream, stream, hpermit, hsilenced]
    exact ⟨rfl, rfl, rfl⟩
  · obtain ⟨answer', hp', halike⟩ := a.provider.stream_silenced a.params
    cases hp : a.provider.stream a.params with
    | mk answer p =>
      rw [hp] at hp' halike
      cases answer with
      | failed f =>
        cases answer' <;> cases halike
        rw [stream_of_failed hpermit hp, stream_of_failed hsilenced hp']
        exact ⟨rfl, rfl, withProvider_silenced g a.name p⟩
      | brokeDown payload =>
        cases answer' <;> cases halike
        rw [stream_of_brokeDown hpermit hp, stream_of_brokeDown hsilenced hp']
        exact ⟨rfl, rfl, withProvider_silenced g a.name p⟩
      | ok items =>
        cases answer' with
        | failed f => cases halike
        | brokeDown payload => cases halike
        | ok items' =>
          have hitems : relay a.silenced.screen items' = relay a.screen items :=
            relay_of_streamSilenced (Answer.ok.inj halike)
          rw [stream_of_ok hpermit hp, stream_of_ok hsilenced hp', hitems]
          exact ⟨rfl, rfl, withProvider_silenced g a.name (p.settle (relay a.screen items).taken)⟩

end Gateway

/-! ## 3. The service -/

namespace Gateway

namespace Service

def silenced (s : Service) : Service := { s with gateway := s.gateway.silenced }

end Service

/-- An exchange with the silenced service after it. -/
def Exchange.silenced (x : Exchange) : Exchange := { x with after := x.after.silenced }

namespace Service

variable (s : Service) (out : Outside) (r : Http.Request)

theorem conclude_silenced {α : Type} {o o' : Outcome α} (h : o.AlikeSilenced o')
    (response : α → Http.Response) :
    s.silenced.conclude o' response = (s.conclude o response).silenced := by
  obtain ⟨result, log, after⟩ := o
  obtain ⟨result', log', after'⟩ := o'
  have hresult : result'.silenced = result.silenced := h.result
  obtain rfl : log' = log := h.log
  obtain rfl : after' = after.silenced := h.after
  cases result <;> cases result' <;> cases hresult <;> rfl

theorem health_silenced (stamp : Generation.Stamp) : s.silenced.health stamp = s.health stamp := by
  have hconfigured : s.silenced.gateway.registry.configured = s.gateway.registry.configured :=
    Registry.configured_silenced _
  rw [health, health, condition, condition, hconfigured]

theorem providers_silenced : s.silenced.providers = s.providers := by
  have hlist : s.silenced.gateway.registry.list = s.gateway.registry.list :=
    Registry.list_silenced _
  rw [providers, providers, hlist]

theorem serve_silenced (route : Route) :
    s.silenced.serve out route r = (s.serve out route r).silenced := by
  cases route with
  | generate =>
    rw [serve, serve, generate, generate]
    cases submission out.remark r with
    | error e => rfl
    | ok q => exact conclude_silenced s (generate_silenced s.gateway q) _
  | generateStream =>
    rw [serve, serve, generateStream, generateStream]
    cases submission out.remark r with
    | error e => rfl
    | ok q => exact conclude_silenced s (stream_silenced s.gateway q) _
  | health => rw [serve, serve, health_silenced]; rfl
  | providers => rw [serve, serve, providers_silenced]; rfl

/-- **A silenced service answers the same.** -/
theorem answer_silenced : s.silenced.answer out r = (s.answer out r).silenced := by
  have hdispatch (route : Route) :
      s.silenced.dispatch out route r = (s.dispatch out route r).silenced := by
    rw [dispatch, dispatch, serve_silenced]
    split
    · split <;> rfl
    · rfl
  have hroute (route : Route) :
      s.silenced.onRoute out route r = (s.onRoute out route r).silenced := by
    have hcaller : s.silenced.unauthorized? r = s.unauthorized? r := rfl
    rw [onRoute, onRoute, hcaller]
    split
    · exact hdispatch route
    · rfl
  unfold answer
  cases Route.ofPath? r.path with
  | none => rfl
  | some route =>
    cases r.method == "OPTIONS" with
    | true => rfl
    | false => simp only [hroute]; rfl

/-- What the callers are told and what is logged, visit after visit. -/
def told (s : Service) : List (Outside × Http.Request) → List (Http.Response × List SafetyEvent)
  | [] => []
  | visit :: visits =>
    let x := s.answer visit.1 visit.2
    (x.response, x.log) :: x.after.told visits

/-- **So it does visit after visit.** -/
theorem told_silenced (visits : List (Outside × Http.Request)) :
    s.silenced.told visits = s.told visits := by
  induction visits generalizing s with
  | nil => rfl
  | cons visit visits ih =>
    rw [told, told, answer_silenced]
    simp only [Exchange.silenced]
    rw [ih]

end Service

end Gateway

end Gatehouse
