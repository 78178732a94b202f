import Gatehouse.Proofs.Gateway.Gate
import Gatehouse.Proofs.Gateway.Interleaving
import Gatehouse.Proofs.Gateway.Silence

/-!
# What a fault gives away

A fault inside a provider shows in one of two ways: a whole generation is answered by an internal error,
a streamed one ends with it.

* `BreaksDown` says that a provider breaks down after it has produced certain contents;
  `events_of_breaksDown`: they are shown, and then the internal error;
* `reachable_alike`: under any interleaving, what is carried by a breakdown makes no difference to
  anybody;
* `status_response` and `status_answer` bound the statuses of refusals and of all answers;
* `faults_untold` puts it together for whole services.
-/

namespace Gatehouse.Gateway

open Gatehouse.Generation (Event)
open Gatehouse.Provider (Item Answer)
open Gatehouse.Safety
open Gatehouse.Gateway.Refusal (errorBody internalMessage)

/-! ## 1. Where a fault shows -/

/-- **The provider breaks down after it has produced what these contents are delivered for**: when it is
    asked for a stream, or in the place of an item of the stream. -/
inductive BreaksDown (p : Pipeline) : Answer (List Item) → List String → Prop where
  | opening (payload : String) : BreaksDown p (.brokeDown payload) []
  /-- Each increment is given as it was produced and as it is delivered. -/
  | streaming {shown : List (String × String)} (payload : String) (behind : List Item) :
      (∀ x ∈ shown, Delivers p x.1 x.2) →
      BreaksDown p (.ok (shown.map (fun x => .chunk (.delta x.1)) ++ .brokeDown payload :: behind))
        (shown.map Prod.snd)

section

variable {s : Screen} (hempty : s.pipeline.checkOutput "" = .allowed)

include hempty

theorem relay_of_delivered {shown : List (String × String)}
    (h : ∀ x ∈ shown, Delivers s.pipeline x.1 x.2) (payload : String) (behind : List Item) :
    (relay s (shown.map (fun x => .chunk (.delta x.1)) ++ .brokeDown payload :: behind)).events =
      (shown.map Prod.snd).map Event.chunk ++ [.error internalMessage] := by
  induction shown with
  | nil => rfl
  | cons x shown ih =>
    obtain ⟨hx, hshown⟩ := List.forall_mem_cons.1 h
    have hchunk : (s.chunk (.delta x.1)).1 = .chunk x.2 := by
      have hcontent : (s.content x.1).1 = .delivered x.2 := s.content_eq_delivered_iff.2 hx
      rw [Screen.chunk_eq_content hempty, Generation.Chunk.content, hcontent]
      rfl
    rw [List.map_cons, List.cons_append, (relay_of_not_isTerminal hchunk _ rfl).1, ih hshown]
    rfl

/-- **What has been produced is shown, and then the internal error.** -/
theorem events_of_breaksDown {answer : Answer (List Item)} {contents : List String}
    (h : BreaksDown s.pipeline answer contents) :
    (Interleaving.whole s answer).events = contents.map Event.chunk ++ [.error internalMessage] := by
  cases h with
  | opening payload => rfl
  | streaming payload behind hdelivered => exact relay_of_delivered hempty hdelivered payload behind

end

/-! ## 2. Any interleaving -/

namespace Interleaving

/-- A phase without what a breakdown carries. -/
def Phase.silenced : Phase → Phase
  | .pulling left => .pulling (left.map Item.silenced)
  | .sending e left => .sending e (left.map (List.map Item.silenced))
  | phase => phase

def State.silenced (x : State) : State := { x with relay := x.relay.silenced }

section

variable {s : Screen} {answer answer' : Answer (List Item)} {x y : State}

theorem listens_silenced (p : Phase) : p.silenced.listens = p.listens := by
  cases p <;> rfl

theorem held_silenced (p : Phase) : p.silenced.held = p.held := by
  cases p with
  | sending e left => cases left <;> rfl
  | _ => rfl

/-- What stands alike to a relay that waits for the next item. -/
theorem exists_pulling {phase : Phase} {left : List Item}
    (h : phase.silenced = (Phase.pulling left).silenced) :
    ∃ left', phase = .pulling left' ∧ left'.map Item.silenced = left.map Item.silenced := by
  cases phase with
  | pulling left' => exact ⟨left', rfl, Phase.pulling.inj h⟩
  | _ => cases h

/-- What stands alike to a relay that is to send an event. -/
theorem exists_sending {phase : Phase} {e : Event} {left : Option (List Item)}
    (h : phase.silenced = (Phase.sending e left).silenced) : ∃ left', phase = .sending e left' ∧
      left'.map (List.map Item.silenced) = left.map (List.map Item.silenced) := by
  cases phase with
  | sending e' left' =>
    obtain ⟨rfl, hleft⟩ := Phase.sending.inj h
    exact ⟨left', rfl, hleft⟩
  | _ => cases h

theorem answered_alike (h : answer'.streamSilenced = answer.streamSilenced) :
    (answered answer').silenced = (answered answer).silenced := by
  cases answer with
  | ok items =>
    cases answer' with
    | ok items' => exact congrArg Phase.pulling (Answer.ok.inj h)
    | _ => cases h
  | failed f => cases answer' <;> cases h; rfl
  | brokeDown payload => cases answer' <;> cases h; rfl

theorem pulled_alike {left left' : List Item}
    (h : left'.map Item.silenced = left.map Item.silenced) :
    (pulled s left').1.silenced = (pulled s left).1.silenced ∧
      (pulled s left').2 = (pulled s left).2 ∧ (left'.take 1).length = (left.take 1).length := by
  cases left with
  | nil => rw [List.map_eq_nil_iff.1 h]; exact ⟨rfl, rfl, rfl⟩
  | cons item left =>
    obtain ⟨item', left', rfl, hitem, hleft⟩ := List.map_eq_cons_iff.1 h
    have hrest : (some left').map (List.map Item.silenced) =
        (some left).map (List.map Item.silenced) := congrArg some hleft
    rcases (Item.silenced_eq_iff item' item).1 hitem with rfl | ⟨payload, payload', rfl, rfl⟩
    · cases item' with
      | chunk c => exact ⟨congrArg (Phase.sending _) hrest, rfl, rfl⟩
      | failed f => exact ⟨congrArg (Phase.sending _) hrest, rfl, rfl⟩
      | brokeDown payload => exact ⟨rfl, rfl, rfl⟩
      | stalled => exact ⟨rfl, rfl, rfl⟩
    · exact ⟨rfl, rfl, rfl⟩

theorem sent_alike (e : Event) {left left' : Option (List Item)}
    (h : left'.map (List.map Item.silenced) = left.map (List.map Item.silenced)) :
    (sent e left').silenced = (sent e left).silenced := by
  cases left with
  | none => rw [Option.map_eq_none_iff.1 h]
  | some left =>
    obtain ⟨left', rfl, hleft⟩ := Option.map_eq_some_iff.1 h
    unfold sent
    cases e.isTerminal with
    | true => rfl
    | false => exact congrArg Phase.pulling hleft

/-- **A step has its counterpart** wherever the relay stands alike. -/
theorem Step.alike (h : Step s answer x y) (hanswer : answer'.streamSilenced = answer.streamSilenced)
    {phase : Phase} (hphase : phase.silenced = x.relay.silenced) :
    ∃ y', Step s answer' { x with relay := phase } y' ∧ y'.silenced = y.silenced := by
  cases h with
  | opens hrelay =>
    rw [hrelay] at hphase
    cases phase <;> cases hphase
    have hanswered : (answered answer').silenced = (answered answer).silenced :=
      answered_alike hanswer
    have hheld : (answered answer').held = (answered answer).held := by
      rw [← held_silenced, hanswered, held_silenced]
    refine ⟨_, .opens rfl, ?_⟩
    simp only [State.silenced, hanswered, hheld]
  | pulls hrelay =>
    rw [hrelay] at hphase
    obtain ⟨left', rfl, hleft⟩ := exists_pulling hphase
    obtain ⟨hrelay', hlog, htaken⟩ := pulled_alike (s := s) hleft
    refine ⟨_, .pulls rfl, ?_⟩
    simp only [State.silenced, hrelay', hlog, htaken]
  | notices hlistens hgone =>
    rw [← listens_silenced, ← hphase, listens_silenced] at hlistens
    exact ⟨_, .notices hlistens hgone, rfl⟩
  | @sends e left hrelay hconnected hslot =>
    rw [hrelay] at hphase
    obtain ⟨left', rfl, hleft⟩ := exists_sending hphase
    refine ⟨_, .sends rfl hconnected hslot, ?_⟩
    simp only [State.silenced, sent_alike e hleft]
  | @fails e left hrelay hgone =>
    rw [hrelay] at hphase
    obtain ⟨left', rfl, hleft⟩ := exists_sending hphase
    have hsome : left'.isSome = left.isSome := by
      rw [← Option.isSome_map, hleft, Option.isSome_map]
    refine ⟨_, .fails rfl hgone, ?_⟩
    simp only [State.silenced, hsome]
  | stops hrelay =>
    rw [hrelay] at hphase
    cases phase <;> cases hphase
    exact ⟨_, .stops rfl, rfl⟩
  | wakes hrelay hwatcher =>
    rw [hrelay] at hphase
    cases phase <;> cases hphase
    refine ⟨_, .wakes rfl hwatcher, ?_⟩
    simp only [State.silenced, hrelay]
  | alarms hwatcher hconnected hslot =>
    exact ⟨_, .alarms hwatcher hconnected hslot, by simp only [State.silenced, hphase]⟩
  | givesUp hwatcher hgone =>
    exact ⟨_, .givesUp hwatcher hgone, by simp only [State.silenced, hphase]⟩
  | receives hconnected hslot =>
    exact ⟨_, .receives hconnected hslot, by simp only [State.silenced, hphase]⟩
  | leaves hconnected =>
    exact ⟨_, .leaves hconnected, by simp only [State.silenced, hphase]⟩

/-- **What the parties can come to does not depend on what a breakdown carries.** -/
theorem reachable_alike (h : Reachable s answer x)
    (hanswer : answer'.streamSilenced = answer.streamSilenced) :
    ∃ x', Reachable s answer' x' ∧ x'.silenced = x.silenced := by
  induction h with
  | refl => exact ⟨start, .refl, rfl⟩
  | @tail x y _ hstep ih =>
    obtain ⟨x', hreach, hx⟩ := ih
    have hrelay : x'.relay.silenced = x.relay.silenced := congrArg State.relay hx
    have hstands : x' = { x with relay := x'.relay } := by
      have hback : x' = { x'.silenced with relay := x'.relay } := rfl
      rw [hx] at hback
      exact hback
    obtain ⟨y', hstep', hy⟩ := hstep.alike hanswer hrelay
    rw [← hstands] at hstep'
    exact ⟨y', .tail hreach hstep', hy⟩

theorem isOver_of_silenced {x' : State} (hx : x'.silenced = x.silenced) (h : x.IsOver) : x'.IsOver := by
  have hrelay : x'.relay.silenced = x.relay.silenced := congrArg State.relay hx
  obtain ⟨⟨brokeDown, hstopped⟩, hwatcher, hslot⟩ := h
  refine ⟨⟨brokeDown, ?_⟩, (congrArg State.watcher hx).trans hwatcher,
    (congrArg State.slot hx).trans hslot⟩
  rw [hstopped] at hrelay
  cases hphase : x'.relay <;> rw [hphase] at hrelay <;> cases hrelay
  rfl

/-- What the client has and what it may still expect is the same in two states that are alike. -/
theorem seen_alike {x' : State} (hx : x'.silenced = x.silenced) :
    x'.received = x.received ∧ x'.isConnected = x.isConnected ∧ (x'.IsOver ↔ x.IsOver) := by
  have hreceived : x'.silenced.received = x.silenced.received := congrArg State.received hx
  have hconnected : x'.silenced.isConnected = x.silenced.isConnected :=
    congrArg State.isConnected hx
  exact ⟨hreceived, hconnected, isOver_of_silenced hx.symm, isOver_of_silenced hx⟩

end

end Interleaving

/-! ## 3. Statuses -/

/-- The status of a response says success, or whose error it was. -/
def Conclusive (r : Http.Response) : Prop := r.status = 200 ∨ 400 ≤ r.status ∧ r.status ≤ 599

theorem status_failureStatus (status : UInt16) :
    400 ≤ Refusal.failureStatus status ∧ Refusal.failureStatus status ≤ 599 := by
  unfold Refusal.failureStatus
  by_cases h : 400 ≤ status ∧ status < 600
  · have hlow : 400 ≤ status.toNat := UInt16.le_iff_toNat_le.1 h.1
    have hhigh : status.toNat < 600 := UInt16.lt_iff_toNat_lt.1 h.2
    rw [if_pos h]
    omega
  · rw [if_neg h]
    decide

/-- **A refusal has the status of an error**, whatever status a provider's failure has. -/
theorem status_response (e : Refusal) : 400 ≤ e.response.status ∧ e.response.status ≤ 599 := by
  cases e with
  | provider f => exact status_failureStatus f.status
  | _ => simp [Refusal.response, Http.Response.json]

namespace Service

variable (s : Service) (out : Outside) (r : Http.Request)

theorem conclusive_conclude {α : Type} (o : Outcome α) {response : α → Http.Response}
    (h : ∀ a, Conclusive (response a)) : Conclusive (s.conclude o response).response := by
  rw [conclude]
  cases o.result with
  | ok a => exact h a
  | refused e => exact .inr (status_response e)
  | brokeDown payload => exact .inr (status_response (.internal payload))

theorem conclusive_serve (route : Route) : Conclusive (s.serve out route r).response := by
  cases route with
  | generate =>
    rw [serve, generate]
    cases submission out.remark r with
    | error e => exact .inr (status_response e)
    | ok q => exact conclusive_conclude s _ fun _ => .inl rfl
  | generateStream =>
    rw [serve, generateStream]
    cases submission out.remark r with
    | error e => exact .inr (status_response e)
    | ok q => exact conclusive_conclude s _ fun _ => .inl rfl
  | health => exact .inl rfl
  | providers => exact .inl rfl

theorem conclusive_onRoute (route : Route) : Conclusive (s.onRoute out route r).response := by
  rw [onRoute]
  split
  · rw [dispatch]
    have hserve := conclusive_serve s out r route
    split
    · split
      · exact hserve
      · exact hserve
    · exact .inr (show 400 ≤ 405 ∧ 405 ≤ 599 by decide)
  · rename_i e _
    have he := status_response e
    split
    · exact .inr he
    · exact .inr he

/-- **Every answer is a success or an error**, unless it is a page of the documentation. -/
theorem status_answer (h : Route.isDocumentation r.path = false) :
    Conclusive (s.answer out r).response := by
  rw [answer]
  cases Route.ofPath? r.path with
  | none =>
    show Conclusive (elsewhere out r)
    rw [elsewhere, h]
    cases r.method == "OPTIONS" with
    | true => exact .inl rfl
    | false => exact .inr (show 400 ≤ 404 ∧ 404 ≤ 599 by decide)
  | some route =>
    cases r.method == "OPTIONS" with
    | true => exact .inl rfl
    | false => exact conclusive_onRoute s out r route

/-! ## 4. Whole services -/

section

variable {s r} {q : Generation.Request} {p : Provider} (hadmitted : s.Admitted r q)
  (hprovider : s.gateway.registry.find? q.provider = some p)

include hadmitted hprovider

theorem permit_of_provider : ∃ a, s.gateway.permit q = (.ok a, []) ∧ a.provider = p ∧
    a.params = q.params (systemPrompt q) ∧ a.screen = ⟨s.gateway.pipeline q, s.gateway.scope q⟩ := by
  obtain ⟨a, hpermit, -, hfound, hparams⟩ := permit_of_admitted hadmitted
  refine ⟨a, hpermit, Option.some.inj (hfound.symm.trans hprovider), hparams, ?_⟩
  rw [(permit_eq_ok_iff.1 hpermit).2.2.1]

variable (hmethod : r.method = "POST")

include hmethod

/-- **A whole generation during which the provider breaks down** is answered by an internal error. -/
theorem answer_of_brokeDown (hpath : r.path = Route.generate.path) {payload : String}
    (hbreaks : (p.generate (q.params (systemPrompt q))).1 = .brokeDown payload) :
    (s.answer out r).response =
      (Http.Response.json 500 (errorBody internalMessage "INTERNAL_ERROR" none)).withHeader
        "access-control-allow-origin" "*" := by
  obtain ⟨a, hpermit, rfl, hparams, -⟩ := permit_of_provider hadmitted hprovider
  have hsubmission := submission_of_faultless out.remark hadmitted.body hadmitted.faultless
  have hp : a.provider.generate a.params =
      (.brokeDown payload, (a.provider.generate a.params).2) := by
    rw [hparams, ← hbreaks]
  rw [answer_of_post rfl hmethod hpath, guarded_of_mayCall hadmitted.caller]
  simp only [serve, generate, hsubmission, generate_of_brokeDown hpermit hp]
  rfl

/-- **A streamed one** is answered by what was produced, and then the internal error. -/
theorem answer_of_breaksDown (hpath : r.path = Route.generateStream.path) {contents : List String}
    (hbreaks : BreaksDown (s.gateway.pipeline q) (p.stream (q.params (systemPrompt q))).1 contents) :
    (s.answer out r).response =
      (Http.Response.eventStream ((contents.map Event.chunk ++ [Event.error internalMessage]).map
        Event.wire)).withHeader "access-control-allow-origin" "*" := by
  obtain ⟨a, hpermit, rfl, hparams, hscreen⟩ := permit_of_provider hadmitted hprovider
  have hsubmission := submission_of_faultless out.remark hadmitted.body hadmitted.faultless
  have hpipeline : a.screen.pipeline = s.gateway.pipeline q := by rw [hscreen]
  have hempty : a.screen.pipeline.checkOutput "" = .allowed := by
    rw [hpipeline]
    exact checkOutput_standard_empty _
  rw [← hparams, ← hpipeline] at hbreaks
  have hresult := Interleaving.stream_eq_whole hpermit
  rw [events_of_breaksDown hempty hbreaks] at hresult
  rw [answer_of_post rfl hmethod hpath, guarded_of_mayCall hadmitted.caller]
  simp only [serve, generateStream, hsubmission, conclude, hresult]

end

/-- **Internal faults are not told.**

    1. Two services whose providers differ at most in what their breakdowns carry tell the same to all
       callers, visit after visit, and log the same.
    2. A whole generation during which the provider breaks down is answered by an internal error.
    3. A streamed one is answered by the contents that were produced, and then the internal error.
    4. So it is in whatever order the parties of a stream take their steps: what the client receives can
       be received as well if the breakdown carries something else, and in the end it is the contents
       and the internal error.
    5. What is said about faults of the gateway and of its configuration does not depend on them.
    6. Refusals have statuses of errors, and all other answers have that of success or one of these, but
       for the pages of the documentation. -/
theorem faults_untold :
    (∀ s s' : Service, s.silenced = s'.silenced → ∀ visits, s.told visits = s'.told visits) ∧
    (∀ (s : Service) (out : Outside) (r : Http.Request) (q : Generation.Request) (p : Provider)
      (payload : String), r.method = "POST" → r.path = "/v1/generate" → s.Admitted r q →
      s.gateway.registry.find? q.provider = some p →
      (p.generate (q.params (systemPrompt q))).1 = .brokeDown payload →
      (s.answer out r).response =
        (Http.Response.json 500 (errorBody internalMessage "INTERNAL_ERROR" none)).withHeader
          "access-control-allow-origin" "*") ∧
    (∀ (s : Service) (out : Outside) (r : Http.Request) (q : Generation.Request) (p : Provider)
      (contents : List String), r.method = "POST" → r.path = "/v1/generate_stream" →
      s.Admitted r q → s.gateway.registry.find? q.provider = some p →
      BreaksDown (s.gateway.pipeline q) (p.stream (q.params (systemPrompt q))).1 contents →
      (s.answer out r).response =
        (Http.Response.eventStream ((contents.map Event.chunk ++ [Event.error internalMessage]).map
          Event.wire)).withHeader "access-control-allow-origin" "*") ∧
    (∀ (level : Level) (scope : Scope) (answer : Answer (List Item)) (x : Interleaving.State),
      Interleaving.Reachable ⟨.standard level, scope⟩ answer x →
      (∀ answer' : Answer (List Item), answer.streamSilenced = answer'.streamSilenced →
        ∃ x', Interleaving.Reachable ⟨.standard level, scope⟩ answer' x' ∧
          x'.received = x.received ∧ x'.isConnected = x.isConnected ∧ (x'.IsOver ↔ x.IsOver)) ∧
      ∀ contents, BreaksDown (.standard level) answer contents → x.isConnected = true →
        (x.IsOver → x.received = contents.map Event.chunk ++ [.error internalMessage]) ∧
        (Settles answer → ∃ y, Interleaving.Run ⟨.standard level, scope⟩ answer x y ∧
          y.isConnected = true ∧ y.IsOver)) ∧
    (∀ m m' : String, (Refusal.config m).response = (Refusal.config m').response ∧
      (Refusal.internal m).response = (Refusal.internal m').response) ∧
    (∀ e : Refusal, 400 ≤ e.response.status ∧ e.response.status ≤ 599) ∧
    ∀ (s : Service) (out : Outside) (r : Http.Request), Route.isDocumentation r.path = false →
      (s.answer out r).response.status = 200 ∨
        400 ≤ (s.answer out r).response.status ∧ (s.answer out r).response.status ≤ 599 := by
  refine ⟨?_, ?_, ?_, ?_, fun m m' => ⟨rfl, rfl⟩, status_response, status_answer⟩
  · intro s s' hs visits
    rw [← told_silenced s, hs, told_silenced]
  · intro s out r q p payload hmethod hpath hadmitted hprovider hbreaks
    exact answer_of_brokeDown out hadmitted hprovider hmethod hpath hbreaks
  · intro s out r q p contents hmethod hpath hadmitted hprovider hbreaks
    exact answer_of_breaksDown out hadmitted hprovider hmethod hpath hbreaks
  · intro level scope answer x hx
    refine ⟨?_, ?_⟩
    · intro answer' hanswer
      obtain ⟨x', hx', halike⟩ := Interleaving.reachable_alike hx hanswer.symm
      exact ⟨x', hx', Interleaving.seen_alike halike⟩
    · intro contents hbreaks hconnected
      refine ⟨?_, fun hsettles => ?_⟩
      · intro hover
        have hwhole := (Interleaving.faithful_of_reachable hx).whole_eq hconnected hover
        have hevents := events_of_breaksDown (s := ⟨.standard level, scope⟩)
          (checkOutput_standard_empty level) hbreaks
        rw [hwhole] at hevents
        exact hevents
      · exact Interleaving.exists_run_to_end (Interleaving.settled_of_reachable hsettles hx) hconnected

/-- Where a request goes has no say in what it asks for. -/
theorem Admitted.withTarget {s : Service} {r : Http.Request} {q : Generation.Request}
    (h : s.Admitted r q) (target : String) : s.Admitted { r with target := target } q :=
  ⟨h.caller, h.body, h.faultless, h.prompt, h.provider⟩

/-- A service whose provider breaks down at once, or in the middle of a stream. -/
def faulty (payload : String) : Service :=
  ⟨scripted [.brokeDown payload] [.items [.chunk (.delta "Hello"), .brokeDown payload]],
    .ofConfigured "secret"⟩

/-- The same greeting, to be streamed. -/
def welcomeStreamed : Http.Request := { welcome with target := "/v1/generate_stream" }

theorem admitted_faulty : (faulty "one").Admitted welcome greeting where
  caller := admitted_welcome.caller
  body := admitted_welcome.body
  faultless := admitted_welcome.faultless
  prompt := admitted_welcome.prompt
  provider := ⟨_, rfl⟩

theorem faults_untold_faulty :
    (∀ visits, (faulty "one").told visits = (faulty "two").told visits) ∧
    ((faulty "one").answer quiet welcome).response =
      (Http.Response.json 500 (errorBody internalMessage "INTERNAL_ERROR" none)).withHeader
        "access-control-allow-origin" "*" ∧
    ((faulty "one").answer quiet welcomeStreamed).response =
      (Http.Response.eventStream [(Event.chunk "Hello").wire,
        (Event.error internalMessage).wire]).withHeader "access-control-allow-origin" "*" := by
  obtain ⟨halike, hwhole, hstreamed, -⟩ := faults_untold
  have hbreaks : BreaksDown ((faulty "one").gateway.pipeline greeting)
      (.ok [.chunk (.delta "Hello"), .brokeDown "one"]) ["Hello"] := by
    refine @BreaksDown.streaming _ [("Hello", "Hello")] "one" [] ?_
    rw [List.forall_mem_singleton]
    have hallowed : (Pipeline.standard (.ofName "strict")).checkOutput "Hello" = .allowed := by
      decide +kernel
    exact .allowed hallowed
  refine ⟨halike _ _ rfl, ?_, ?_⟩
  · exact hwhole _ _ welcome greeting _ "one" rfl (by decide) admitted_faulty rfl rfl
  · have hadmitted : (faulty "one").Admitted welcomeStreamed greeting :=
      admitted_faulty.withTarget "/v1/generate_stream"
    have hpath : welcomeStreamed.path = "/v1/generate_stream" := by decide
    exact hstreamed _ _ _ _ _ _ rfl hpath hadmitted rfl hbreaks

end Service

end Gatehouse.Gateway
