import Gatehouse.Proofs.Gateway.Agreement
import Gatehouse.Proofs.Safety.Levels

/-!
# The same request at a laxer level

A request that is not rejected at a level has the same outcome at every laxer one.

* `Laxer`: the same request to the same providers runs at a laxer level; `StreamRejects` says when the
  pipeline rejects a streamed request, as `Rejects` does for a whole one;
* `SameOutcome`: two runs differ in nothing but the level that the safety log names;
* `relay_of_laxer`: streams are relayed alike, unless a chunk is rejected at the tighter level;
* `laxer_agrees`: what is not rejected at the tighter level has the same outcome at the laxer one.
-/

namespace Gatehouse.Gateway

open Gatehouse.Generation (Chunk Event Request)
open Gatehouse.Provider (Item)
open Gatehouse.Safety

/-! ## 1. Two runs -/

/-- **The second run is the first at a laxer level**: the providers are the same, and so is all that is
    asked for. -/
structure Laxer (g : Gateway) (r : Request) (g' : Gateway) (r' : Request) : Prop where
  registry : g'.registry = g.registry
  request : r' = { r with context := r'.context }
  tenant : r'.tenantId = r.tenantId
  level : (Level.ofName (g.levelName r)).Tighter (.ofName (g'.levelName r'))

/-- **The pipeline rejects a streamed request**: its prompt, or one of the chunks it is answered with,
    in whose place there is an error. -/
inductive StreamRejects (g : Gateway) (r : Request) : Prop where
  | prompt {category : Option Category} {detail : String} :
      (g.stream r).result = .refused (.contentSafety category detail) → StreamRejects g r
  | chunk {items : List Item} {events : List Event} {i : Nat} {c : Chunk} :
      Streams g r (g.levelName r) items → (g.stream r).result = .ok events →
      items[i]? = some (.chunk c) → events[i]? = some (.error outputRejected) → StreamRejects g r

/-- The entry as it is written at a level. -/
def SafetyEvent.atLevel (level : String) (e : SafetyEvent) : SafetyEvent :=
  { e with scope := { e.scope with safetyLevel := level } }

/-- **Two runs have the same outcome** but for the level in the safety log: the same result, the same
    redactions, and providers that were used alike. -/
structure SameOutcome {α : Type} (level : String) (o o' : Outcome α) : Prop where
  result : o'.result = o.result
  log : o'.log = o.log.map (·.atLevel level)
  providers : o'.after.registry = o.after.registry

/-! ## 2. Screening -/

/-- What one screen is to another at a laxer level. -/
structure Screen.Laxer (s s' : Screen) : Prop where
  verdict : ∀ text, s'.pipeline.checkOutput text = s.pipeline.checkOutput text ∨
    ∃ f, s.pipeline.checkOutput text = .blocked f
  scope : s'.scope = { s.scope with safetyLevel := s'.scope.safetyLevel }

namespace Screen.Laxer

variable {s s' : Screen} (h : s.Laxer s')

include h

theorem entries (d : Direction) (v : Verdict) :
    s'.scope.entries d v = (s.scope.entries d v).map (·.atLevel s'.scope.safetyLevel) := by
  rw [h.scope]
  cases v <;> rfl

/-- A content is screened alike, unless it is withheld. -/
theorem content (text : String) : (∃ category, (s.content text).1 = .withheld category) ∨
    s'.content text = ((s.content text).1,
      (s.content text).2.map (·.atLevel s'.scope.safetyLevel)) := by
  rcases h.verdict text with hv | ⟨f, hf⟩
  · right
    rw [Screen.content, hv, h.entries]
    rfl
  · exact .inl ⟨f.category, s.content_of_blocked hf⟩

/-- A chunk is screened alike, unless there is an error in its place. -/
theorem chunk (c : Chunk) : (s.chunk c).1 = .error outputRejected ∨
    s'.chunk c = ((s.chunk c).1, (s.chunk c).2.map (·.atLevel s'.scope.safetyLevel)) := by
  by_cases hempty : c.content.isEmpty = true
  · simp [Screen.chunk, increment, hempty]
  · rcases h.content c.content with ⟨category, hwithheld⟩ | heq
    · simp [Screen.chunk, increment, hempty, hwithheld, eventOf]
    · simp [Screen.chunk, increment, hempty, heq]

end Screen.Laxer

/-- **Streams are relayed alike**, unless there is an error in the place of a chunk. -/
theorem relay_of_laxer {s s' : Screen} (h : s.Laxer s') (items : List Item) :
    (∃ (i : Nat) (c : Chunk), items[i]? = some (.chunk c) ∧
      (relay s items).events[i]? = some (.error outputRejected)) ∨
    relay s' items = { relay s items with
      log := (relay s items).log.map (·.atLevel s'.scope.safetyLevel) } := by
  induction items with
  | nil => exact .inr rfl
  | cons item items ih =>
    cases item with
    | failed f => exact .inr rfl
    | brokeDown payload => exact .inr rfl
    | stalled => exact .inr rfl
    | chunk c =>
      rcases h.chunk c with hrejected | heq
      · have hevents := (relay_of_isTerminal hrejected items rfl).1
        exact .inl ⟨0, c, rfl, by rw [hevents]; rfl⟩
      · cases hterminal : (s.chunk c).1.isTerminal with
        | true =>
          right
          simp [relay, heq, hterminal]
        | false =>
          rcases ih with ⟨i, d, hi, he⟩ | hrelay
          · have hevents := (relay_of_not_isTerminal rfl items hterminal).1
            exact .inl ⟨i + 1, d, hi, by rw [hevents]; exact he⟩
          · right
            simp [relay, heq, hterminal, hrelay, Relayed.after]

/-! ## 3. Requests -/

namespace Laxer

variable {g g' : Gateway} {r r' : Request} (h : Laxer g r g' r')

include h

theorem screen : (screenAt r (g.levelName r)).Laxer (screenAt r' (g'.levelName r')) where
  verdict text := h.level.firstFlag .output text
  scope := by
    rw [screenAt, screenAt, h.request]
    exact congrArg (fun t => (⟨r.taskType, t, _⟩ : Scope)) h.tenant

/-- A request is let through alike, unless its prompt is rejected. -/
theorem permit : (∃ category detail log,
      g.permit r = (.error (.contentSafety category detail), log)) ∨
    (∃ e, g.permit r = (.error e, []) ∧ g'.permit r' = (.error e, [])) ∨
    ∃ a, g.permit r = (.ok a, []) ∧ a.screen = screenAt r (g.levelName r) ∧
      g'.permit r' = (.ok { a with screen := screenAt r' (g'.levelName r') }, []) := by
  have hprompt : r'.prompt = r.prompt := by rw [h.request]
  have hprovider : r'.provider = r.provider := by rw [h.request]
  have hparams : r'.params (systemPrompt r') = r.params (systemPrompt r) := by
    rw [h.request]
    rfl
  cases hv : ((g.pipeline r).checkInput r.prompt).finding? with
  | some f => exact .inl ⟨_, _, _, permit_of_flagged hv⟩
  | none =>
    have hv' : ((g'.pipeline r').checkInput r'.prompt).finding? = none := by
      rw [Pipeline.checkInput, Verdict.finding?_toBlocked] at hv ⊢
      rcases h.level.firstFlag .input r.prompt with heq | ⟨f, hf⟩
      · rw [hprompt, pipeline, heq]
        exact hv
      · rw [pipeline, hf] at hv
        cases hv
    have hget' : g'.registry.get r'.provider = g.registry.get r.provider := by
      rw [hprovider, h.registry]
    cases hget : g.registry.get r.provider with
    | error e =>
      exact .inr (.inl ⟨_, permit_of_get_eq_error hv hget,
        permit_of_get_eq_error hv' (hget'.trans hget)⟩)
    | ok p =>
      refine .inr (.inr ⟨⟨r.provider, p, r.params (systemPrompt r), screenAt r (g.levelName r)⟩,
        permit_eq_ok_iff.2 ⟨hv, hget, rfl, rfl⟩, rfl,
        permit_eq_ok_iff.2 ⟨hv', hget'.trans hget, ?_, rfl⟩⟩)
      rw [hprovider, hparams]
      rfl

theorem withProvider (name : String) (p : Provider) :
    (g'.withProvider name p).registry = (g.withProvider name p).registry := by
  rw [Gateway.withProvider, Gateway.withProvider, h.registry]

/-- **Whole generations have the same outcome**, unless the tighter level rejects. -/
theorem generate : Rejects g r ∨
    SameOutcome (g'.levelName r') (g.generate r) (g'.generate r') := by
  rcases h.permit with ⟨category, detail, log, hp⟩ | ⟨e, hp, hp'⟩ | ⟨a, hp, hscreen, hp'⟩
  · exact .inl ⟨category, detail, by rw [Gateway.generate, hp]⟩
  · right
    rw [Gateway.generate, hp, Gateway.generate, hp']
    exact ⟨rfl, rfl, h.registry⟩
  · cases hanswer : a.provider.generate a.params with
    | mk answer p =>
      cases answer with
      | failed f =>
        rw [generate_of_failed hp hanswer, generate_of_failed hp' hanswer]
        exact .inr ⟨rfl, rfl, h.withProvider a.name p⟩
      | brokeDown payload =>
        rw [generate_of_brokeDown hp hanswer, generate_of_brokeDown hp' hanswer]
        exact .inr ⟨rfl, rfl, h.withProvider a.name p⟩
      | ok reply =>
        have htask : r'.taskType = r.taskType := by rw [h.request]
        rw [Rejects, generate_of_ok hp hanswer, generate_of_ok hp' hanswer, hscreen]
        rcases h.screen.content reply.content with ⟨category, hwithheld⟩ | heq
        · rw [hwithheld]
          exact .inl ⟨_, _, rfl⟩
        · rw [heq, htask]
          exact .inr ⟨rfl, rfl, h.withProvider a.name p⟩

/-- **Streamed generations have the same outcome**, unless the tighter level rejects. -/
theorem stream : StreamRejects g r ∨
    SameOutcome (g'.levelName r') (g.stream r) (g'.stream r') := by
  rcases h.permit with ⟨category, detail, log, hp⟩ | ⟨e, hp, hp'⟩ | ⟨a, hp, hscreen, hp'⟩
  · have hresult : (g.stream r).result = .refused (.contentSafety category detail) := by
      rw [Gateway.stream, hp]
    exact .inl (.prompt hresult)
  · right
    rw [Gateway.stream, hp, Gateway.stream, hp']
    exact ⟨rfl, rfl, h.registry⟩
  · cases hanswer : a.provider.stream a.params with
    | mk answer p =>
      cases answer with
      | failed f =>
        rw [stream_of_failed hp hanswer, stream_of_failed hp' hanswer]
        exact .inr ⟨rfl, rfl, h.withProvider a.name p⟩
      | brokeDown payload =>
        rw [stream_of_brokeDown hp hanswer, stream_of_brokeDown hp' hanswer]
        exact .inr ⟨rfl, rfl, h.withProvider a.name p⟩
      | ok items =>
        have hstreams : Streams g r (g.levelName r) items := .intro rfl hp (by rw [hanswer])
        rcases relay_of_laxer h.screen items with ⟨i, c, hi, he⟩ | hrelay
        · exact .inl (.chunk hstreams hstreams.outcome.1 hi he)
        · rw [stream_of_ok hp hanswer, stream_of_ok hp' hanswer, hscreen]
          simp only [hrelay]
          exact .inr ⟨rfl, rfl, h.withProvider a.name _⟩

end Laxer

/-! ## 4. Levels from end to end -/

/-- **What is not rejected at a level has the same outcome at every laxer one**: the same result, the
    same redactions, and the same use of the providers. Each text that is blocked at a level is blocked
    at every tighter one. -/
theorem laxer_agrees :
    (∀ g r g' r', Laxer g r g' r' →
      (¬ Rejects g r → SameOutcome (g'.levelName r') (g.generate r) (g'.generate r')) ∧
      (¬ StreamRejects g r → SameOutcome (g'.levelName r') (g.stream r) (g'.stream r'))) ∧
    ∀ l l' : Level, l.Tighter l' → ∀ text,
      ((∃ f, (Pipeline.standard l').checkInput text = .blocked f) →
        ∃ f, (Pipeline.standard l).checkInput text = .blocked f) ∧
      ((∃ f, (Pipeline.standard l').checkOutput text = .blocked f) →
        ∃ f, (Pipeline.standard l).checkOutput text = .blocked f) := by
  refine ⟨fun g r g' r' h => ⟨?_, ?_⟩, fun l l' h text => h.blocked text⟩
  · exact h.generate.resolve_left
  · exact h.stream.resolve_left

/-- The request at the laxest level. -/
def laxGreeting : Request := { greeting with context := some ⟨none, some "standard"⟩ }

theorem laxer_agrees_address :
    SameOutcome "standard" (answering.generate greeting) (answering.generate laxGreeting) ∧
      SameOutcome "standard" (answering.stream greeting) (answering.stream laxGreeting) ∧
      ∃ f, (Pipeline.standard .strict).checkOutput "murder, torture and a bomb" = .blocked f := by
  obtain ⟨hruns, htexts⟩ := laxer_agrees
  have hstrict : Level.ofName (answering.levelName greeting) = .strict := by decide +kernel
  have hstandard : Level.ofName (answering.levelName laxGreeting) = .standard := by decide +kernel
  have hlaxer : Laxer answering greeting answering laxGreeting :=
    ⟨rfl, rfl, rfl, by rw [hstrict, hstandard]; exact .strict_standard⟩
  have hviolent : (Pipeline.standard .standard).checkOutput "murder, torture and a bomb" =
      .blocked ⟨.inappropriate, certain,
        "Content flagged for violence (score 12, threshold 10)"⟩ := by decide +kernel
  obtain ⟨hwhole, hstreamed⟩ := hruns _ _ _ _ hlaxer
  refine ⟨hwhole ?_, hstreamed ?_, (htexts _ _ .strict_standard _).2 ⟨_, hviolent⟩⟩
  · let reply : Generation.Reply :=
      ⟨"Write to me@example.org", "model", "script", Generation.Usage.zero, "stop"⟩
    have hreplies : Replies answering greeting "strict" reply.content :=
      .intro rfl (permit_greeting _ _) (show _ = Provider.Answer.ok reply from rfl)
    have hdelivered : ((screenAt greeting "strict").content reply.content).1 =
        .delivered "Write to [REDACTED EMAIL]" := by decide +kernel
    rw [hreplies.outcome.2.1, hdelivered]
    exact nofun
  · have hstreams : Streams answering greeting "strict"
        [.chunk (.last "Write to me@example.org" none)] := .intro rfl (permit_greeting _ _) rfl
    have hevents : (relay (screenAt greeting "strict")
        [.chunk (.last "Write to me@example.org" none)]).events =
          [.done "Write to [REDACTED EMAIL]" none] := by decide +kernel
    have hresult := hstreams.outcome.1
    rw [hevents] at hresult
    intro hrejects
    cases hrejects with
    | prompt h =>
      rw [hresult] at h
      cases h
    | @chunk items events i c _ h _ he =>
      rw [hresult] at h
      obtain rfl := Result.ok.inj h
      cases List.mem_singleton.1 (List.mem_of_getElem? he)

end Gatehouse.Gateway
