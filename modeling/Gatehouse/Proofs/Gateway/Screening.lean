import Gatehouse.Gateway.Basic

/-!
# What screening lets through

* `Delivers` relates a produced text to the content that is delivered for it: the text itself if the
  pipeline allows it, its redaction if the pipeline asks for one, and nothing otherwise;
* `Screen.content_cases` and `Screen.chunk_cases` are the outcomes of screening a whole content and an
  increment of a stream;
* `permit_eq_ok_iff`: when a request is let through, and what is passed on; `permit_of_flagged` and
  `permit_of_get_eq_error` say what is refused otherwise;
* `generate_of_ok`: what becomes of a reply.
-/

namespace Gatehouse.Gateway

open Gatehouse.Generation (Chunk Event Request)
open Gatehouse.Safety

/-- **The content is what the pipeline leaves of the produced text**: all of it, or its redaction. -/
inductive Delivers (p : Pipeline) : (produced content : String) → Prop where
  | allowed {text : String} : p.checkOutput text = .allowed → Delivers p text text
  | redacted {text : String} {f : Finding} : p.checkOutput text = .redacted f →
      Delivers p text (PersonalData.redact text)

/-- No level has anything against the empty text. -/
theorem checkOutput_standard_empty (level : Level) :
    (Pipeline.standard level).checkOutput "" = .allowed := by
  cases level <;> decide +kernel

namespace Screen

variable (s : Screen)

/-- A content is delivered or blocked. -/
theorem content_cases (text : String) :
    (∃ u, (s.content text).1 = .delivered u ∧ Delivers s.pipeline text u) ∨
      ∃ f, (s.content text).1 = .withheld f.category ∧ s.pipeline.checkOutput text = .blocked f := by
  rw [content]
  cases h : s.pipeline.checkOutput text with
  | allowed => exact .inl ⟨text, rfl, .allowed h⟩
  | redacted f => exact .inl ⟨_, rfl, .redacted h⟩
  | blocked f => exact .inr ⟨f, rfl, rfl⟩

theorem content_eq_delivered_iff {text u : String} :
    (s.content text).1 = .delivered u ↔ Delivers s.pipeline text u := by
  constructor
  · intro h
    rcases s.content_cases text with ⟨u', h', hu⟩ | ⟨f, h', -⟩
    · obtain rfl := Screening.delivered.inj (h'.symm.trans h)
      exact hu
    · rw [h'] at h
      cases h
  · rw [content]
    rintro (h | h) <;> rw [h]

theorem content_of_blocked {text : String} {f : Finding}
    (h : s.pipeline.checkOutput text = .blocked f) :
    (s.content text).1 = .withheld f.category := by
  rw [content, h]

variable {s} (hempty : s.pipeline.checkOutput "" = .allowed)

include hempty

/-- Not checking an empty increment makes no difference if the empty text is allowed. -/
theorem increment_eq_content (text : String) : s.increment text = s.content text := by
  rw [increment]
  by_cases h : text.isEmpty = true
  · obtain rfl := String.isEmpty_iff.1 h
    rw [if_pos h, content, hempty]
    rfl
  · rw [if_neg h]

theorem chunk_eq_content (c : Chunk) :
    s.chunk c = (eventOf c (s.content c.content).1, (s.content c.content).2) := by
  rw [chunk, increment_eq_content hempty]

/-- **What becomes of a chunk**: an increment, the end of the stream, or an error in its place. -/
theorem chunk_cases (c : Chunk) :
    (∃ text u, c = .delta text ∧ Delivers s.pipeline text u ∧ (s.chunk c).1 = .chunk u) ∨
    (∃ text usage u, c = .last text usage ∧ Delivers s.pipeline text u ∧
      (s.chunk c).1 = .done u usage) ∨
    ∃ f, s.pipeline.checkOutput c.content = .blocked f ∧ (s.chunk c).1 = .error outputRejected := by
  rw [chunk_eq_content hempty]
  rcases s.content_cases c.content with ⟨u, h, hu⟩ | ⟨f, h, hf⟩
  · rw [h]
    cases c with
    | delta text => exact .inl ⟨text, u, rfl, hu, rfl⟩
    | last text usage => exact .inr (.inl ⟨text, usage, u, rfl, hu, rfl⟩)
  · rw [h]
    exact .inr (.inr ⟨f, hf, rfl⟩)

end Screen

/-- **When a request is let through**: its prompt is not flagged and its provider is registered. It is
    screened by the pipeline of its own safety level. -/
theorem permit_eq_ok_iff {g : Gateway} {r : Request} {a : Permit} {log : List SafetyEvent} :
    g.permit r = (.ok a, log) ↔ ((g.pipeline r).checkInput r.prompt).finding? = none ∧
      g.registry.get r.provider = .ok a.provider ∧
      a = ⟨r.provider, a.provider, r.params (systemPrompt r), ⟨g.pipeline r, g.scope r⟩⟩ ∧
      log = [] := by
  rw [permit]
  cases h : ((g.pipeline r).checkInput r.prompt).finding? with
  | some f => simp
  | none =>
    cases hp : g.registry.get r.provider with
    | error e => simp
    | ok p =>
      simp only [Prod.mk.injEq, Except.ok.injEq, true_and]
      constructor
      · intro h
        obtain ⟨rfl, rfl⟩ := h
        exact ⟨rfl, rfl, rfl⟩
      · intro h
        obtain ⟨rfl, ha, rfl⟩ := h
        exact ⟨ha.symm, rfl⟩

section

variable {g : Gateway} {r : Request}

/-- **A flagged prompt is refused**, with one entry in the log. -/
theorem permit_of_flagged {f : Finding}
    (h : ((g.pipeline r).checkInput r.prompt).finding? = some f) :
    g.permit r = (.error (.contentSafety (some f.category) f.detail),
      [⟨.input, .blocked, f, g.scope r⟩]) := by
  have hblocked : (g.pipeline r).checkInput r.prompt = .blocked f := by
    rw [Pipeline.checkInput] at h ⊢
    cases hv : (g.pipeline r).firstFlag .input r.prompt with
    | allowed =>
      rw [hv] at h
      cases h
    | blocked f' =>
      rw [hv] at h
      rw [← Option.some.inj h]
      rfl
    | redacted f' =>
      rw [hv] at h
      rw [← Option.some.inj h]
      rfl
  rw [permit, hblocked]
  rfl

theorem permit_of_get_eq_error {e : Provider.RegistryError}
    (h : ((g.pipeline r).checkInput r.prompt).finding? = none)
    (hget : g.registry.get r.provider = .error e) :
    g.permit r = (.error (.ofRegistryError e), []) := by
  rw [permit, h]
  simp only [hget]

end

/-! ## Whole generations -/

section

variable {g : Gateway} {r : Request} {a : Permit} {log : List SafetyEvent} {p : Provider}
  (h : g.permit r = (.ok a, log))

include h

theorem generate_of_failed {f : Provider.Failure}
    (hp : a.provider.generate a.params = (.failed f, p)) :
    g.generate r = ⟨.refused (.provider f), log, g.withProvider a.name p⟩ := by
  simp only [generate, h, hp]

theorem generate_of_brokeDown {payload : String}
    (hp : a.provider.generate a.params = (.brokeDown payload, p)) :
    g.generate r = ⟨.brokeDown payload, log, g.withProvider a.name p⟩ := by
  simp only [generate, h, hp]

/-- A reply is screened, and the outcome is that of its screening. -/
theorem generate_of_ok {reply : Generation.Reply}
    (hp : a.provider.generate a.params = (.ok reply, p)) :
    g.generate r = ⟨match (a.screen.content reply.content).1 with
        | .delivered text => .ok (.ofReply reply text r.taskType)
        | .withheld category => .refused (.contentSafety (some category) outputRejected),
      log ++ (a.screen.content reply.content).2, g.withProvider a.name p⟩ := by
  simp only [generate, h, hp]
  cases a.screen.content reply.content with
  | mk screening screened => cases screening <;> rfl

end

/-! ## A gateway that follows a script -/

/-- A gateway at the strict level with one provider, which follows the scripts. -/
def scripted (replies : List Provider.ReplyLine) (streams : List Provider.StreamLine) : Gateway :=
  ⟨⟨[("script", .ofEngine (.scripted ⟨"script", [], true, none, replies, streams⟩))]⟩, "strict"⟩

/-- A request to that provider. -/
def greeting : Request :=
  ⟨"script", "model", "Say hello", Request.defaultTemperature, Request.defaultMaxTokens, none, none,
    none⟩

/-- The permit for the request. -/
def greetingPermit (replies : List Provider.ReplyLine) (streams : List Provider.StreamLine) :
    Permit :=
  ⟨"script", .ofEngine (.scripted ⟨"script", [], true, none, replies, streams⟩),
    greeting.params none, ⟨.standard (.ofName "strict"), ⟨none, none, "strict"⟩⟩⟩

theorem permit_greeting (replies : List Provider.ReplyLine) (streams : List Provider.StreamLine) :
    (scripted replies streams).permit greeting = (.ok (greetingPermit replies streams), []) := by
  refine permit_eq_ok_iff.2 ⟨?_, rfl, rfl, rfl⟩
  show ((Pipeline.standard (.ofName "strict")).checkInput "Say hello").finding? = none
  decide +kernel

end Gatehouse.Gateway
