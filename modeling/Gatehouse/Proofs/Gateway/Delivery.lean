import Gatehouse.Proofs.Gateway.Stream
import Gatehouse.Proofs.Safety.Markup
import Gatehouse.Proofs.Safety.Pipeline
import Gatehouse.Proofs.Safety.Redaction
import Gatehouse.Proofs.Safety.Scores

/-!
# What reaches the caller

Everything a caller gets of what a provider produced has been screened, and in one of two ways.

* `Gets`: the caller of one of the two operations gets a content; `Brings` adds the text that the
  provider produced in its place, and `gets_iff` finds one for every content;
* `Brings.delivers`: the content is what the pipeline of the request leaves of that text;
* `delivers_standard_iff` says what that is: the text itself if no filter flags it, its redaction if
  the firewall does not and it holds personal data.

From this it follows for every delivered content where personal data is left in it, that the classifier
has something against it only if it was redacted from a text that the classifier does not allow either,
and that the firewall has nothing against it.
-/

namespace Gatehouse.Gateway

open Gatehouse.Generation (Chunk Event Finished Reply Request)
open Gatehouse.Provider (Item)
open Gatehouse.Safety

/-! ## 1. Produced texts and delivered contents -/

/-- The content an event brings. -/
def contentOf : Event → Option String
  | .chunk content => some content
  | .done content _ => some content
  | .error _ => none

/-- **The caller gets the content**: in a whole generation, or in an event of a streamed one. -/
inductive Gets (g : Gateway) (r : Request) : (content : String) → Prop where
  | whole {f : Finished} : (g.generate r).result = .ok f → Gets g r f.content
  | part {events : List Event} {e : Event} {content : String} : (g.stream r).result = .ok events →
      e ∈ events → contentOf e = some content → Gets g r content

/-- **The caller gets the content in the place of a text that the provider produced**: of its reply, or
    of the item of its stream that stands where the event does. -/
inductive Brings (g : Gateway) (r : Request) : (produced content : String) → Prop where
  | whole {a : Permit} {reply : Reply} {f : Finished} : (g.permit r).1 = .ok a →
      (a.provider.generate a.params).1 = .ok reply → (g.generate r).result = .ok f →
      Brings g r reply.content f.content
  | part {a : Permit} {items : List Item} {events : List Event} {i : Nat} {c : Chunk} {e : Event}
      {content : String} : (g.permit r).1 = .ok a → (a.provider.stream a.params).1 = .ok items →
      (g.stream r).result = .ok events → items[i]? = some (.chunk c) → events[i]? = some e →
      contentOf e = some content → Brings g r c.content content

/-! ## 2. Whole generations -/

/-- What comes of a request for a whole generation that is let through. -/
theorem generate_of_permit {g : Gateway} {r : Request} {a : Permit} {log : List SafetyEvent}
    {f : Finished} (h : g.permit r = (.ok a, log)) : (g.generate r).result = .ok f ↔
      ∃ reply content, (a.provider.generate a.params).1 = .ok reply ∧
        Delivers (g.pipeline r) reply.content content ∧ f = .ofReply reply content r.taskType := by
  have hpipeline : a.screen.pipeline = g.pipeline r := by rw [(permit_eq_ok_iff.1 h).2.2.1]
  cases hp : a.provider.generate a.params with
  | mk answer p =>
    cases answer with
    | failed failure =>
      rw [generate_of_failed h hp]
      simp
    | brokeDown payload =>
      rw [generate_of_brokeDown h hp]
      simp
    | ok reply =>
      rw [generate_of_ok h hp]
      simp only [Provider.Answer.ok.injEq, exists_and_left, exists_eq_left', ← hpipeline,
        ← a.screen.content_eq_delivered_iff]
      cases (a.screen.content reply.content).1 with
      | withheld category => simp
      | delivered text => simp [eq_comm]

theorem exists_permit_of_generate {g : Gateway} {r : Request} {f : Finished}
    (h : (g.generate r).result = .ok f) : ∃ a log, g.permit r = (.ok a, log) := by
  rw [generate] at h
  cases hpermit : g.permit r with
  | mk permit log =>
    cases permit with
    | error e =>
      rw [hpermit] at h
      cases h
    | ok a => exact ⟨a, log, rfl⟩

/-! ## 3. Streamed generations -/

theorem exists_permit_of_stream {g : Gateway} {r : Request} {events : List Event}
    (h : (g.stream r).result = .ok events) : ∃ a log, g.permit r = (.ok a, log) := by
  rw [stream] at h
  cases hpermit : g.permit r with
  | mk permit log =>
    cases permit with
    | error e =>
      rw [hpermit] at h
      cases h
    | ok a => exact ⟨a, log, rfl⟩

/-- **Each event that brings a content comes from the item that stands where it does**, also of a
    stream that stalls in the end. -/
theorem exists_item_of_relay {s : Screen} (hempty : s.pipeline.checkOutput "" = .allowed)
    {items : List Item} {i : Nat} {e : Event} {content : String}
    (he : (relay s items).events[i]? = some e) (hcontent : contentOf e = some content) :
    ∃ c, items[i]? = some (.chunk c) ∧ Delivers s.pipeline c.content content := by
  have only {e' : Event} {i : Nat} (h : [e'][i]? = some e) : i = 0 ∧ e' = e := by
    cases i with
    | zero => exact ⟨rfl, Option.some.inj h⟩
    | succ i => cases h
  induction items generalizing i with
  | nil =>
    obtain ⟨rfl, rfl⟩ := only he
    cases hcontent
  | cons item items ih =>
    cases item with
    | stalled => cases he
    | failed f =>
      obtain ⟨rfl, rfl⟩ := only he
      cases hcontent
    | brokeDown payload =>
      obtain ⟨rfl, rfl⟩ := only he
      cases hcontent
    | chunk c =>
      rcases s.chunk_cases hempty c with ⟨text, u, rfl, hu, hc⟩ |
        ⟨text, usage, u, rfl, hu, hc⟩ | ⟨f, hf, hc⟩
      · rw [(relay_of_not_isTerminal hc items rfl).1] at he
        cases i with
        | zero =>
          obtain rfl := Option.some.inj he
          obtain rfl := Option.some.inj hcontent
          exact ⟨.delta text, rfl, hu⟩
        | succ i => exact ih he
      · rw [(relay_of_isTerminal hc items rfl).1] at he
        obtain ⟨rfl, rfl⟩ := only he
        obtain rfl := Option.some.inj hcontent
        exact ⟨.last text usage, rfl, hu⟩
      · rw [(relay_of_isTerminal hc items rfl).1] at he
        obtain ⟨rfl, rfl⟩ := only he
        cases hcontent

/-- What a streamed request that is let through brings. -/
theorem exists_item_of_stream {g : Gateway} {r : Request} {a : Permit} {log : List SafetyEvent}
    {events : List Event} {i : Nat} {e : Event} {content : String}
    (h : g.permit r = (.ok a, log)) (hresult : (g.stream r).result = .ok events)
    (he : events[i]? = some e) (hcontent : contentOf e = some content) :
    ∃ items c, (a.provider.stream a.params).1 = .ok items ∧ items[i]? = some (.chunk c) ∧
      Delivers (g.pipeline r) c.content content := by
  have hpipeline : a.screen.pipeline = g.pipeline r := by rw [(permit_eq_ok_iff.1 h).2.2.1]
  have hempty : a.screen.pipeline.checkOutput "" = .allowed := by
    rw [hpipeline]
    exact checkOutput_standard_empty _
  -- without a stream the one event is an error
  have noError {message : String} (h : Result.ok [Event.error message] = Result.ok events) :
      False := by
    obtain rfl := Result.ok.inj h
    cases i with
    | zero =>
      obtain rfl := Option.some.inj he
      cases hcontent
    | succ i => cases he
  cases hp : a.provider.stream a.params with
  | mk answer p =>
    cases answer with
    | failed f =>
      rw [stream_of_failed h hp] at hresult
      exact (noError hresult).elim
    | brokeDown payload =>
      rw [stream_of_brokeDown h hp] at hresult
      exact (noError hresult).elim
    | ok items =>
      rw [stream_of_ok h hp] at hresult
      obtain rfl := Result.ok.inj hresult
      obtain ⟨c, hc, hdelivers⟩ := exists_item_of_relay hempty he hcontent
      rw [hpipeline] at hdelivers
      exact ⟨items, c, rfl, hc, hdelivers⟩

/-! ## 4. Every content that is delivered -/

/-- **Whatever the caller gets was screened by the pipeline of the request.** -/
theorem Brings.delivers {g : Gateway} {r : Request} {produced content : String}
    (h : Brings g r produced content) : Delivers (g.pipeline r) produced content := by
  cases h with
  | @whole a reply f ha hreply hf =>
    obtain ⟨a', log, hpermit⟩ := exists_permit_of_generate hf
    obtain rfl : a' = a := by
      rw [hpermit] at ha
      exact Except.ok.inj ha
    obtain ⟨reply', content, hreply', hdelivers, rfl⟩ := (generate_of_permit hpermit).1 hf
    obtain rfl : reply' = reply := Provider.Answer.ok.inj (hreply'.symm.trans hreply)
    exact hdelivers
  | @part a items events i c e content ha hitems hevents hc he hcontent =>
    obtain ⟨a', log, hpermit⟩ := exists_permit_of_stream hevents
    obtain rfl : a' = a := by
      rw [hpermit] at ha
      exact Except.ok.inj ha
    obtain ⟨items', c', hitems', hc', hdelivers⟩ :=
      exists_item_of_stream hpermit hevents he hcontent
    obtain rfl : items' = items := Provider.Answer.ok.inj (hitems'.symm.trans hitems)
    obtain rfl : c' = c := by
      rw [hc'] at hc
      exact Item.chunk.inj (Option.some.inj hc)
    exact hdelivers

/-- **Every content the caller gets stands in the place of a text that was produced.** -/
theorem gets_iff {g : Gateway} {r : Request} {content : String} :
    Gets g r content ↔ ∃ produced, Brings g r produced content := by
  constructor
  · intro h
    cases h with
    | @whole f hf =>
      obtain ⟨a, log, hpermit⟩ := exists_permit_of_generate hf
      obtain ⟨reply, content, hreply, hdelivers, rfl⟩ := (generate_of_permit hpermit).1 hf
      exact ⟨reply.content, .whole (by rw [hpermit]) hreply hf⟩
    | @part events e content hevents he hcontent =>
      obtain ⟨i, hi⟩ := List.mem_iff_getElem?.1 he
      obtain ⟨a, log, hpermit⟩ := exists_permit_of_stream hevents
      obtain ⟨items, c, hitems, hc, -⟩ := exists_item_of_stream hpermit hevents hi hcontent
      exact ⟨c.content, .part (by rw [hpermit]) hitems hevents hc hi hcontent⟩
  · intro h
    obtain ⟨produced, h⟩ := h
    cases h with
    | whole _ _ hf => exact .whole hf
    | part _ _ hevents _ he hcontent => exact .part hevents (List.mem_of_getElem? he) hcontent

/-! ## 5. What the standard pipeline leaves -/

/-- **What the standard pipeline delivers for a text**: nothing if the firewall flags it; its redaction
    if it holds personal data, whatever the classifier would have to say; otherwise the text itself, if
    the classifier does not flag it. -/
theorem delivers_standard_iff {level : Level} {text content : String} :
    Delivers (.standard level) text content ↔ Firewall.check .output text = .allowed ∧
      if PersonalData.check .output text = .allowed then
        level.check text = .allowed ∧ content = text
      else content = PersonalData.redact text := by
  have hcheck := Pipeline.checkOutput_standard level text
  constructor
  · intro h
    rcases Firewall.check_cases .output text with hf | ⟨f, hf⟩
    · refine ⟨hf, ?_⟩
      rw [hf] at hcheck
      rcases PersonalData.check_output_cases text with hp | ⟨f, hp⟩
      · rw [if_pos hp]
        rw [hp] at hcheck
        rcases level.check_cases text with hc | ⟨f, hc⟩
        · rw [hc] at hcheck
          cases h with
          | allowed _ => exact ⟨hc, rfl⟩
          | redacted h => cases h.symm.trans hcheck
        · rw [hc] at hcheck
          rcases h with h | h <;> cases h.symm.trans hcheck
      · rw [if_neg (by rw [hp]; exact nofun)]
        rw [hp] at hcheck
        cases h with
        | allowed h => cases h.symm.trans hcheck
        | redacted _ => rfl
    · rw [hf] at hcheck
      rcases h with h | h <;> cases h.symm.trans hcheck
  · intro h
    obtain ⟨hf, h⟩ := h
    rw [hf] at hcheck
    rcases PersonalData.check_output_cases text with hp | ⟨f, hp⟩
    · rw [if_pos hp] at h
      obtain ⟨hc, rfl⟩ := h
      rw [hp, hc] at hcheck
      exact .allowed hcheck
    · rw [if_neg (by rw [hp]; exact nofun)] at h
      obtain rfl := h
      rw [hp] at hcheck
      exact .redacted hcheck

theorem Brings.delivers_standard {g : Gateway} {r : Request} {produced content : String}
    (h : Brings g r produced content) :
    Delivers (.standard (.ofName (g.levelName r))) produced content :=
  h.delivers

/-- A gateway whose provider replies with the text. -/
def replying (text : String) : Gateway := scripted [.reply text none Generation.Usage.zero "stop"] []

theorem brings_of_delivers {text content : String}
    (h : Delivers (.standard (.ofName "strict")) text content) :
    Brings (replying text) greeting text content := by
  have hpermit := permit_greeting [.reply text none Generation.Usage.zero "stop"] []
  let reply : Reply := ⟨text, "model", "script", Generation.Usage.zero, "stop"⟩
  have hresult : ((replying text).generate greeting).result = .ok (.ofReply reply content none) :=
    (generate_of_permit hpermit).2 ⟨reply, content, rfl, h, rfl⟩
  exact .whole (congrArg Prod.fst hpermit) (show _ = Provider.Answer.ok reply from rfl) hresult

/-- A text with a mail address in it. -/
def mail : String := "Write to me@example.org"

theorem brings_mail : Brings (replying mail) greeting mail "Write to [REDACTED EMAIL]" := by
  refine brings_of_delivers (delivers_standard_iff.2 ⟨by decide +kernel, ?_⟩)
  rw [if_neg (by decide +kernel)]
  decide +kernel

/-! ## 6. Personal data -/

/-- **Where personal data is left.** A redacted text holds no personal data, passes the check and stays
    as it is when it is redacted again, except if telephone numbers run together in the text; and what
    is delivered for a text holds none, with the same exception. -/
theorem personalData_left_iff (text : String) (g : Gateway) (r : Request) :
    ((∀ c, PersonalData.occurrences (PersonalData.redact text) c = 0) ↔
      ¬ PersonalData.RunsTogether text) ∧
    (PersonalData.check .output (PersonalData.redact text) = .allowed ↔
      ¬ PersonalData.RunsTogether text) ∧
    (PersonalData.redact (PersonalData.redact text) = PersonalData.redact text ↔
      ¬ PersonalData.RunsTogether text) ∧
    (∀ content, Brings g r text content →
      ((∀ c, PersonalData.occurrences content c = 0) ↔ ¬ PersonalData.RunsTogether text)) ∧
    ∀ content, Gets g r content ↔ ∃ produced, Brings g r produced content := by
  refine ⟨PersonalData.occurrences_redact_eq_zero_iff text,
    PersonalData.check_redact_eq_allowed_iff text, PersonalData.redact_redact_eq_iff text, ?_,
    fun content => gets_iff⟩
  intro content h
  obtain ⟨-, hcontent⟩ := delivers_standard_iff.1 h.delivers_standard
  split at hcontent
  · rename_i hallowed
    obtain ⟨-, rfl⟩ := hcontent
    have hnone := (PersonalData.check_output_eq_allowed_iff _).1 hallowed
    exact ⟨fun _ => PersonalData.not_runsTogether_of_occurrences_eq_zero hnone, fun _ => hnone⟩
  · rw [hcontent]
    exact PersonalData.occurrences_redact_eq_zero_iff text

theorem personalData_left_iff_mail :
    Brings (replying mail) greeting mail "Write to [REDACTED EMAIL]" ∧
      ∀ c, PersonalData.occurrences "Write to [REDACTED EMAIL]" c = 0 := by
  obtain ⟨-, -, -, hleft, -⟩ := personalData_left_iff mail (replying mail) greeting
  exact ⟨brings_mail, (hleft _ brings_mail).2 (by decide +kernel)⟩

/-- Two telephone numbers, the second one behind the last digit of the first. -/
def twoNumbers : String := "555-123-45671-555-123-4567"

theorem redact_twoNumbers :
    PersonalData.redact twoNumbers = "555-123-4567[REDACTED PHONE]" ∧
      PersonalData.occurrences (PersonalData.redact twoNumbers) .phone = 1 ∧
      PersonalData.check .output (PersonalData.redact twoNumbers) ≠ .allowed ∧
      PersonalData.redact (PersonalData.redact twoNumbers) = "[REDACTED PHONE][REDACTED PHONE]" := by
  decide +kernel

/-! ## 7. The classifier -/

/-- **What the classifier has to say about delivered content.** Content is delivered as it was produced
    exactly if no personal data is found in it, and redacted otherwise. The classifier of the request
    flags it only if it was redacted, from a text that the classifier flags as well. -/
theorem flagged_only_if_redacted (g : Gateway) (r : Request) :
    (∀ content, Gets g r content ↔ ∃ produced, Brings g r produced content) ∧
    ∀ produced content, Brings g r produced content →
      (content = produced ↔ PersonalData.check .output produced = .allowed) ∧
      (content ≠ produced → content = PersonalData.redact produced) ∧
      (((Level.ofName (g.levelName r)).check content).passed = false →
        content ≠ produced ∧ ((Level.ofName (g.levelName r)).check produced).passed = false) := by
  refine ⟨fun content => gets_iff, fun produced content h => ?_⟩
  obtain ⟨-, hcontent⟩ := delivers_standard_iff.1 h.delivers_standard
  by_cases hclean : PersonalData.check .output produced = .allowed
  · rw [if_pos hclean] at hcontent
    obtain ⟨hallowed, rfl⟩ := hcontent
    refine ⟨iff_of_true rfl hclean, fun hne => absurd rfl hne, fun hflagged => ?_⟩
    rw [hallowed] at hflagged
    cases hflagged
  · rw [if_neg hclean] at hcontent
    have hne : content ≠ produced := by
      rwa [hcontent, ne_eq, PersonalData.redact_eq_self_iff,
        ← PersonalData.check_output_eq_allowed_iff]
    refine ⟨iff_of_false hne hclean, fun _ => hcontent, fun hflagged => ⟨hne, ?_⟩⟩
    -- redaction raises no score, so that it takes nothing that the classifier allows away from it
    rcases (Level.ofName (g.levelName r)).check_cases produced with hallowed | ⟨f, hblocked⟩
    · rw [hcontent, check_redact_allowed hallowed] at hflagged
      cases hflagged
    · rw [hblocked]
      rfl

/-- A text that the classifier flags, with a mail address in it. -/
def bombMail : String := "me@example.org bomb"

theorem brings_bombMail : Brings (replying bombMail) greeting bombMail "[REDACTED EMAIL] bomb" := by
  refine brings_of_delivers (delivers_standard_iff.2 ⟨by decide +kernel, ?_⟩)
  rw [if_neg (by decide +kernel)]
  decide +kernel

theorem flagged_only_if_redacted_bombMail :
    Brings (replying bombMail) greeting bombMail "[REDACTED EMAIL] bomb" ∧
      "[REDACTED EMAIL] bomb" = PersonalData.redact bombMail ∧
      ((Level.ofName ((replying bombMail).levelName greeting)).check
        "[REDACTED EMAIL] bomb").passed = false ∧
      ((Level.ofName ((replying bombMail).levelName greeting)).check bombMail).passed = false := by
  obtain ⟨-, hall⟩ := flagged_only_if_redacted (replying bombMail) greeting
  obtain ⟨-, hredacted, hflagged⟩ := hall _ _ brings_bombMail
  have hcontent : ((Level.ofName ((replying bombMail).levelName greeting)).check
      "[REDACTED EMAIL] bomb").passed = false := by
    decide +kernel
  obtain ⟨hne, hproduced⟩ := hflagged hcontent
  exact ⟨brings_bombMail, hredacted hne, hcontent, hproduced⟩

/-- A mail address spares the rest of a text the classifier. -/
theorem classifier_spared :
    Gets (replying bombMail) greeting "[REDACTED EMAIL] bomb" ∧
      ((Level.ofName ((replying bombMail).levelName greeting)).check
        "[REDACTED EMAIL] bomb").passed = false :=
  ⟨gets_iff.2 ⟨_, brings_bombMail⟩, by decide +kernel⟩

/-! ## 8. Markup -/

/-- **No delivered content holds executable markup**, since redaction makes none. -/
theorem markup_not_delivered (text : String) (g : Gateway) (r : Request) :
    (Firewall.reason? .output text = none →
      Firewall.reason? .output (PersonalData.redact text) = none) ∧
    ∀ content, Gets g r content → Firewall.reason? .output content = none := by
  refine ⟨Firewall.reason?_redact, fun content h => ?_⟩
  obtain ⟨produced, h⟩ := gets_iff.1 h
  obtain ⟨hfirewall, hcontent⟩ := delivers_standard_iff.1 h.delivers_standard
  have hproduced := Firewall.check_eq_allowed_iff.1 hfirewall
  split at hcontent
  · obtain ⟨-, rfl⟩ := hcontent
    exact hproduced
  · rw [hcontent]
    exact Firewall.reason?_redact hproduced

theorem markup_not_delivered_mail :
    Firewall.reason? .output mail = none ∧
      Firewall.reason? .output (PersonalData.redact mail) = none ∧
      Gets (replying mail) greeting "Write to [REDACTED EMAIL]" ∧
      Firewall.reason? .output "Write to [REDACTED EMAIL]" = none := by
  have hclean : Firewall.reason? .output mail = none := by decide +kernel
  have hgets := gets_iff.2 ⟨_, brings_mail⟩
  obtain ⟨hredact, hdelivered⟩ := markup_not_delivered mail (replying mail) greeting
  exact ⟨hclean, hredact hclean, hgets, hdelivered _ hgets⟩

end Gatehouse.Gateway
