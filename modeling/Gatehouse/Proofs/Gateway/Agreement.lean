import Gatehouse.Proofs.Gateway.Stream

/-!
# Whole and streamed generations are screened alike

What becomes of a content does not depend on whether it is generated as a whole or streamed.

* `Replies` and `Streams`: the request runs at a level, is let through, and the provider replies with
  a content or yields the items of a stream; `Passes` and `Rejects` are the two outcomes of a whole
  generation as far as its content is concerned;
* `Replies.outcome`: the outcome is that of screening the content once;
* `screening_agrees`: a stream of nothing but a last chunk leads to the outcome of a whole generation
  of its content, and a stream of increments shows of each what a whole generation of it would give,
  up to the first one that would be rejected.
-/

namespace Gatehouse.Gateway

open Gatehouse.Generation (Chunk Event Request)
open Gatehouse.Provider (Item)
open Gatehouse.Safety

/-! ## 1. Requests that are let through at a level -/

/-- How what is generated for the request is screened at the level. -/
def screenAt (r : Request) (level : String) : Screen :=
  ⟨.standard (.ofName level), ⟨r.taskType, r.tenantId, level⟩⟩

theorem checkOutput_screenAt_empty (r : Request) (level : String) :
    (screenAt r level).pipeline.checkOutput "" = .allowed :=
  checkOutput_standard_empty _

/-- **The request is let through at the level, and the provider replies with the content.** -/
inductive Replies (g : Gateway) (r : Request) (level : String) : (content : String) → Prop where
  | intro {a : Permit} {log : List SafetyEvent} {reply : Generation.Reply} :
      g.levelName r = level → g.permit r = (.ok a, log) →
      (a.provider.generate a.params).1 = .ok reply → Replies g r level reply.content

/-- **The request is let through at the level, and the provider streams the items.** -/
inductive Streams (g : Gateway) (r : Request) (level : String) : (items : List Item) → Prop where
  | intro {a : Permit} {log : List SafetyEvent} {items : List Item} :
      g.levelName r = level → g.permit r = (.ok a, log) →
      (a.provider.stream a.params).1 = .ok items → Streams g r level items

/-- The whole generation brings the content. -/
def Passes (g : Gateway) (r : Request) (content : String) : Prop :=
  ∃ f, (g.generate r).result = .ok f ∧ f.content = content

/-- The whole generation is refused for its content. -/
def Rejects (g : Gateway) (r : Request) : Prop :=
  ∃ category detail, (g.generate r).result = .refused (.contentSafety category detail)

section

variable {g : Gateway} {r : Request} {level : String}

/-- A permit carries the screen of its level, and nothing is logged for it. -/
theorem screen_of_permit {a : Permit} {log : List SafetyEvent} (hlevel : g.levelName r = level)
    (h : g.permit r = (.ok a, log)) : a.screen = screenAt r level ∧ log = [] := by
  obtain ⟨-, -, ha, hlog⟩ := permit_eq_ok_iff.1 h
  refine ⟨?_, hlog⟩
  rw [ha, ← hlevel]
  rfl

/-- **What becomes of a whole generation** is what becomes of its content. -/
theorem Replies.outcome {content : String} (h : Replies g r level content) :
    (∀ x, Passes g r x ↔ ((screenAt r level).content content).1 = .delivered x) ∧
    (Rejects g r ↔ ∃ category, ((screenAt r level).content content).1 = .withheld category) ∧
    (g.generate r).log = ((screenAt r level).content content).2 := by
  cases h with
  | @intro a log reply hlevel hpermit hreply =>
    obtain ⟨hscreen, rfl⟩ := screen_of_permit hlevel hpermit
    unfold Passes Rejects
    cases hp : a.provider.generate a.params with
    | mk answer p =>
      rw [hp] at hreply
      obtain rfl : answer = .ok reply := hreply
      rw [generate_of_ok hpermit hp, hscreen]
      cases ((screenAt r level).content reply.content).1 with
      | delivered text => simp [Generation.Finished.ofReply]
      | withheld category => simp

theorem Streams.outcome {items : List Item} (h : Streams g r level items) :
    (g.stream r).result = .ok (relay (screenAt r level) items).events ∧
      (g.stream r).log = (relay (screenAt r level) items).log := by
  cases h with
  | @intro a log items hlevel hpermit hitems =>
    obtain ⟨hscreen, rfl⟩ := screen_of_permit hlevel hpermit
    cases hp : a.provider.stream a.params with
    | mk answer p =>
      rw [hp] at hitems
      obtain rfl : answer = .ok items := hitems
      rw [stream_of_ok hpermit hp, hscreen]
      exact ⟨rfl, rfl⟩

/-- Every content can be what a provider replies with: a provider that does so in the place of the one
    that streams is let through as well. -/
theorem Streams.exists_replies {items : List Item} (h : Streams g r level items)
    (content : String) : ∃ g', Replies g' r level content := by
  cases h with
  | @intro a log items hlevel hpermit hitems =>
    obtain ⟨hpasses, -⟩ := permit_eq_ok_iff.1 hpermit
    let line : Provider.ReplyLine := .reply content none Generation.Usage.zero "stop"
    let provider : Provider := .ofEngine (.scripted ⟨"script", [], true, none, [line], []⟩)
    let g' : Gateway := ⟨⟨[(r.provider, provider)]⟩, g.defaultLevel⟩
    let a' : Permit := ⟨r.provider, provider, r.params (systemPrompt r), ⟨g'.pipeline r, g'.scope r⟩⟩
    have hfound : g'.registry.get r.provider = .ok provider := by
      simp [g', Provider.Registry.get, Provider.Registry.find?]
    have hpermit' : g'.permit r = (.ok a', []) := permit_eq_ok_iff.2 ⟨hpasses, hfound, rfl, rfl⟩
    have hlevel' : g'.levelName r = level := hlevel
    have hreply : (a'.provider.generate a'.params).1 =
        .ok ⟨content, r.model, "script", Generation.Usage.zero, "stop"⟩ := rfl
    exact ⟨g', .intro hlevel' hpermit' hreply⟩

end

/-! ## 2. Streams of one chunk and of increments -/

/-- A stream of nothing but a last chunk shows what becomes of its content. -/
theorem relay_last {s : Screen} (hempty : s.pipeline.checkOutput "" = .allowed) (content : String)
    (usage : Option Generation.Usage) : (relay s [.chunk (.last content usage)]).events =
        [Screen.eventOf (.last content usage) (s.content content).1] ∧
      (relay s [.chunk (.last content usage)]).log = (s.content content).2 := by
  have hchunk : s.chunk (.last content usage) =
      (Screen.eventOf (.last content usage) (s.content content).1, (s.content content).2) :=
    Screen.chunk_eq_content hempty _
  have hterminal : (Screen.eventOf (.last content usage) (s.content content).1).isTerminal = true := by
    cases (s.content content).1 <;> rfl
  simp only [relay, hchunk, hterminal, if_true, and_self]

/-- The stream of the increments. -/
def increments (cs : List String) : List Item := cs.map (fun c => .chunk (.delta c))

/-- **What a stream of increments shows**: the first of them as far as they are delivered, and at the
    end an error, for the first one that is not or for want of a last chunk. -/
theorem relay_increments {s : Screen} (hempty : s.pipeline.checkOutput "" = .allowed)
    (cs : List String) : ∃ (shown : List String) (last : Event),
      (relay s (increments cs)).events = shown.map .chunk ++ [last] ∧
      shown.length ≤ cs.length ∧
      (∀ (i : Nat) c x, cs[i]? = some c → shown[i]? = some x → (s.content c).1 = .delivered x) ∧
      match cs[shown.length]? with
      | none => last = .error streamIncomplete
      | some c => last = .error outputRejected ∧ ∃ category, (s.content c).1 = .withheld category := by
  have hstall : .stalled ∉ increments cs := by simp [increments]
  obtain ⟨course, hitems, hfollows, hevents, -⟩ := relay_course hempty hstall
  -- the items of the course are those of the increments that were shown and of those that were left
  obtain ⟨cs₁, cs₂, rfl, hshown, hleft⟩ := List.map_eq_append_iff.1 hitems.symm
  have hfirst : cs₁ = course.shown.map Prod.fst := by
    have hmap := congrArg (List.filterMap fun
      | Item.chunk (.delta c) => some c
      | _ => none) hshown
    simpa [List.filterMap_map, Function.comp_def] using hmap
  have hlength : cs₁.length = course.shown.length := by rw [hfirst, List.length_map]
  refine ⟨course.shown.map Prod.snd, course.last, ?_, ?_, ?_, ?_⟩
  · rw [hevents, Course.events, List.map_map]
    rfl
  · rw [List.length_map, List.length_append, hlength]
    exact Nat.le_add_right _ _
  · intro i c x hc hx
    rw [List.getElem?_map, Option.map_eq_some_iff] at hx
    obtain ⟨pair, hpair, rfl⟩ := hx
    have hi : i < cs₁.length := by
      rw [hlength]
      exact (List.getElem?_eq_some_iff.1 hpair).1
    rw [List.getElem?_append_left hi, hfirst, List.getElem?_map, hpair] at hc
    obtain rfl := Option.some.inj hc
    exact s.content_eq_delivered_iff.2 (hfollows.shown pair (List.mem_of_getElem? hpair))
  · have hends := hfollows.ends
    rw [List.length_map, ← hlength, List.getElem?_append_right (Nat.le_refl _), Nat.sub_self]
    rw [← hleft] at hends
    cases cs₂ with
    | nil =>
      generalize course.last = last at hends
      cases hends
      rfl
    | cons c cs₂ =>
      generalize course.last = last at hends
      cases hends with
      | rejected _ hf =>
        exact ⟨rfl, _, s.content_of_blocked hf⟩

/-! ## 3. Agreement -/

/-- **Whole and streamed generations agree.** A stream of one last chunk is one event with a content
    exactly if the whole generation of its content brings that, and one error exactly if the whole
    generation is refused, with the same entries in the safety log. Of a stream of increments each
    that is shown is what a whole generation of it brings; what comes after them is an error, for the
    first increment of which the whole generation is refused or for the missing last chunk. -/
theorem screening_agrees (r : Request) (level : String) :
    (∀ gw gs content usage, Replies gw r level content →
      Streams gs r level [.chunk (.last content usage)] →
      (∀ x, Passes gw r x ↔ ∃ u, (gs.stream r).result = .ok [.done x u]) ∧
      (Rejects gw r ↔ (gs.stream r).result = .ok [.error outputRejected]) ∧
      (gw.generate r).log.filter (fun e => e.direction = .output) =
        (gs.stream r).log.filter (fun e => e.direction = .output)) ∧
    ∀ gs cs, Streams gs r level (increments cs) →
      (∀ c, ∃ gw, Replies gw r level c) ∧ ∃ (shown : List String) (last : Event),
        (gs.stream r).result = .ok (shown.map .chunk ++ [last]) ∧ shown.length ≤ cs.length ∧
        (∀ (i : Nat) c x, cs[i]? = some c → shown[i]? = some x →
          ∀ gw, Replies gw r level c → Passes gw r x) ∧
        match cs[shown.length]? with
        | none => last = .error streamIncomplete
        | some c => last = .error outputRejected ∧ ∀ gw, Replies gw r level c → Rejects gw r := by
  have hempty := checkOutput_screenAt_empty r level
  constructor
  · intro gw gs content usage hreplies hstreams
    obtain ⟨hpasses, hrejects, hlog⟩ := hreplies.outcome
    obtain ⟨hresult, hlog'⟩ := hstreams.outcome
    obtain ⟨hevents, hlogged⟩ := relay_last hempty content usage
    rw [hevents] at hresult
    refine ⟨fun x => ?_, ?_, by rw [hlog, hlog', hlogged]⟩
    · rw [hpasses, hresult]
      cases ((screenAt r level).content content).1 with
      | delivered text => simp [Screen.eventOf]
      | withheld category => simp [Screen.eventOf]
    · rw [hrejects, hresult]
      cases ((screenAt r level).content content).1 with
      | delivered text => simp [Screen.eventOf]
      | withheld category => simp [Screen.eventOf]
  · intro gs cs hstreams
    obtain ⟨hresult, -⟩ := hstreams.outcome
    obtain ⟨shown, last, hevents, hlength, hshown, hlast⟩ := relay_increments hempty cs
    rw [hevents] at hresult
    refine ⟨hstreams.exists_replies, shown, last, hresult, hlength, ?_, ?_⟩
    · intro i c x hc hx gw hreplies
      exact (hreplies.outcome.1 x).2 (hshown i c x hc hx)
    · cases hc : cs[shown.length]? with
      | none =>
        rw [hc] at hlast
        exact hlast
      | some c =>
        rw [hc] at hlast
        exact ⟨hlast.1, fun gw hreplies => hreplies.outcome.2.1.2 hlast.2⟩

/-- A gateway whose provider replies with an address and streams it, first as a last chunk and then in
    increments. -/
def answering : Gateway :=
  scripted [.reply "Write to me@example.org" none Generation.Usage.zero "stop"]
    [.items [.chunk (.last "Write to me@example.org" none)]]

/-- A gateway whose provider streams increments, the second of which is rejected. -/
def incrementing : Gateway := scripted [] [.items (increments ["Hello", "<script>", "there"])]

theorem screening_agrees_address :
    Passes answering greeting "Write to [REDACTED EMAIL]" ∧
      (∃ u, (answering.stream greeting).result = .ok [.done "Write to [REDACTED EMAIL]" u]) ∧
      ∃ (shown : List String) (last : Event),
        (incrementing.stream greeting).result = .ok (shown.map .chunk ++ [last]) := by
  obtain ⟨hlast, hincrements⟩ := screening_agrees greeting "strict"
  let reply : Generation.Reply :=
    ⟨"Write to me@example.org", "model", "script", Generation.Usage.zero, "stop"⟩
  have hreplies : Replies answering greeting "strict" reply.content :=
    .intro rfl (permit_greeting _ _) (show _ = Provider.Answer.ok reply from rfl)
  have hstreams : Streams answering greeting "strict"
      [.chunk (.last "Write to me@example.org" none)] := .intro rfl (permit_greeting _ _) rfl
  have hpasses : Passes answering greeting "Write to [REDACTED EMAIL]" :=
    (hreplies.outcome.1 _).2 (by decide +kernel)
  obtain ⟨hdone, -⟩ := hlast _ _ _ _ hreplies hstreams
  obtain ⟨-, shown, last, hevents, -⟩ := hincrements incrementing ["Hello", "<script>", "there"]
    (.intro rfl (permit_greeting _ _) rfl)
  exact ⟨hpasses, (hdone _).1 hpasses, shown, last, hevents⟩

end Gatehouse.Gateway
