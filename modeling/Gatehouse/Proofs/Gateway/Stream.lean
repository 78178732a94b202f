import Gatehouse.Proofs.Gateway.Screening

/-!
# The course of a stream

What the caller of a stream gets, from the first event to the last:

* a `Course` is the increments that were shown, the items that were left when the end was decided, and
  the last event; `Ending` says what the first of the items that were left decides;
* `relay_course`: relaying a stream that does not stall takes such a course, and takes no item behind
  the one that decided;
* `stream_course`: so does every streamed request that is let through.
-/

namespace Gatehouse.Gateway

open Gatehouse.Generation (Chunk Event Request)
open Gatehouse.Provider (Item)
open Gatehouse.Safety

/-! ## 1. How a stream ends -/

/-- **What ends a stream**: the items that are left, the first of which decides, and the last event. -/
inductive Ending (p : Pipeline) : List Item → Event → Prop where
  /-- There are no items any more. -/
  | exhausted : Ending p [] (.error streamIncomplete)
  | failed (f : Provider.Failure) (items : List Item) :
      Ending p (.failed f :: items) (.error f.message)
  | brokeDown (payload : String) (items : List Item) :
      Ending p (.brokeDown payload :: items) (.error Refusal.internalMessage)
  /-- The content of a chunk, be it the last one or not, is blocked. -/
  | rejected {c : Chunk} {f : Finding} (items : List Item) : p.checkOutput c.content = .blocked f →
      Ending p (.chunk c :: items) (.error outputRejected)
  /-- The last chunk. -/
  | finished {text content : String} (usage : Option Generation.Usage) (items : List Item) :
      Delivers p text content → Ending p (.chunk (.last text usage) :: items) (.done content usage)

theorem Ending.isTerminal {p : Pipeline} {items : List Item} {e : Event} (h : Ending p items e) :
    e.isTerminal = true := by
  cases h <;> rfl

/-- The course of a stream: the increments shown, each as it was produced and as it was delivered; the
    items that were left; and the last event. -/
structure Course where
  shown : List (String × String)
  left : List Item
  last : Event

namespace Course

/-- The items of the stream. -/
def items (c : Course) : List Item := c.shown.map (fun x => .chunk (.delta x.1)) ++ c.left

/-- The events of the stream. -/
def events (c : Course) : List Event := c.shown.map (fun x => .chunk x.2) ++ [c.last]

/-- How many items were taken: those shown, and the one that decided if there was one. -/
def taken (c : Course) : Nat := c.shown.length + (c.left.take 1).length

/-- The pipeline allows each increment that was shown, as it is or redacted, and no other end. -/
structure Follows (c : Course) (p : Pipeline) : Prop where
  shown : ∀ x ∈ c.shown, Delivers p x.1 x.2
  ends : Ending p c.left c.last

/-- The course with one more increment in front of it. -/
def after (text content : String) (c : Course) : Course :=
  { c with shown := (text, content) :: c.shown }

theorem Follows.after {c : Course} {p : Pipeline} {text content : String} (h : c.Follows p)
    (hd : Delivers p text content) : (c.after text content).Follows p :=
  ⟨List.forall_mem_cons.2 ⟨hd, h.shown⟩, h.ends⟩

@[simp] theorem items_after (c : Course) (text content : String) :
    (c.after text content).items = .chunk (.delta text) :: c.items := rfl

@[simp] theorem events_after (c : Course) (text content : String) :
    (c.after text content).events = .chunk content :: c.events := rfl

@[simp] theorem taken_after (c : Course) (text content : String) :
    (c.after text content).taken = c.taken + 1 := by
  simp only [taken, Course.after, List.length_cons]
  omega

/-- Exactly the last event is terminal. -/
theorem isTerminal_iff {c : Course} (h : c.last.isTerminal = true) {i : Nat} {e : Event}
    (he : c.events[i]? = some e) : e.isTerminal = true ↔ i + 1 = c.events.length := by
  have hlen : c.events.length = c.shown.length + 1 := by simp [events]
  rw [hlen]
  rcases Nat.lt_or_ge i c.shown.length with hi | hi
  · rw [events, List.getElem?_append_left (by simpa using hi), List.getElem?_map] at he
    obtain ⟨x, -, rfl⟩ := Option.map_eq_some_iff.1 he
    simp only [Event.isTerminal, Bool.false_eq_true, false_iff]
    omega
  · rw [events, List.getElem?_append_right (by simpa using hi), List.length_map] at he
    obtain ⟨hi', rfl⟩ := List.getElem?_eq_some_iff.1 he
    simp only [List.length_singleton] at hi'
    have hz : i - c.shown.length = 0 := by omega
    simp only [hz, List.getElem_cons_zero, h, true_iff]
    omega

end Course

/-! ## 2. Relaying -/

section Relay

variable {s : Screen} {c : Chunk} {e : Event} (h : (s.chunk c).1 = e) (items : List Item)

include h

theorem relay_of_isTerminal (he : e.isTerminal = true) :
    (relay s (.chunk c :: items)).events = [e] ∧ (relay s (.chunk c :: items)).taken = 1 := by
  simp [relay, h, he]

theorem relay_of_not_isTerminal (he : e.isTerminal = false) :
    (relay s (.chunk c :: items)).events = e :: (relay s items).events ∧
      (relay s (.chunk c :: items)).taken = (relay s items).taken + 1 := by
  simp [relay, h, he, Relayed.after]

end Relay

/-- **Relaying takes a course that the pipeline leads to**, if the stream does not stall. -/
theorem relay_course {s : Screen} (hempty : s.pipeline.checkOutput "" = .allowed)
    {items : List Item} (hstall : .stalled ∉ items) :
    ∃ c : Course, c.items = items ∧ c.Follows s.pipeline ∧ (relay s items).events = c.events ∧
      (relay s items).taken = c.taken := by
  induction items with
  | nil => exact ⟨⟨[], [], .error streamIncomplete⟩, rfl, ⟨by simp, .exhausted⟩, rfl, rfl⟩
  | cons item items ih =>
    rw [List.mem_cons, not_or] at hstall
    cases item with
    | stalled => exact absurd rfl hstall.1
    | failed f => exact ⟨⟨[], _, _⟩, rfl, ⟨by simp, .failed f items⟩, rfl, rfl⟩
    | brokeDown payload => exact ⟨⟨[], _, _⟩, rfl, ⟨by simp, .brokeDown payload items⟩, rfl, rfl⟩
    | chunk chunk =>
      rcases s.chunk_cases hempty chunk with ⟨text, u, rfl, hu, he⟩ |
        ⟨text, usage, u, rfl, hu, he⟩ | ⟨f, hf, he⟩
      · obtain ⟨c, rfl, hfollows, hevents, htaken⟩ := ih hstall.2
        obtain ⟨hevents', htaken'⟩ := relay_of_not_isTerminal he c.items rfl
        exact ⟨c.after text u, rfl, hfollows.after hu, by rw [hevents', hevents]; rfl,
          by rw [htaken', htaken, Course.taken_after]⟩
      · obtain ⟨hevents, htaken⟩ := relay_of_isTerminal he items rfl
        exact ⟨⟨[], _, _⟩, rfl, ⟨by simp, .finished usage items hu⟩, hevents, htaken⟩
      · obtain ⟨hevents, htaken⟩ := relay_of_isTerminal he items rfl
        exact ⟨⟨[], _, _⟩, rfl, ⟨by simp, .rejected items hf⟩, hevents, htaken⟩

/-! ## 3. Streamed requests -/

section Streamed

variable {g : Gateway} {r : Request} {a : Permit} {log : List SafetyEvent} {p : Provider}

theorem stream_of_failed {f : Provider.Failure} (h : g.permit r = (.ok a, log))
    (hp : a.provider.stream a.params = (.failed f, p)) :
    g.stream r = ⟨.ok [.error f.message], log, g.withProvider a.name p⟩ := by
  simp only [stream, h, hp]

theorem stream_of_brokeDown {payload : String} (h : g.permit r = (.ok a, log))
    (hp : a.provider.stream a.params = (.brokeDown payload, p)) :
    g.stream r = ⟨.ok [.error Refusal.internalMessage], log, g.withProvider a.name p⟩ := by
  simp only [stream, h, hp]

theorem stream_of_ok {items : List Item} (h : g.permit r = (.ok a, log))
    (hp : a.provider.stream a.params = (.ok items, p)) :
    g.stream r = ⟨.ok (relay a.screen items).events, log ++ (relay a.screen items).log,
      g.withProvider a.name (p.settle (relay a.screen items).taken)⟩ := by
  simp only [stream, h, hp]

end Streamed

/-- The provider does not keep the stream open without yielding anything. -/
def Settles (answer : Provider.Answer (List Item)) : Prop :=
  ∀ items, answer = .ok items → .stalled ∉ items

/-- **The course of a streamed request.** Whatever the provider does, the caller gets at least one
    event, and exactly the last one is terminal. A provider that fails or breaks down at once leads to
    that error and nothing else; of a stream, the events in front of the last one are its first items
    in order, the next item decides the last event, and no further one is taken. -/
theorem stream_course {g : Gateway} {r : Request} {a : Permit} {log : List SafetyEvent}
    (h : g.permit r = (.ok a, log)) (hsettles : Settles (a.provider.stream a.params).1) :
    ∃ c : Course, (g.stream r).result = .ok c.events ∧
      (∀ i e, c.events[i]? = some e → (e.isTerminal = true ↔ i + 1 = c.events.length)) ∧
      match a.provider.stream a.params with
      | (.failed f, p) => c.shown = [] ∧ c.last = .error f.message ∧
          (g.stream r).after = g.withProvider a.name p
      | (.brokeDown _, p) => c.shown = [] ∧ c.last = .error Refusal.internalMessage ∧
          (g.stream r).after = g.withProvider a.name p
      | (.ok items, p) => c.items = items ∧ c.Follows (g.pipeline r) ∧
          (g.stream r).after = g.withProvider a.name (p.settle c.taken) := by
  cases hp : a.provider.stream a.params with
  | mk answer p =>
    rw [hp] at hsettles
    cases answer with
    | failed f =>
      rw [stream_of_failed h hp]
      exact ⟨⟨[], [], .error f.message⟩, rfl, fun _ _ he => Course.isTerminal_iff rfl he, rfl, rfl,
        rfl⟩
    | brokeDown payload =>
      rw [stream_of_brokeDown h hp]
      exact ⟨⟨[], [], .error Refusal.internalMessage⟩, rfl,
        fun _ _ he => Course.isTerminal_iff rfl he, rfl, rfl, rfl⟩
    | ok items =>
      have hpipeline : a.screen.pipeline = g.pipeline r := by rw [(permit_eq_ok_iff.1 h).2.2.1]
      have hempty : a.screen.pipeline.checkOutput "" = .allowed := by
        rw [hpipeline]
        exact checkOutput_standard_empty _
      obtain ⟨c, hitems, hfollows, hevents, htaken⟩ := relay_course hempty (hsettles items rfl)
      rw [hpipeline] at hfollows
      rw [stream_of_ok h hp, hevents, htaken]
      exact ⟨c, rfl, fun _ _ he => Course.isTerminal_iff hfollows.ends.isTerminal he, hitems,
        hfollows, rfl⟩

/-- A stream with an increment that is redacted, and with an item behind its last chunk. -/
def greetingItems : List Item :=
  [.chunk (.delta "Hello from "), .chunk (.delta "me@example.org"), .chunk (.last "." none),
    .chunk (.delta "too late")]

theorem stream_course_of_greeting :
    ∃ c : Course, ((scripted [] [.items greetingItems]).stream greeting).result = .ok c.events ∧
      (∀ i e, c.events[i]? = some e → (e.isTerminal = true ↔ i + 1 = c.events.length)) ∧
      c.items = greetingItems ∧
      c.Follows ((scripted [] [.items greetingItems]).pipeline greeting) := by
  obtain ⟨c, hresult, hterminal, hitems, hfollows, -⟩ :=
    stream_course (permit_greeting [] [.items greetingItems]) (by
      intro items h
      obtain rfl : greetingItems = items := Provider.Answer.ok.inj h
      decide)
  exact ⟨c, hresult, hterminal, hitems, hfollows⟩

end Gatehouse.Gateway
