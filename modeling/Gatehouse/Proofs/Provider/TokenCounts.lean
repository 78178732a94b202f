import Mathlib.Data.List.TakeWhile
import Gatehouse.Proofs.Provider.Messages

/-!
# What a streamed message adds up to

The payloads of a streamed message come in any order, among others that cannot be read or do not count.
Texts are passed on one by one, and the two counts of tokens are kept for the end.

* `stops`, `addedText?`, `inputCount?` and `outputCount?` say what one payload tells, and
  `readPayload_eq` that reading a payload is taking note of that;
* `tallyAfter_eq`: the counts after any payloads are those that were told last;
* `stream_folded`: every stream has the texts up to the first stop, then one last chunk with the counts
  told last before it. Without a stop it has no last chunk.
-/

namespace Gatehouse.Provider.Anthropic

open Gatehouse.Generation (Chunk Params Usage)
open Gatehouse.Json (Value)
open Gatehouse.Provider.EventStream
open Gatehouse.Text

/-! ## 1. What a payload tells -/

/-- The members of a payload, if it can be read and is an event of the kind. -/
def members? (kind payload : String) : Option Payload :=
  match readEvent payload with
  | .ok (k, members) => if k = kind then some members else none
  | .error _ => none

/-- Is the payload the end of the message? -/
def stops (payload : String) : Bool := (members? "message_stop" payload).isSome

/-- The text that a payload adds to the message, unless that is empty. -/
def addedText? (payload : String) : Option String :=
  (members? "content_block_delta" payload).bind fun members =>
    members.delta.join.filter fun text => !text.isEmpty

/-- The count of tokens read that comes with the start of a message. -/
def inputCount? (payload : String) : Option UInt32 :=
  (members? "message_start" payload).bind fun members => members.message.join.map Tally.input

/-- The count of tokens written that comes with a change of the message. -/
def outputCount? (payload : String) : Option UInt32 :=
  (members? "message_delta" payload).bind fun members => members.tally.map Tally.output

theorem members?_of_ok {payload kind : String} {members : Payload}
    (h : readEvent payload = .ok (kind, members)) (k : String) :
    members? k payload = if kind = k then some members else none := by
  rw [members?, h]

theorem members?_of_error {payload : String} {problem : Json.Problem}
    (h : readEvent payload = .error problem) (k : String) : members? k payload = none := by
  rw [members?, h]

/-- **Reading a payload is taking note of what it tells.** It may change either count, and it stands for
    the last chunk, for one with the text it adds, or for none. -/
theorem readPayload_eq (t : Tally) (payload : String) : readPayload t payload =
    (⟨(inputCount? payload).getD t.input, (outputCount? payload).getD t.output⟩,
      if stops payload then some (.last "" (some (usageOf t)))
      else (addedText? payload).map .delta) := by
  unfold inputCount? outputCount? stops addedText?
  cases hread : readEvent payload with
  | error problem =>
    simp only [members?_of_error hread]
    rw [readEvent] at hread
    rw [readPayload, hread]
    rfl
  | ok event =>
    obtain ⟨kind, members⟩ := event
    simp only [members?_of_ok hread]
    rw [readEvent] at hread
    rw [readPayload, hread]
    show takePayload t kind members = _
    unfold takePayload
    by_cases hstart : kind = "message_start"
    · subst hstart
      cases hcount : members.message.join <;> simp [hcount]
    · by_cases hdelta : kind = "content_block_delta"
      · subst hdelta
        cases htext : members.delta.join with
        | none => simp [htext]
        | some text => by_cases hempty : text = "" <;> simp [htext, hempty, Option.filter]
      · by_cases hchange : kind = "message_delta"
        · subst hchange
          cases hcount : members.tally <;> simp [hcount]
        · by_cases hstop : kind = "message_stop"
          · subst hstop
            simp
          · simp [hstart, hdelta, hchange, hstop]

/-! ## 2. What payloads tell -/

/-- The payloads in front of the first stop. -/
def beforeStop (ps : List String) : List String := ps.takeWhile fun p => !stops p

/-- **The counts that are told last**, and zero for one that is never told. -/
def lastCounts (ps : List String) : Tally :=
  ⟨(ps.filterMap inputCount?).getLastD 0, (ps.filterMap outputCount?).getLastD 0⟩

theorem getLastD_filterMap_cons {α : Type} (f : α → Option UInt32) (a : α) (as : List α)
    (n : UInt32) : ((a :: as).filterMap f).getLastD n = (as.filterMap f).getLastD ((f a).getD n) := by
  rw [List.filterMap_cons]
  cases f a with
  | none => rfl
  | some m => exact List.getLastD_cons

/-- **The counts after payloads** are those told last, and the ones before where none is told. -/
theorem tallyAfter_eq (t : Tally) (ps : List String) : tallyAfter readPayload t ps =
    ⟨(ps.filterMap inputCount?).getLastD t.input, (ps.filterMap outputCount?).getLastD t.output⟩ := by
  induction ps generalizing t with
  | nil => rfl
  | cons p ps ih =>
    have hstep : tallyAfter readPayload t (p :: ps) =
        tallyAfter readPayload (readPayload t p).1 ps := rfl
    rw [hstep, ih, readPayload_eq, getLastD_filterMap_cons, getLastD_filterMap_cons]

section

variable (provider tag : String) (ending : Ending)

/-- **The stream that payloads make**, whatever was counted before them. -/
theorem itemsOf_chunksOf (t : Tally) (ps : List String) :
    itemsOf provider tag ending (chunksOf readPayload t ps) =
      ((beforeStop ps).filterMap addedText?).map (fun text => .chunk (.delta text)) ++
        if ps.any stops then
          [.chunk (.last "" (some (usageOf (tallyAfter readPayload t (beforeStop ps)))))]
        else afterBody provider tag ending := by
  induction ps generalizing t with
  | nil => rfl
  | cons p ps ih =>
    rw [chunksOf, List.any_cons]
    cases hp : stops p with
    | true =>
      -- the chunks behind the stop do not get into the stream
      have hnone : beforeStop (p :: ps) = [] := List.takeWhile_cons_of_neg (by simp [hp])
      rw [hnone, readPayload_eq, hp]
      rfl
    | false =>
      have hkept : beforeStop (p :: ps) = p :: beforeStop ps :=
        List.takeWhile_cons_of_pos (by simp [hp])
      have htally : tallyAfter readPayload t (p :: beforeStop ps) =
          tallyAfter readPayload (readPayload t p).1 (beforeStop ps) := rfl
      have hchunk : (readPayload t p).2 = (addedText? p).map .delta := by
        rw [readPayload_eq, hp]
        rfl
      rw [hkept, htally, hchunk, List.filterMap_cons, Bool.false_or]
      cases addedText? p with
      | none => exact ih _
      | some text => exact congrArg (.chunk (.delta text) :: ·) (ih _)

/-- Behind the chunks of a body there is no chunk. -/
theorem chunk_not_mem_afterBody (c : Chunk) : .chunk c ∉ afterBody provider tag ending := by
  cases ending <;> simp [afterBody]

end

/-! ## 3. Streams -/

/-- **What a streamed message adds up to.** Whatever payloads the body of a stream holds, in whatever
    order, the stream has one chunk for each text that is added in front of the first stop, in order.
    After these comes one last chunk, which is empty and has the counts told last in front of the stop,
    or zero for one that is not told; or, if there is no stop, what the end of the body leaves behind. So
    there is a last chunk exactly if there is a stop. -/
theorem stream_folded {r : Remote} (hvendor : r.vendor = .anthropic) {pieces : List (List UInt8)}
    {ending : Ending} (hreceives : r.Receives pieces ending) (p : Params) :
    ∃ items, (r.stream p).outcome = .ok items ∧
      items = ((beforeStop (payloads pieces.flatten)).filterMap addedText?).map
          (fun text => .chunk (.delta text)) ++
        (if (payloads pieces.flatten).any stops then
          [.chunk (.last "" (some (.ofParts (lastCounts (beforeStop (payloads pieces.flatten))).input
            (lastCounts (beforeStop (payloads pieces.flatten))).output)))]
        else afterBody name label ending) ∧
      ((∃ content usage, .chunk (.last content usage) ∈ items) ↔
        ∃ q ∈ payloads pieces.flatten, stops q = true) := by
  refine ⟨_, Remote.stream_of_receives hreceives p, ?_⟩
  have hitems := itemsOf_chunksOf name label ending ⟨0, 0⟩ (payloads pieces.flatten)
  rw [tallyAfter_eq] at hitems
  rw [Remote.readStream_eq, hvendor]
  refine ⟨hitems, ?_⟩
  show (∃ content usage, .chunk (.last content usage) ∈ itemsOf name label ending
    (chunksOf readPayload ⟨0, 0⟩ (payloads pieces.flatten))) ↔ _
  rw [hitems, ← List.any_eq_true]
  cases (payloads pieces.flatten).any stops with
  | true => simp
  | false => simp [chunk_not_mem_afterBody]

/-- An event as JSON. -/
def eventJson (kind : String) (members : List (String × Value)) : Value :=
  .object (("type", .string kind) :: members)

/-- A report of tokens as a member of an event. -/
def countsMember (counts : List (String × Nat)) : String × Value :=
  ("usage", .object (counts.map fun c => (c.1, .natural c.2)))

/-- A payload that is JSON is read from its tree. -/
theorem members?_text (kind : String) (v : Value) : members? kind v.text =
    match payloadRecord.shape v.tree with
    | .ok (k, members) => if k = kind then some members else none
    | .error _ => none := by
  rw [members?, readEvent, Json.ofWhole_stringItems_text]

/-- A stream in which both counts are told twice, and once more behind the stop. Among its payloads are
    some that are no events, or tell nothing. -/
def busy : List Value :=
  [eventJson "ping" [],
    eventJson "message_start"
      [("message", .object [countsMember [("input_tokens", 7), ("output_tokens", 1)]])],
    .object [("type", .natural 1)], deltaJson "Hel", deltaJson "",
    eventJson "message_start" [("message", .object [countsMember [("input_tokens", 9)]])],
    eventJson "message_delta" [countsMember [("output_tokens", 2)]],
    eventJson "message_start" [("message", .object [])], deltaJson "lo",
    eventJson "message_delta" [countsMember [("output_tokens", 4)]],
    eventJson "message_delta" [], stopJson, deltaJson "late",
    eventJson "message_delta" [countsMember [("output_tokens", 99)]]]

/-- A stream with these payloads. -/
def bodyOf (events : List Value) : String := String.join ((events.map Value.text).map dataLine)

theorem payloads_busy : payloads (Utf8.encode (bodyOf busy)) = busy.map Value.text := by
  refine payloads_dataLines fun t ht => ?_
  obtain ⟨v, hv, rfl⟩ := List.mem_map.1 ht
  have hobject : ∀ v ∈ busy, Tight v.text := by
    simp [busy, eventJson, deltaJson, stopJson, tight_object]
  exact hobject v hv

theorem stream_folded_busy : ((messenger (bodyOf busy)).stream Remote.coffee).outcome =
    .ok [.chunk (.delta "Hel"), .chunk (.delta "lo"), .chunk (.last "" (some ⟨9, 4, 13⟩))] := by
  obtain ⟨items, houtcome, hitems, -⟩ :=
    stream_folded rfl (receives_messenger (bodyOf busy)) Remote.coffee
  rw [houtcome, hitems, List.flatten_singleton, payloads_busy]
  simp only [beforeStop, lastCounts, List.any_map, List.takeWhile_map, List.filterMap_map,
    Function.comp_def, stops, addedText?, inputCount?, outputCount?, members?_text]
  decide +kernel

end Gatehouse.Provider.Anthropic
