import Gatehouse.Gateway.Service
import Gatehouse.Proofs.Json.Records
import Gatehouse.Proofs.Provider.DataLines
import Gatehouse.Proofs.Provider.Body

/-!
# Events that are sent and read back

The kind of a sent event is not written, but its members tell it: only an error has an error, only the
last event of a stream has a reason for the end.

* `SentEvent.decode` reads an event by its members, and `decode_text` says that it reads what was
  written;
* `stream_read_back`: the body of a streamed answer gives the events back, in order and one payload
  for each, whatever the pieces are in which it arrives.
-/

namespace Gatehouse.Generation

open Gatehouse.Json (Record Problem Value)
open Gatehouse.Provider.EventStream
open Gatehouse.Text

/-! ## 1. Reading an event -/

namespace SentEvent

/-- The members of an event that have been read. -/
structure Members where
  content : Option String
  isDone : Option Bool
  usage : Option Usage
  finishReason : Option String
  error : Option String

/-- **The event that has these members**: an error, the last event if there is a reason for the end,
    and an increment otherwise. -/
def Members.finish (m : Members) : Except String SentEvent :=
  match m.error, m.content, m.isDone with
  | some message, _, _ => .ok (.error message)
  | none, none, _ => .error "content"
  | none, _, none => .error "done"
  | none, some content, some isDone =>
    match m.finishReason with
    | some reason => .ok (.done content isDone m.usage reason)
    | none => .ok (.chunk content isDone)

/-- An event, as a record. -/
def record : Record Members SentEvent where
  name := "SentEvent"
  fields := [
    ⟨"content", false, fun t m => do return { m with content := some (← Json.string t) }⟩,
    ⟨"done", false, fun t m => do return { m with isDone := some (← Json.flag t) }⟩,
    ⟨"usage", false, fun t m => do
      return { m with usage := ← Json.optional Provider.OpenAi.usageRecord.shape t }⟩,
    ⟨"finish_reason", false, fun t m => do
      return { m with finishReason := some (← Json.string t) }⟩,
    ⟨"error", false, fun t m => do return { m with error := some (← Json.string t) }⟩]
  start := ⟨none, none, none, none, none⟩
  finish := Members.finish

/-- Reads the event in a payload. -/
def decode (payload : String) : Except Problem SentEvent :=
  record.shape.ofWhole (Json.Reader.stringItems payload)

end SentEvent

/-! ## 2. One event -/

theorem Usage.read_toJson (u : Usage) :
    Provider.OpenAi.usageRecord.shape u.toJson.tree = .ok u := by
  rw [toJson, Value.tree_object]
  refine Record.shape_object _ rfl ?_
  refine Record.members_known rfl rfl (Record.read_of_ok _ (Json.word32_tree u.prompt)) ?_
  refine Record.members_known rfl rfl (Record.read_of_ok _ (Json.word32_tree u.completion)) ?_
  refine Record.members_known rfl rfl (Record.read_of_ok _ (Json.word32_tree u.total)) ?_
  rfl

theorem Usage.read_optional (usage : Option Usage) :
    Json.optional Provider.OpenAi.usageRecord.shape ((usage.map toJson).getD .null).tree =
      .ok usage :=
  Json.optional_orNull_tree Usage.read_toJson (fun _ => Value.tree_object_ne_null _) usage

namespace SentEvent

/-- One case for each kind of event: the members it has are read, and no others are there. -/
theorem read_toJson (e : SentEvent) : record.shape e.toJson.tree = .ok e := by
  cases e with
  | chunk content isDone =>
    rw [toJson, Value.tree_object]
    refine Record.shape_object _ (r := ⟨some content, some isDone, none, none, none⟩) rfl ?_
    refine Record.members_known rfl rfl (Record.read_of_ok _ (Json.string_tree content)) ?_
    refine Record.members_known rfl rfl (Record.read_of_ok _ (Json.flag_tree isDone)) ?_
    rfl
  | done content isDone usage reason =>
    rw [toJson, Value.tree_object]
    refine Record.shape_object _ (r := ⟨some content, some isDone, usage, some reason, none⟩) rfl ?_
    refine Record.members_known rfl rfl (Record.read_of_ok _ (Json.string_tree content)) ?_
    refine Record.members_known rfl rfl (Record.read_of_ok _ (Json.flag_tree isDone)) ?_
    refine Record.members_known rfl rfl (Record.read_of_ok _ (Usage.read_optional usage)) ?_
    refine Record.members_known rfl rfl (Record.read_of_ok _ (Json.string_tree reason)) ?_
    rfl
  | error message =>
    rw [toJson, Value.tree_object]
    refine Record.shape_object _ (r := ⟨none, none, none, none, some message⟩) rfl ?_
    refine Record.members_known rfl rfl (Record.read_of_ok _ (Json.string_tree message)) ?_
    rfl

/-- **An event is read as what was written.** -/
theorem decode_text (e : SentEvent) : decode e.toJson.text = .ok e := by
  rw [decode, Json.ofWhole_stringItems_text]
  exact e.read_toJson

theorem tight_text (e : SentEvent) : Tight e.toJson.text := by
  cases e <;> exact tight_object _

end SentEvent

end Gatehouse.Generation

/-! ## 3. Streams of events -/

namespace Gatehouse.Gateway.Service

open Gatehouse.Generation
open Gatehouse.Provider (Remote)
open Gatehouse.Provider.EventStream
open Gatehouse.Text

/-- **The events of a stream are read back as they were sent.** The body of the response may arrive in
    any pieces: there is one payload for each event, in order, which is the text of the event and is
    read as that event. What the service sends is such a body. -/
theorem stream_read_back (events : List SentEvent) (pieces : List (List UInt8))
    (h : pieces.flatten.toByteArray =
      (Http.Response.eventStream (events.map SentEvent.wire)).body.toUTF8) :
    (Decoder.start.feedAll pieces).flatten = events.map (fun e => e.toJson.text) ∧
    (Decoder.start.feedAll pieces).flatten.map SentEvent.decode = events.map .ok ∧
    ∀ (s : Service) (out : Outside) (r : Http.Request) (q : Generation.Request) (sent : List Event),
      submission out.remark r = .ok q → (s.gateway.stream q).result = .ok sent →
        (s.generateStream out r).response = .eventStream ((sent.map Event.sent).map SentEvent.wire) := by
  have hpayloads : (Decoder.start.feedAll pieces).flatten =
      events.map (fun e => e.toJson.text) := by
    have htexts : events.map SentEvent.wire =
        (events.map (fun e => e.toJson.text)).map dataLine := by
      rw [List.map_map]
      rfl
    have htight : ∀ t ∈ events.map (fun e => e.toJson.text), Tight t := by
      intro t ht
      obtain ⟨e, -, rfl⟩ := List.mem_map.1 ht
      exact e.tight_text
    have hbytes : pieces.flatten = Utf8.encode (String.join (events.map SentEvent.wire)) :=
      Utf8.eq_encode_iff.1 h
    have hstart : lineFeed ∉ Decoder.start.held := List.not_mem_nil
    rw [Decoder.flatten_feedAll hstart, hbytes, htexts]
    exact payloads_dataLines htight
  refine ⟨hpayloads, ?_, ?_⟩
  · rw [hpayloads, List.map_map]
    exact List.map_congr_left fun e _ => e.decode_text
  · intro s out r q sent hsubmission hresult
    rw [generateStream, hsubmission]
    simp only [conclude, hresult, List.map_map]
    rfl

/-- An increment with a letter of two bytes and the end of a line, and an error that looks like a line
    of data. -/
def oddEvents : List SentEvent := [.chunk "caf\u00e9\n" false, .error "data: \x7b\x7d"]

/-- What is sent for them, cut inside the letter and inside the first line. -/
def oddPieces : List (List UInt8) :=
  [[0x64, 0x61], Remote.latin "ta: \x7b\"content\":\"caf\xC3", [],
    Remote.latin "\xA9\\n\",\"done\":false\x7d\n",
    Remote.latin "\ndata: \x7b\"error\":\"data: \x7b\x7d\"\x7d\n\n"]

theorem stream_read_back_odd :
    (Decoder.start.feedAll oddPieces).flatten =
        ["\x7b\"content\":\"caf\u00e9\\n\",\"done\":false\x7d",
          "\x7b\"error\":\"data: \x7b\x7d\"\x7d"] ∧
      (Decoder.start.feedAll oddPieces).flatten.map SentEvent.decode = oddEvents.map .ok := by
  have hbytes : oddPieces.flatten.toByteArray =
      (Http.Response.eventStream (oddEvents.map SentEvent.wire)).body.toUTF8 := by
    rw [Utf8.eq_encode_iff]
    decide +kernel
  obtain ⟨htexts, hread, -⟩ := stream_read_back oddEvents oddPieces hbytes
  refine ⟨htexts.trans ?_, hread⟩
  decide +kernel

end Gatehouse.Gateway.Service
