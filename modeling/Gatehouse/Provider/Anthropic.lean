import Gatehouse.Provider.Wire

/-!
# The messages interface

* `Anthropic.requestBody` is the body of a call, `Anthropic.reply` reads the body of an answer;
* `Anthropic.readPayload` reads one payload of a streamed answer. The counts of tokens come in payloads
  of their own and are collected until the message stops.
-/

namespace Gatehouse.Provider.Anthropic

open Gatehouse.Generation
open Gatehouse.Json (Shape Record)

/-- The name the provider is registered under. -/
def name : String := "anthropic"

/-- The name people know the provider by. -/
def label : String := "Anthropic"

/-- The address of the public interface. -/
def defaultBase : String := "https://api.anthropic.com/v1"

/-- The models offered unless others are configured. -/
def defaultModels : List String := ["claude-sonnet-4-5-20250929", "claude-haiku-4-5-20251001"]

/-- Where calls go, below the base address. -/
def endpoint : String := "/messages"

/-- The headers of a call. -/
def headers (key : String) : List (String × String) :=
  [("x-api-key", key), ("anthropic-version", "2023-06-01"), ("content-type", "application/json")]

/-! ## 1. Calls -/

/-- The system prompt as a member of a call, if there is one. -/
def systemMember (p : Params) : List (String × Json.Value) :=
  match p.systemPrompt with
  | some s => if s.isEmpty then [] else [("system", .string s)]
  | none => []

/-- The body of a call. -/
def requestBody (p : Params) (stream : Bool) : Json.Value :=
  .object ([("model", .string p.model), ("max_tokens", .natural p.maxTokens.toNat),
    ("temperature", .real p.temperature)] ++ systemMember p ++
    [("messages", .array [.object [("role", .string "user"), ("content", .string p.prompt)]])] ++
    (if stream then [("stream", .bool true)] else []))

/-! ## 2. Answers -/

/-- A report of tokens. Counts that are left out are zero. -/
def tallyRecord : Record Tally Tally where
  name := "Tally"
  fields := [
    ⟨"input_tokens", true, fun t u => do return { u with input := ← Json.word32 t }⟩,
    ⟨"output_tokens", true, fun t u => do return { u with output := ← Json.word32 t }⟩]
  start := ⟨0, 0⟩
  finish := .ok

/-- A block of content, of which only the text counts. -/
def blockRecord : Record (Option String) (Option String) where
  name := "Block"
  fields := [⟨"text", false, fun t _ => Json.optional Json.string t⟩]
  start := none
  finish := .ok

/-- An answer. -/
structure Message where
  blocks : List (Option String)
  stopReason : Option String
  tally : Option Tally

/-- An answer, as a record. -/
def messageRecord : Record Message Message where
  name := "Message"
  fields := [
    ⟨"content", true, fun t m => do return { m with blocks := ← Json.list blockRecord.shape t }⟩,
    ⟨"stop_reason", false, fun t m => do
      return { m with stopReason := ← Json.optional Json.string t }⟩,
    ⟨"usage", false, fun t m => do return { m with tally := ← Json.optional tallyRecord.shape t }⟩]
  start := ⟨[], none, none⟩
  finish := .ok

/-- The usage of a report of tokens. -/
def usageOf (t : Tally) : Usage := .ofParts t.input t.output

/-- Reads the body of an answer to a call for a model. -/
def reply (model : String) (body : List UInt8) : Except Failure Reply :=
  match messageRecord.shape.ofWhole (Json.Reader.bytesItems body) with
  | .error _ => .error (.malformed name label)
  | .ok m =>
    .ok ⟨(m.blocks.findSome? id).getD "", model, name, (m.tally.map usageOf).getD .zero,
      m.stopReason.getD "end_turn"⟩

/-! ## 3. Streams -/

/-- A payload. -/
structure Payload where
  kind : Option String
  message : Option (Option Tally)
  delta : Option (Option String)
  tally : Option Tally

/-- The start of a message, of which only the report of tokens counts. -/
def startRecord : Record (Option Tally) (Option Tally) where
  name := "Start"
  fields := [⟨"usage", false, fun t _ => Json.optional tallyRecord.shape t⟩]
  start := none
  finish := .ok

/-- What a payload adds to a message, of which only the text counts. -/
def deltaRecord : Record (Option String) (Option String) where
  name := "Delta"
  fields := [⟨"text", false, fun t _ => Json.optional Json.string t⟩]
  start := none
  finish := .ok

/-- A payload, as a record. -/
def payloadRecord : Record Payload (String × Payload) where
  name := "Payload"
  fields := [
    ⟨"type", false, fun t p => do return { p with kind := some (← Json.string t) }⟩,
    ⟨"message", false, fun t p => do
      return { p with message := ← Json.optional startRecord.shape t }⟩,
    ⟨"delta", false, fun t p => do return { p with delta := ← Json.optional deltaRecord.shape t }⟩,
    ⟨"usage", false, fun t p => do return { p with tally := ← Json.optional tallyRecord.shape t }⟩]
  start := ⟨none, none, none, none⟩
  finish := fun p =>
    match p.kind with
    | none => .error "type"
    | some kind => .ok (kind, p)

/-- Takes a payload that could be read. -/
def takePayload (t : Tally) (kind : String) (p : Payload) : Tally × Option Chunk :=
  if kind == "message_start" then
    match p.message.join with
    | some u => ({ t with input := u.input }, none)
    | none => (t, none)
  else if kind == "content_block_delta" then
    match p.delta.join with
    | some text => (t, if text.isEmpty then none else some (.delta text))
    | none => (t, none)
  else if kind == "message_delta" then
    match p.tally with
    | some u => ({ t with output := u.output }, none)
    | none => (t, none)
  else if kind == "message_stop" then (t, some (.last "" (some (usageOf t))))
  else (t, none)

/-- Reads one payload; one that cannot be read is passed over. -/
def readPayload : PayloadReader := fun t payload =>
  match payloadRecord.shape.ofWhole (Json.Reader.stringItems payload) with
  | .error _ => (t, none)
  | .ok (kind, p) => takePayload t kind p

end Gatehouse.Provider.Anthropic
