import Gatehouse.Provider.Wire

/-!
# The chat-completions interface

* `OpenAi.requestBody` is the body of a call, `OpenAi.reply` reads the body of an answer;
* `OpenAi.readPayload` reads one payload of a streamed answer. The usage of a stream is the one that
  comes with its finish reason.
-/

namespace Gatehouse.Provider.OpenAi

open Gatehouse.Generation
open Gatehouse.Json (Shape Record)

/-- The name the provider is registered under. -/
def name : String := "openai"

/-- The name people know the provider by. -/
def label : String := "OpenAI"

/-- The address of the public interface. -/
def defaultBase : String := "https://api.openai.com/v1"

/-- The models offered unless others are configured. -/
def defaultModels : List String := ["gpt-4o", "gpt-4o-mini", "gpt-4-turbo", "gpt-3.5-turbo"]

/-- Where calls go, below the base address. -/
def endpoint : String := "/chat/completions"

/-- The headers of a call. -/
def headers (key : String) : List (String × String) :=
  [("authorization", "Bearer " ++ key), ("content-type", "application/json")]

/-! ## 1. Calls -/

/-- A message of a conversation. -/
def messageJson (role content : String) : Json.Value :=
  .object [("role", .string role), ("content", .string content)]

/-- The conversation of a call: the system prompt, if there is one, and the prompt. -/
def messages (p : Params) : List Json.Value :=
  (match p.systemPrompt with
    | some s => if s.isEmpty then [] else [messageJson "system" s]
    | none => []) ++ [messageJson "user" p.prompt]

/-- The body of a call. -/
def requestBody (p : Params) (stream : Bool) : Json.Value :=
  .object ([("model", .string p.model), ("messages", .array (messages p)),
    ("temperature", .real p.temperature), ("max_tokens", .natural p.maxTokens.toNat)] ++
    (if stream then [("stream", .bool true)] else []))

/-! ## 2. Answers -/

/-- A usage report. Counts that are left out are zero. -/
def usageRecord : Record Usage Usage where
  name := "Usage"
  fields := [
    ⟨"prompt_tokens", true, fun t u => do return { u with prompt := ← Json.word32 t }⟩,
    ⟨"completion_tokens", true, fun t u => do return { u with completion := ← Json.word32 t }⟩,
    ⟨"total_tokens", true, fun t u => do return { u with total := ← Json.word32 t }⟩]
  start := .zero
  finish := .ok

/-- A message, of which only the content counts. -/
def messageRecord : Record (Option String) (Option String) where
  name := "Message"
  fields := [⟨"content", false, fun t _ => Json.optional Json.string t⟩]
  start := none
  finish := .ok

/-- One of the alternatives of an answer. -/
structure Choice where
  content : Option String
  finishReason : Option String

/-- An alternative, as a record. -/
def choiceRecord : Record (Option (Option String) × Option String) Choice where
  name := "Choice"
  fields := [
    ⟨"message", false, fun t c => do return (some (← messageRecord.shape t), c.2)⟩,
    ⟨"finish_reason", false, fun t c => do return (c.1, ← Json.optional Json.string t)⟩]
  start := (none, none)
  finish := fun c =>
    match c with
    | (none, _) => .error "message"
    | (some content, reason) => .ok ⟨content, reason⟩

/-- An answer: its alternatives and the usage. -/
def answerRecord : Record (Option (List Choice) × Option Usage) (List Choice × Option Usage) where
  name := "Answer"
  fields := [
    ⟨"choices", false, fun t a => do return (some (← Json.list choiceRecord.shape t), a.2)⟩,
    ⟨"usage", false, fun t a => do return (a.1, ← Json.optional usageRecord.shape t)⟩]
  start := (none, none)
  finish := fun a =>
    match a with
    | (none, _) => .error "choices"
    | (some choices, usage) => .ok (choices, usage)

/-- Reads the body of an answer to a call for a model. -/
def reply (model : String) (body : List UInt8) : Except Failure Reply :=
  match answerRecord.shape.ofWhole (Json.Reader.bytesItems body) with
  | .error _ => .error (.malformed name label)
  | .ok ([], _) => .error (.ofMessage name (label ++ " returned a response without choices"))
  | .ok (c :: _, usage) =>
    .ok ⟨c.content.getD "", model, name, usage.getD .zero, c.finishReason.getD "stop"⟩

/-! ## 3. Streams -/

/-- What a payload adds to a message. -/
def deltaRecord : Record (Option String) (Option String) where
  name := "Delta"
  fields := [⟨"content", false, fun t _ => Json.optional Json.string t⟩]
  start := none
  finish := .ok

/-- One of the alternatives of a payload. -/
def streamChoiceRecord : Record Choice Choice where
  name := "StreamedChoice"
  fields := [
    ⟨"delta", false, fun t c => do
      return { c with content := (← Json.optional deltaRecord.shape t).join }⟩,
    ⟨"finish_reason", false, fun t c => do
      return { c with finishReason := ← Json.optional Json.string t }⟩]
  start := ⟨none, none⟩
  finish := .ok

/-- A payload: its alternatives and the usage. -/
def payloadRecord : Record (List Choice × Option Usage) (List Choice × Option Usage) where
  name := "Payload"
  fields := [
    ⟨"choices", true, fun t a => do return (← Json.list streamChoiceRecord.shape t, a.2)⟩,
    ⟨"usage", false, fun t a => do return (a.1, ← Json.optional usageRecord.shape t)⟩]
  start := ([], none)
  finish := .ok

/-- The chunk a payload stands for: the last one if it ends the stream or has a finish reason, none if
    it cannot be read or adds nothing. -/
def chunk? (payload : String) : Option Chunk :=
  if payload == "[DONE]" then some (.last "" none)
  else
    match payloadRecord.shape.ofWhole (Json.Reader.stringItems payload) with
    | .error _ => none
    | .ok (choices, usage) =>
      let choice := choices.head?.getD ⟨none, none⟩
      let content := choice.content.getD ""
      if choice.finishReason.isSome then some (.last content usage)
      else if content.isEmpty then none
      else some (.delta content)

/-- Reads one payload. -/
def readPayload : PayloadReader := fun t payload => (t, chunk? payload)

end Gatehouse.Provider.OpenAi
