import Gatehouse.Generation.Usage

/-!
# What comes out of a generation

* `Reply` is what a provider answers a call with, `Chunk` one increment of an answer that is streamed;
* `Finished` is a whole generation as the caller gets it, `Event` one event of a streamed one;
* `SentEvent` is an event with all that is written about it, `SentEvent.wire` its text on the way.

Identifiers and times do not come from the request; they are passed in as a `Stamp`.
-/

namespace Gatehouse.Generation

/-- A provider's complete answer. -/
structure Reply where
  content : String
  model : String
  provider : String
  usage : Usage
  finishReason : String
  deriving DecidableEq, Repr

/-- One increment of a streamed answer. The last one is `last`, and carries the usage if the provider
    reported it. -/
inductive Chunk where
  | delta (content : String)
  | last (content : String) (usage : Option Usage)
  deriving DecidableEq, Repr

/-- The text of an increment. -/
def Chunk.content : Chunk → String
  | .delta c => c
  | .last c _ => c

/-- Does the increment end its stream? -/
def Chunk.isLast : Chunk → Bool
  | .delta _ => false
  | .last .. => true

/-- The identifier and the time given to a finished generation. -/
structure Stamp where
  id : String
  time : String

/-- A finished generation. -/
structure Finished where
  content : String
  model : String
  provider : String
  usage : Usage
  finishReason : String
  taskType : Option String
  deriving DecidableEq, Repr

/-- The generation made of a provider's answer, with the content that may be delivered. -/
def Finished.ofReply (r : Reply) (content : String) (taskType : Option String) : Finished :=
  ⟨content, r.model, r.provider, r.usage, r.finishReason, taskType⟩

/-- A member of an object that is left out if there is no value. -/
def memberOf? (name : String) : Option String → List (String × Json.Value)
  | none => []
  | some s => [(name, .string s)]

/-- The generation as JSON. -/
def Finished.toJson (g : Finished) (stamp : Stamp) : Json.Value :=
  .object ([("id", .string stamp.id), ("content", .string g.content), ("model", .string g.model),
    ("provider", .string g.provider), ("usage", g.usage.toJson),
    ("finish_reason", .string g.finishReason)] ++ memberOf? "task_type" g.taskType ++
    [("created_at", .string stamp.time)])

/-- One event of a streamed generation. -/
inductive Event where
  | chunk (content : String)
  | done (content : String) (usage : Option Usage)
  | error (message : String)
  deriving DecidableEq, Repr

/-- Does the stream end after the event? -/
def Event.isTerminal : Event → Bool
  | .chunk _ => false
  | _ => true

/-- An event as it is sent. Its kind is not written: the reader tells it from the members. -/
inductive SentEvent where
  | chunk (content : String) (isDone : Bool)
  | done (content : String) (isDone : Bool) (usage : Option Usage) (finishReason : String)
  | error (message : String)
  deriving DecidableEq, Repr

/-- A sent event as JSON. -/
def SentEvent.toJson : SentEvent → Json.Value
  | .chunk content isDone => .object [("content", .string content), ("done", .bool isDone)]
  | .done content isDone usage finishReason =>
    .object [("content", .string content), ("done", .bool isDone),
      ("usage", (usage.map Usage.toJson).getD .null), ("finish_reason", .string finishReason)]
  | .error message => .object [("error", .string message)]

/-- A sent event on its way: one line of data and a blank line. -/
def SentEvent.wire (e : SentEvent) : String := "data: " ++ e.toJson.text ++ "\n\n"

/-- The event as it is sent. -/
def Event.sent : Event → SentEvent
  | .chunk content => .chunk content false
  | .done content usage => .done content true usage "stop"
  | .error message => .error message

/-- The event as JSON. -/
def Event.toJson (e : Event) : Json.Value := e.sent.toJson

/-- The event on its way. -/
def Event.wire (e : Event) : String := e.sent.wire

end Gatehouse.Generation
