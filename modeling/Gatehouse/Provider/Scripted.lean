import Gatehouse.Provider.Call

/-!
# Providers that follow a script

A scripted provider lives in memory. It answers each call by the next line of a script, and repeats the
last one.
-/

namespace Gatehouse.Provider

open Gatehouse.Generation

/-- The answer to a call for a whole answer. -/
inductive ReplyLine where
  /-- A reply; without a model it names the one that was asked for. -/
  | reply (content : String) (model : Option String) (usage : Usage) (finishReason : String)
  | failed (failure : Failure)
  | brokeDown (payload : String)
  deriving DecidableEq, Repr

/-- The answer to a call for a stream. -/
inductive StreamLine where
  | items (items : List Item)
  | failed (failure : Failure)
  | brokeDown (payload : String)
  deriving DecidableEq, Repr

/-- A provider that follows a script. -/
structure Scripted where
  /-- The name it gives as its own in replies. -/
  reportedName : String
  models : List String
  configured : Bool
  closeFailure : Option Failure
  replies : List ReplyLine
  streams : List StreamLine

namespace Scripted

/-- The script after its first line: the last line stays. -/
def advance {α : Type} : List α → List α
  | [] => []
  | [a] => [a]
  | _ :: rest => rest

/-- What a line of the script says to a call. -/
def answerOf (s : Scripted) (p : Params) : Option ReplyLine → Answer Reply
  | none => .brokeDown "no script"
  | some (.reply content model usage finishReason) =>
    .ok ⟨content, model.getD p.model, s.reportedName, usage, finishReason⟩
  | some (.failed f) => .failed f
  | some (.brokeDown payload) => .brokeDown payload

/-- Asks for a whole answer. -/
def generate (s : Scripted) (p : Params) : Answer Reply × Scripted :=
  (s.answerOf p s.replies.head?, { s with replies := advance s.replies })

/-- What a line of the script says to a call for a stream. -/
def openingOf : Option StreamLine → Answer (List Item)
  | none => .brokeDown "no script"
  | some (.items items) => .ok items
  | some (.failed f) => .failed f
  | some (.brokeDown payload) => .brokeDown payload

/-- Asks for a stream. -/
def stream (s : Scripted) : Answer (List Item) × Scripted :=
  (openingOf s.streams.head?, { s with streams := advance s.streams })

end Scripted

end Gatehouse.Provider
