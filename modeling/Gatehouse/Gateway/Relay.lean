import Gatehouse.Gateway.Audit
import Gatehouse.Gateway.Refusal
import Gatehouse.Safety.Pipeline

/-!
# Screening what was generated

Whatever a provider produces goes through the output check before it is delivered: as a whole, or
increment by increment.

* `Screening` is the outcome of the check: the content is delivered, redacted if need be, or withheld;
* `relay` takes the items of a stream one after the other and turns each into an event, up to the first
  terminal one, after which no item is taken.
-/

namespace Gatehouse.Gateway

open Gatehouse.Generation (Chunk Event)
open Gatehouse.Provider (Item)
open Gatehouse.Safety

/-- All that is said about content that did not pass the output check. -/
def outputRejected : String :=
  "Generated content was flagged as unsafe and did not pass safety review"

/-- What is said when a stream ends without a last chunk. -/
def streamIncomplete : String := "Provider stream ended before completion"

/-- What becomes of generated content. -/
inductive Screening where
  | delivered (content : String)
  | withheld (category : Category)
  deriving DecidableEq, Repr

/-- How content is screened: the pipeline it goes through, and the scope of the request. -/
structure Screen where
  pipeline : Pipeline
  scope : Scope

namespace Screen

/-- **Screens a content**; what was flagged is logged. -/
def content (s : Screen) (text : String) : Screening × List SafetyEvent :=
  let v := s.pipeline.checkOutput text
  (match v with
    | .allowed => .delivered text
    | .redacted _ => .delivered (PersonalData.redact text)
    | .blocked f => .withheld f.category,
   s.scope.entries .output v)

/-- Screens the content of an increment; an empty one needs no check. -/
def increment (s : Screen) (text : String) : Screening × List SafetyEvent :=
  if text.isEmpty then (.delivered text, []) else s.content text

/-- The event that a chunk becomes once it is screened. -/
def eventOf (c : Chunk) : Screening → Event
  | .withheld _ => .error outputRejected
  | .delivered text =>
    match c with
    | .delta _ => .chunk text
    | .last _ usage => .done text usage

/-- Screens a chunk. -/
def chunk (s : Screen) (c : Chunk) : Event × List SafetyEvent :=
  let (screening, log) := s.increment c.content
  (eventOf c screening, log)

end Screen

/-- What a stream has been turned into: the events, the safety log, and how many of its items were
    taken. -/
structure Relayed where
  events : List Event
  log : List SafetyEvent
  taken : Nat
  deriving DecidableEq, Repr

/-- The outcome with one more item in front of it. -/
def Relayed.after (e : Event) (log : List SafetyEvent) (r : Relayed) : Relayed :=
  ⟨e :: r.events, log ++ r.log, r.taken + 1⟩

/-- **Relays a stream.** The events end with the first terminal one; a stream that stalls leaves them
    without an end. -/
def relay (s : Screen) : List Item → Relayed
  | [] => ⟨[.error streamIncomplete], [], 0⟩
  | .chunk c :: items =>
    let (e, log) := s.chunk c
    if e.isTerminal then ⟨[e], log, 1⟩ else (relay s items).after e log
  | .failed f :: _ => ⟨[.error f.message], [], 1⟩
  | .brokeDown _ :: _ => ⟨[.error Refusal.internalMessage], [], 1⟩
  | .stalled :: _ => ⟨[], [], 1⟩

end Gatehouse.Gateway
