import Mathlib.Logic.Relation
import Gatehouse.Gateway.Basic

/-!
# The relay, its watcher and the client, step by step

A streamed request is carried out by a relay and a watcher that run on their own and share a channel
with the client. The channel has a single slot. The relay takes the items of the stream one after the
other and puts an event into the slot for each; the watcher waits for the relay to stop and reports if
it broke down. The client receives what is in the slot, and may leave at any moment.

* `State` is where the parties stand, and what has happened so far;
* `Step` is a step of one of them, `Run` any number of steps in any order.
-/

namespace Gatehouse.Gateway.Interleaving

open Gatehouse.Generation (Event)
open Gatehouse.Provider (Answer Item)

/-! ## 1. States -/

/-- Where the relay stands. -/
inductive Phase where
  /-- The provider has been asked for a stream. -/
  | opening
  /-- The next of the items is waited for. -/
  | pulling (left : List Item)
  /-- An item is waited for that never comes. -/
  | stalled
  /-- An event is to be put into the slot; behind it are the items that are left of the stream, if
      there is one. -/
  | sending (e : Event) (left : Option (List Item))
  /-- All is over but for letting go of what is held. -/
  | leaving (holding brokeDown : Bool)
  | stopped (brokeDown : Bool)

/-- Where the watcher stands, which waits for the relay to stop. -/
inductive Watcher where
  | waiting
  | sending
  | done
  deriving DecidableEq

/-- The parties and the channel between them, with what happened so far: the events the client has
    received, the safety log, how many items the relay has taken, and how many streams it was given and
    has released. -/
structure State where
  relay : Phase
  watcher : Watcher
  slot : Option Event
  isConnected : Bool
  received : List Event
  log : List SafetyEvent
  taken : Nat
  opened : Nat
  released : Nat

/-- Nothing has happened. -/
def start : State := ⟨.opening, .waiting, none, true, [], [], 0, 0, 0⟩

namespace Phase

/-- How many streams the relay holds. -/
def held : Phase → Nat
  | .pulling _ | .stalled | .sending _ (some _) | .leaving true _ => 1
  | _ => 0

/-- Does the relay look out for the client to leave? -/
def listens : Phase → Bool
  | .pulling _ | .stalled => true
  | _ => false

end Phase

/-- The client can get no event any more: both senders are gone, and the slot is empty. -/
structure State.IsOver (x : State) : Prop where
  relay : ∃ brokeDown, x.relay = .stopped brokeDown
  watcher : x.watcher = .done
  slot : x.slot = none

/-! ## 2. Steps -/

/-- The relay after the provider's answer. -/
def answered : Answer (List Item) → Phase
  | .ok items => .pulling items
  | .failed f => .sending (.error f.message) none
  | .brokeDown _ => .leaving false true

/-- The relay after the next item, and what is logged for it. -/
def pulled (s : Screen) : List Item → Phase × List SafetyEvent
  | [] => (.sending (.error streamIncomplete) (some []), [])
  | .chunk c :: left => (.sending (s.chunk c).1 (some left), (s.chunk c).2)
  | .failed f :: left => (.sending (.error f.message) (some left), [])
  | .brokeDown _ :: _ => (.leaving true true, [])
  | .stalled :: _ => (.stalled, [])

/-- The relay after an event was put into the slot. -/
def sent (e : Event) : Option (List Item) → Phase
  | some left => if e.isTerminal then .leaving true false else .pulling left
  | none => .leaving false false

/-- **A step of one of the parties.** A sender waits while the slot is full, and fails once the client
    has left; the relay may take an item that is there also if the client has left. -/
inductive Step (s : Screen) (answer : Answer (List Item)) : State → State → Prop where
  -- the relay
  | opens {x : State} : x.relay = .opening → Step s answer x
      { x with relay := answered answer, opened := x.opened + (answered answer).held }
  | pulls {x : State} {left : List Item} : x.relay = .pulling left → Step s answer x
      { x with
        relay := (pulled s left).1
        log := x.log ++ (pulled s left).2
        taken := x.taken + (left.take 1).length }
  | notices {x : State} : x.relay.listens = true → x.isConnected = false →
      Step s answer x { x with relay := .leaving true false }
  | sends {x : State} {e : Event} {left : Option (List Item)} : x.relay = .sending e left →
      x.isConnected = true → x.slot = none →
      Step s answer x { x with relay := sent e left, slot := some e }
  | fails {x : State} {e : Event} {left : Option (List Item)} : x.relay = .sending e left →
      x.isConnected = false → Step s answer x { x with relay := .leaving left.isSome false }
  -- a task lets go of what it holds before it has stopped
  | stops {x : State} {holding brokeDown : Bool} : x.relay = .leaving holding brokeDown →
      Step s answer x
        { x with relay := .stopped brokeDown, released := x.released + holding.toNat }
  -- the watcher
  | wakes {x : State} {brokeDown : Bool} : x.relay = .stopped brokeDown → x.watcher = .waiting →
      Step s answer x { x with watcher := if brokeDown then .sending else .done }
  | alarms {x : State} : x.watcher = .sending → x.isConnected = true → x.slot = none →
      Step s answer x { x with watcher := .done, slot := some (.error Refusal.internalMessage) }
  | givesUp {x : State} : x.watcher = .sending → x.isConnected = false →
      Step s answer x { x with watcher := .done }
  -- the client
  | receives {x : State} {e : Event} : x.isConnected = true → x.slot = some e →
      Step s answer x { x with slot := none, received := x.received ++ [e] }
  | leaves {x : State} : x.isConnected = true →
      Step s answer x { x with isConnected := false, slot := none }

/-- One step after the other. -/
abbrev Run (s : Screen) (answer : Answer (List Item)) : State → State → Prop :=
  Relation.ReflTransGen (Step s answer)

/-- A state that the parties can come to. -/
abbrev Reachable (s : Screen) (answer : Answer (List Item)) (x : State) : Prop := Run s answer start x

end Gatehouse.Gateway.Interleaving
