import Gatehouse.Http.Header
import Gatehouse.Provider.Anthropic
import Gatehouse.Provider.OpenAi

/-!
# Providers behind a network

A remote provider turns a call into one request, whose redirections its client follows, and what is
delivered in the end into an answer or a stream. It needs a key, and sends nothing without one; once it
is closed it sends nothing either.

* `Settings` is how a remote provider is set up, `Remote.ofSettings` sets it up;
* `Remote.send` is the part both kinds of calls share;
* `Remote.generate`, `Remote.stream` and `Remote.close` are its operations.
-/

namespace Gatehouse.Provider

open Gatehouse.Generation

/-- Whose interface a remote provider speaks. -/
inductive Vendor where
  | openAi
  | anthropic
  deriving DecidableEq, Repr

namespace Vendor

/-- The name the provider is registered under. -/
def name : Vendor → String
  | .openAi => OpenAi.name
  | .anthropic => Anthropic.name

/-- The name people know the provider by. -/
def label : Vendor → String
  | .openAi => OpenAi.label
  | .anthropic => Anthropic.label

/-- The address of the public interface. -/
def defaultBase : Vendor → String
  | .openAi => OpenAi.defaultBase
  | .anthropic => Anthropic.defaultBase

/-- The models offered unless others are configured. -/
def defaultModels : Vendor → List String
  | .openAi => OpenAi.defaultModels
  | .anthropic => Anthropic.defaultModels

/-- Where calls go, below the base address. -/
def endpoint : Vendor → String
  | .openAi => OpenAi.endpoint
  | .anthropic => Anthropic.endpoint

/-- The headers of a call. -/
def headers : Vendor → String → List (String × String)
  | .openAi => OpenAi.headers
  | .anthropic => Anthropic.headers

/-- The body of a call. -/
def requestBody : Vendor → Params → Bool → Json.Value
  | .openAi => OpenAi.requestBody
  | .anthropic => Anthropic.requestBody

/-- Reads the body of an answer. -/
def reply : Vendor → String → List UInt8 → Except Failure Reply
  | .openAi => OpenAi.reply
  | .anthropic => Anthropic.reply

/-- Reads one payload of a streamed answer. -/
def readPayload : Vendor → PayloadReader
  | .openAi => OpenAi.readPayload
  | .anthropic => Anthropic.readPayload

end Vendor

/-- How a remote provider is set up. -/
structure Settings where
  apiKey : String
  baseUrl : Option String
  timeoutSeconds : Option Nat
  streamTimeoutSeconds : Option Nat
  models : List String
  deriving DecidableEq, Repr

/-- Settings that say nothing. -/
def Settings.blank : Settings := ⟨"", none, none, none, []⟩

/-- A provider behind a network. -/
structure Remote where
  vendor : Vendor
  key : String
  base : String
  models : List String
  timeoutSeconds : Nat
  streamTimeoutSeconds : Nat
  isClosed : Bool
  line : Line

namespace Remote

/-- The address without the slashes at its end. -/
def trimSlashes (s : String) : String :=
  String.ofList ((s.toList.reverse.dropWhile (· == '/')).reverse)

/-- A provider with the settings, at the end of a line. -/
def ofSettings (vendor : Vendor) (s : Settings) (line : Line) : Remote where
  vendor := vendor
  key := Text.trim s.apiKey
  base := trimSlashes (s.baseUrl.getD vendor.defaultBase)
  models := if s.models.isEmpty then vendor.defaultModels else s.models
  timeoutSeconds := s.timeoutSeconds.getD 120
  streamTimeoutSeconds := s.streamTimeoutSeconds.getD 180
  isClosed := false
  line := line

/-- Are there credentials? -/
def isConfigured (r : Remote) : Bool := !r.key.isEmpty

/-- The request for a call. -/
def request (r : Remote) (p : Params) (stream : Bool) : WireRequest where
  method := .post
  url := r.base ++ r.vendor.endpoint
  headers := r.vendor.headers r.key
  timeoutSeconds := if stream then r.streamTimeoutSeconds else r.timeoutSeconds
  body := (r.vendor.requestBody p stream).text

/-- What a call has led to: its outcome, the requests that were answered, first one first, and the
    provider after it. -/
structure Sent (α : Type) where
  outcome : Except Failure α
  requests : List WireRequest
  after : Remote

/-- The body of a delivery, if its status says success; the failure it stands for otherwise. A delivery
    in the end is a redirection only if there were too many of them. -/
def accept (vendor : Vendor) : Delivery → Except Failure (List (List UInt8) × Ending)
  | .refused => .error (.notSent vendor.name vendor.label)
  | .timedOut => .error (.timedOut vendor.name vendor.label)
  | .redirected _ => .error (.notSent vendor.name vendor.label)
  | .answered status pieces ending =>
    if 200 ≤ status ∧ status < 300 then .ok (pieces, ending)
    else .error (.badStatus vendor.name vendor.label status (bodyText pieces ending))

/-- Sends the request for a call, unless there is no key, the provider is closed, or the key cannot be
    put into a header. -/
def send (r : Remote) (p : Params) (stream : Bool) : Sent (List (List UInt8) × Ending) :=
  if r.key.isEmpty then ⟨.error (.notConfigured r.vendor.name r.vendor.label), [], r⟩
  else if r.isClosed then ⟨.error (.closed r.vendor.name r.vendor.label), [], r⟩
  else if !Http.Header.isLegal r.key then ⟨.error (.notSent r.vendor.name r.vendor.label), [], r⟩
  else
    let e := r.line.exchange maxHops
    ⟨accept r.vendor e.delivery, (r.request p stream).trail e.delivery.isAnswered e.redirections,
      { r with line := e.after }⟩

/-- The reply in a body; one that does not come to its end is malformed. -/
def readReply (vendor : Vendor) (model : String) : List (List UInt8) × Ending → Except Failure Reply
  | (pieces, .complete) => vendor.reply model pieces.flatten
  | _ => .error (.malformed vendor.name vendor.label)

/-- Asks for a whole answer. -/
def generate (r : Remote) (p : Params) : Sent Reply :=
  let s := r.send p false
  ⟨s.outcome.bind (readReply r.vendor p.model), s.requests, s.after⟩

/-- The stream in a body. -/
def readStream (vendor : Vendor) : List (List UInt8) × Ending → List Item
  | (pieces, ending) =>
    pump vendor.readPayload vendor.name vendor.label ending .start ⟨0, 0⟩ pieces

/-- Asks for a stream. -/
def stream (r : Remote) (p : Params) : Sent (List Item) :=
  let s := r.send p true
  ⟨s.outcome.map (readStream r.vendor), s.requests, s.after⟩

/-- Closes the provider. -/
def close (r : Remote) : Remote := { r with isClosed := true }

end Remote

end Gatehouse.Provider
