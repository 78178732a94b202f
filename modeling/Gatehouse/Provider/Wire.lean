import Gatehouse.Provider.Call
import Gatehouse.Provider.EventStream

/-!
# What goes over the network

A provider that is reached over the network sends a `WireRequest` and gets a `Delivery`. The body of a
delivery comes in pieces, which may be cut anywhere. A delivery may also be a redirection, which the
client that the requests are sent with follows by itself, ten times at most.

* `Line` is the network from one provider's point of view: what it will deliver, one delivery per
  request, the last one again and again;
* `Line.exchange` is what comes of a request, redirections included, and `WireRequest.trail` which
  requests are made on the way;
* `bodyText` is the body of a delivery as a text, `pump` the stream that is made of it.
-/

namespace Gatehouse.Provider

open Gatehouse.Generation (Chunk)
open Gatehouse.Text

/-- The method of a request. -/
inductive Method where
  | post
  | get
  deriving DecidableEq, Repr

/-- The word for a method. -/
def Method.name : Method → String
  | .post => "POST"
  | .get => "GET"

/-- A request on its way to a provider's server. -/
structure WireRequest where
  method : Method
  url : String
  headers : List (String × String)
  timeoutSeconds : Nat
  body : String
  deriving DecidableEq, Repr

/-- How the body of a delivery ends. -/
inductive Ending where
  | complete
  /-- The connection drops. -/
  | dropped
  /-- The time for the request is up before the end has come. -/
  | timedOut
  deriving DecidableEq, Repr

/-- An answer that sends the client elsewhere: one of the statuses 301, 302, 303, 307 and 308, with an
    address to go on with. -/
structure Redirection where
  /-- Is the same request to be made there, as for 307 and 308? Otherwise the client asks for what is
      there. -/
  keepsRequest : Bool
  /-- The address that the answer leads to. -/
  target : String
  /-- Is it on the server that has answered? -/
  sameServer : Bool
  /-- The address that the client says it comes from; it says none where the one it goes on with is not
      encrypted and the one before was. -/
  referer : Option String
  deriving DecidableEq, Repr

/-- What comes back for a request. -/
inductive Delivery where
  /-- The request cannot be delivered. -/
  | refused
  /-- No answer comes in time. -/
  | timedOut
  | redirected (r : Redirection)
  | answered (status : UInt16) (pieces : List (List UInt8)) (ending : Ending)
  deriving DecidableEq, Repr

/-- Did the request reach a server that answered it? -/
def Delivery.isAnswered : Delivery → Bool
  | .answered .. => true
  | .redirected _ => true
  | _ => false

/-- What the network will deliver, one delivery per request; an empty line refuses everything. -/
structure Line where
  deliveries : List Delivery

/-- The next delivery, and the line after it. -/
def Line.next : Line → Delivery × Line
  | ⟨[]⟩ => (.refused, ⟨[]⟩)
  | ⟨[d]⟩ => (d, ⟨[d]⟩)
  | ⟨d :: ds⟩ => (d, ⟨ds⟩)

/-! ## 1. Redirections -/

/-- Is it a header that the client shows to no other server than the one it was meant for? -/
def isSecret (header : String) : Bool :=
  ["authorization", "cookie", "cookie2", "proxy-authorization", "www-authenticate"].contains header

/-- The headers of a request that are kept when it is redirected. -/
def WireRequest.kept (w : WireRequest) (r : Redirection) : List (String × String) :=
  w.headers.filter (fun h =>
    (r.keepsRequest || h.1 != "content-type") && (r.sameServer || !isSecret h.1))

/-- The request that a redirection leads to. -/
def WireRequest.redirected (w : WireRequest) (r : Redirection) : WireRequest where
  method := if r.keepsRequest then w.method else .get
  url := r.target
  headers :=
    match r.referer with
    | none => w.kept r
    | some address => (w.kept r).filter (fun h => h.1 != "referer") ++ [("referer", address)]
  timeoutSeconds := w.timeoutSeconds
  body := if r.keepsRequest then w.body else ""

/-- The requests that are answered on the way through redirections, and at its end if the last one is
    answered. -/
def WireRequest.trail (w : WireRequest) (lastAnswered : Bool) : List Redirection → List WireRequest
  | [] => if lastAnswered then [w] else []
  | r :: rs => w :: (w.redirected r).trail lastAnswered rs

/-- What comes of a request: the redirections that are followed, what is delivered in the end, and the
    line after it. -/
structure Exchange where
  redirections : List Redirection
  delivery : Delivery
  after : Line

/-- What the line delivers for a request if redirections are followed, `hops` at most. -/
def Line.exchange : (hops : Nat) → Line → Exchange
  | 0, line => ⟨[], line.next.1, line.next.2⟩
  | hops + 1, line =>
    match line.next with
    | (.redirected r, line) =>
      let e := line.exchange hops
      ⟨r :: e.redirections, e.delivery, e.after⟩
    | (d, line) => ⟨[], d, line⟩

/-- How many redirections the client follows. -/
def maxHops : Nat := 10

/-! ## 2. Bodies -/

/-- The text of a body: without a byte-order mark at its start, with U+FFFD for what is no character;
    empty if the body does not come to its end. -/
def bodyText (pieces : List (List UInt8)) : Ending → String
  | .complete =>
    match Utf8.decodeLossy pieces.flatten with
    | '\uFEFF' :: cs => String.ofList cs
    | cs => String.ofList cs
  | _ => ""

/-! ## 3. Streams -/

/-- Token counts collected while a stream is read. -/
structure Tally where
  input : UInt32
  output : UInt32
  deriving DecidableEq, Repr

/-- Reads one payload of an event stream: the chunk it stands for, if it stands for one. -/
abbrev PayloadReader := Tally → String → Tally × Option Chunk

/-- The chunks of payloads up to the last one of the stream, whether it was among them, and the counts
    after them. `done` are the chunks so far, last one first. -/
def readPayloads (read : PayloadReader) (done : List Chunk) : Tally → List String →
    List Chunk × Bool × Tally
  | t, [] => (done.reverse, false, t)
  | t, p :: ps =>
    match read t p with
    | (t, none) => readPayloads read done t ps
    | (t, some c) =>
      if c.isLast then ((c :: done).reverse, true, t) else readPayloads read (c :: done) t ps

/-- What a stream yields after its body has ended without a last chunk. -/
def afterBody (provider label : String) : Ending → List Item
  | .complete => []
  | .dropped => [.failed (.notSent provider label)]
  | .timedOut => [.failed (.timedOut provider label)]

/-- **The stream made of the pieces of a body**: the chunks of its complete lines, up to the last
    chunk, after which nothing is read. -/
def pump (read : PayloadReader) (provider label : String) (ending : Ending) :
    EventStream.Decoder → Tally → List (List UInt8) → List Item
  | _, _, [] => afterBody provider label ending
  | d, t, piece :: pieces =>
    let (payloads, d) := d.feed piece
    let (chunks, finished, t) := readPayloads read [] t payloads
    if finished then chunks.map .chunk
    else chunks.map .chunk ++ pump read provider label ending d t pieces

end Gatehouse.Provider
