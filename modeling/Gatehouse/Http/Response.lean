import Gatehouse.Json.Value

/-!
# HTTP responses

A response is a status, the headers that say something about its body or its use, and the body.
-/

namespace Gatehouse.Http

/-- A response. Header names are in small letters. -/
structure Response where
  status : Nat
  headers : List (String × String)
  body : String
  deriving DecidableEq, Repr

/-- A response whose body is JSON. -/
def Response.json (status : Nat) (body : Json.Value) : Response :=
  ⟨status, [("content-type", "application/json")], body.text⟩

/-- A response whose body is a stream of events, each as it is sent. -/
def Response.eventStream (events : List String) : Response :=
  ⟨200, [("content-type", "text/event-stream"), ("cache-control", "no-cache")], String.join events⟩

/-- A response without a body. -/
def Response.empty (status : Nat) (headers : List (String × String)) : Response :=
  ⟨status, headers, ""⟩

/-- The response with one more header. -/
def Response.withHeader (r : Response) (name value : String) : Response :=
  { r with headers := r.headers ++ [(name, value)] }

/-- The response as it is sent to one who only asked for its head. -/
def Response.headOnly (r : Response) : Response := { r with body := "" }

end Gatehouse.Http
