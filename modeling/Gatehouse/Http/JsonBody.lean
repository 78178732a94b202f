import Gatehouse.Http.MediaType
import Gatehouse.Http.Request
import Gatehouse.Json.Shape

/-!
# Requests that carry JSON

`readJson` reads the body of a request as a value of a given shape. The media type is looked at first,
then the length, then the text. What follows the value in the body is not looked at.

The reader of JSON adds a remark to what is said about a body that it cannot read: what it has stumbled
on, and in which line and column. The words are its own, and are passed in.
-/

namespace Gatehouse.Http

/-- What is wrong with a body. -/
inductive BodyFault where
  /-- The body is not said to be JSON. -/
  | mediaType
  | tooLong
  /-- The body is not a JSON text. -/
  | malformed
  /-- The body is JSON of another shape. -/
  | mismatch (path : List Json.Step) (what : Json.Mismatch)
  deriving DecidableEq, Repr

/-- The words for what is wrong with a body, with the remark of the reader behind its faults. -/
def BodyFault.message (remark : String) : BodyFault → String
  | .mediaType => "Expected request with `Content-Type: application/json`"
  | .tooLong => "Failed to buffer the request body: length limit exceeded"
  | .malformed => "Failed to parse the request body as JSON" ++ remark
  | .mismatch path what =>
    "Failed to deserialize the JSON body into the target type: " ++ Json.locatedMessage path what ++
      remark

/-- The number of bytes a body may have. -/
def bodyLimit : Nat := 2097152

namespace Request

/-- Is the body said to be JSON? -/
def saysJson (r : Request) : Bool :=
  match (r.headerText? "content-type").bind MediaType.parse? with
  | some m => m.isJson
  | none => false

/-- Reads the body as a value of a shape. -/
def readJson {α : Type} (shape : Json.Shape α) (r : Request) : Except BodyFault α :=
  if !r.saysJson then .error .mediaType
  else if bodyLimit < r.body.length then .error .tooLong
  else match shape.ofStart (Json.Reader.bytesItems r.body) with
    | .error .malformed => .error .malformed
    | .error (.mismatch path what) => .error (.mismatch path what)
    | .ok a => .ok a

end Request

end Gatehouse.Http
