import Gatehouse.Http.Header

/-!
# HTTP requests

A request is a method, a target, headers and a body of bytes. Header names are compared without regard
to case, and of several headers of one name the first counts. A query after the path is not looked at.
-/

namespace Gatehouse.Http

/-- A request as it arrives. -/
structure Request where
  method : String
  target : String
  headers : List (String × String)
  body : List UInt8
  deriving DecidableEq, Repr

/-- The name with its ASCII letters made small. -/
def lowerName (name : String) : String := name.map Char.toLower

namespace Request

/-- The path of the request: its target up to a query or a fragment. -/
def path (r : Request) : String :=
  String.ofList (r.target.toList.takeWhile (fun c => c != '?' && c != '#'))

/-- The value of the first header of a name, which is given in small letters. -/
def header? (r : Request) (name : String) : Option String :=
  (r.headers.find? (fun h => lowerName h.1 == name)).map Prod.snd

/-- The text of the first header of a name, if that is visible. -/
def headerText? (r : Request) (name : String) : Option String :=
  (r.header? name).bind Header.visible?

end Request

end Gatehouse.Http
