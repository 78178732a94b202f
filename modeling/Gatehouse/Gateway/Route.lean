/-!
# Routes

The paths that the gateway answers, and the methods each of them is for. Paths match exactly.

Some other paths are for pages that document the interface (`isDocumentation`). These come from a library.
-/

namespace Gatehouse.Gateway

/-- A place that requests can be sent to. -/
inductive Route where
  | generate
  | generateStream
  | health
  | providers
  deriving DecidableEq, Repr

namespace Route

/-- The path of a route. -/
def path : Route → String
  | .generate => "/v1/generate"
  | .generateStream => "/v1/generate_stream"
  | .health => "/v1/health"
  | .providers => "/v1/providers"

/-- All routes. -/
def all : List Route := [.generate, .generateStream, .health, .providers]

/-- The route with a path. -/
def ofPath? (path : String) : Option Route := all.find? (fun r => r.path == path)

/-- Does the path belong to the documentation of the interface? -/
def isDocumentation (path : String) : Bool :=
  path == "/api-docs/openapi.json" || path == "/swagger-ui" ||
    "/swagger-ui/".toList.isPrefixOf path.toList

/-- Does the route ask for the service token? -/
def isGuarded : Route → Bool
  | .generate | .generateStream => true
  | .health | .providers => false

/-- The methods of a route. Where a representation can be fetched, its head can be fetched alone. -/
def methods (r : Route) : List String := if r.isGuarded then ["POST"] else ["GET", "HEAD"]

/-- A path belongs to exactly one route. -/
theorem ofPath?_eq_some_iff (p : String) (r : Route) : ofPath? p = some r ↔ p = r.path := by
  constructor
  · intro h
    have hp := List.find?_some h
    exact (eq_of_beq hp).symm
  · rintro rfl
    cases r <;> decide

end Route

end Gatehouse.Gateway
