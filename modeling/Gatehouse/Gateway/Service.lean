import Gatehouse.Gateway.Basic
import Gatehouse.Gateway.Route
import Gatehouse.Gateway.ServiceToken
import Gatehouse.Http.JsonBody

/-!
# The gateway as a service

`Service.answer` answers one HTTP request. A request to a generation route passes these in order, and
the first it fails is its answer:

1. the service token, whatever the method is;
2. the method;
3. the body, which has to be a generation request;
4. the request itself, which must have no fault;
5. the gateway.

Every response may be read by pages of any origin. A request for the options of a path is answered
before anything else is looked at. Pages of the documentation come as they are from a library.
-/

namespace Gatehouse.Gateway

open Gatehouse.Generation (Stamp Event)

/-- A gateway behind a service token. -/
structure Service where
  gateway : Gateway
  token : ServiceToken

/-- What an answer may hold that is settled outside the gateway: the stamp of a generation, the remark of
    the reader of JSON on a body that it cannot read, and a page of the documentation. -/
structure Outside extends Stamp where
  remark : String
  page : Http.Response

/-- The answer to a request: the response, the safety log, and the service after it. -/
structure Exchange where
  response : Http.Response
  log : List SafetyEvent
  after : Service

namespace Service

/-! ## 1. Who may ask -/

/-- The credential a caller presents, blanks around which do not count. -/
def credential? (r : Http.Request) : Option String :=
  ((r.headerText? "authorization").bind (fun v =>
    ("Bearer ".toList.isPrefixOf? v.toList))).map (fun cs => Text.trim (String.ofList cs))

/-- Why the caller may not use the generation routes, if it may not. -/
def unauthorized? (s : Service) (r : Http.Request) : Option Refusal :=
  if !s.token.isEnabled then none
  else match credential? r with
    | none => some (.unauthorized "Missing service token")
    | some t => if s.token.accepts t then none else some (.unauthorized "Invalid service token")

/-! ## 2. Generation -/

/-- The generation request in a body, if there is one without fault. -/
def submission (remark : String) (r : Http.Request) : Except Refusal Generation.Request :=
  match r.readJson Generation.Request.shape with
  | .error fault => .error (.validation (fault.message remark))
  | .ok request =>
    match request.fault? with
    | some fault => .error (.validation fault.message)
    | none => .ok request

/-- What is answered when the gateway has dealt with a request. -/
def conclude {α : Type} (s : Service) (o : Outcome α) (response : α → Http.Response) : Exchange :=
  let after : Service := { s with gateway := o.after }
  match o.result with
  | .ok a => ⟨response a, o.log, after⟩
  | .refused e => ⟨e.response, o.log, after⟩
  | .brokeDown payload => ⟨(Refusal.internal payload).response, o.log, after⟩

/-- Answers a request for a whole generation. -/
def generate (s : Service) (out : Outside) (r : Http.Request) : Exchange :=
  match submission out.remark r with
  | .error e => ⟨e.response, [], s⟩
  | .ok request =>
    s.conclude (s.gateway.generate request) (fun g => .json 200 (g.toJson out.toStamp))

/-- Answers a request for a streamed generation. -/
def generateStream (s : Service) (out : Outside) (r : Http.Request) : Exchange :=
  match submission out.remark r with
  | .error e => ⟨e.response, [], s⟩
  | .ok request =>
    s.conclude (s.gateway.stream request) (fun events => .eventStream (events.map Event.wire))

/-! ## 3. What the service says about itself -/

/-- The version of the service. -/
def version : String := "0.1.0"

/-- Is any provider usable? -/
def condition (s : Service) : String :=
  if s.gateway.registry.configured.isEmpty then "degraded" else "ok"

/-- The state of the service. -/
def health (s : Service) (stamp : Stamp) : Json.Value :=
  .object [("status", .string s.condition), ("version", .string version),
    ("timestamp", .string stamp.time),
    ("checks", .object [("providers", .string s.condition)]),
    ("providers_configured", .array (s.gateway.registry.configured.map .string))]

/-- The registered providers and their models. -/
def providers (s : Service) : Json.Value :=
  .array (s.gateway.registry.list.map (fun (name, models) =>
    .object [("name", .string name), ("models", .array (models.map .string))]))

/-! ## 4. Routing -/

/-- The header that names the methods of a route. -/
def allowed (route : Route) : String × String := ("allow", ",".intercalate route.methods)

/-- Answers a request whose method is one of the route's. -/
def serve (s : Service) (out : Outside) (route : Route) (r : Http.Request) : Exchange :=
  match route with
  | .generate => s.generate out r
  | .generateStream => s.generateStream out r
  | .health => ⟨.json 200 (s.health out.toStamp), [], s⟩
  | .providers => ⟨.json 200 s.providers, [], s⟩

/-- Answers a request to a route whose caller may use it. -/
def dispatch (s : Service) (out : Outside) (route : Route) (r : Http.Request) : Exchange :=
  if route.methods.contains r.method then
    let x := s.serve out route r
    if r.method == "HEAD" then { x with response := x.response.headOnly } else x
  else ⟨.empty 405 [allowed route], [], s⟩

/-- Answers a request to a route. -/
def onRoute (s : Service) (out : Outside) (route : Route) (r : Http.Request) : Exchange :=
  match if route.isGuarded then s.unauthorized? r else none with
  | none => s.dispatch out route r
  | some e =>
    let response := e.response
    ⟨if route.methods.contains r.method then response
      else { response with headers := response.headers ++ [allowed route] }, [], s⟩

/-- What a page of any origin is told it may send. -/
def preflight (route : Option Route) : Http.Response :=
  .empty 200 ([("access-control-allow-methods", "*"), ("access-control-allow-headers", "*")] ++
    (route.map allowed).toList)

/-- The response to a request that is for none of the routes. -/
def elsewhere (out : Outside) (r : Http.Request) : Http.Response :=
  if Route.isDocumentation r.path then out.page
  else if r.method == "OPTIONS" then preflight none
  else .empty 404 []

/-- **Answers a request.** -/
def answer (s : Service) (out : Outside) (r : Http.Request) : Exchange :=
  let x : Exchange :=
    match Route.ofPath? r.path with
    | none => ⟨elsewhere out r, [], s⟩
    | some route =>
      if r.method == "OPTIONS" then ⟨preflight (some route), [], s⟩ else s.onRoute out route r
  { x with response := x.response.withHeader "access-control-allow-origin" "*" }

end Service

end Gatehouse.Gateway
