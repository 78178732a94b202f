import Gatehouse.Gateway.Relay
import Gatehouse.Generation.Template

/-!
# The gateway

The gateway lets a request through to its provider if its prompt passes the input check and the
provider is registered, and screens what comes back.

* `Gateway.permit` decides whether a request is let through, and with which parameters;
* `Gateway.generate` carries out a request for a whole generation, `Gateway.stream` one for a streamed
  one. Both give the safety log of the request and the gateway after it.
-/

namespace Gatehouse

open Gatehouse.Generation (Request Params Finished Event)
open Gatehouse.Provider (Registry)
open Gatehouse.Safety
open Gatehouse.Gateway (Refusal Scope Screen SafetyEvent)

/-- The providers, and the name of the safety level of requests that name none. -/
structure Gateway where
  registry : Registry
  defaultLevel : String

namespace Gateway

/-- What a request has led to. -/
inductive Result (α : Type) where
  | ok (a : α)
  | refused (r : Refusal)
  /-- A fault inside the provider got through to the gateway, with what it carries. -/
  | brokeDown (payload : String)

/-- The result of a request, its safety log, and the gateway after it. -/
structure Outcome (α : Type) where
  result : Result α
  log : List SafetyEvent
  after : Gateway

/-- A request that was let through: the provider's name, the provider, the parameters of the call, and
    how the result is screened. -/
structure Permit where
  name : String
  provider : Provider
  params : Params
  screen : Screen

/-- The name of the safety level a request runs at. -/
def levelName (g : Gateway) (r : Request) : String := r.safetyLevel.getD g.defaultLevel

/-- The pipeline a request goes through. -/
def pipeline (g : Gateway) (r : Request) : Pipeline := .standard (.ofName (g.levelName r))

/-- What the safety log says about a request. -/
def scope (g : Gateway) (r : Request) : Scope := ⟨r.taskType, r.tenantId, g.levelName r⟩

/-- The system prompt of a request: its own, unless that is blank, or else the template of its task. -/
def systemPrompt (r : Request) : Option String :=
  let template := r.taskType.bind Generation.templateFor
  match r.systemPrompt with
  | some s => if Text.isBlankText s then template else some s
  | none => template

/-- **Decides whether a request is let through**: its prompt is checked first, then its provider looked
    up. -/
def permit (g : Gateway) (r : Request) : Except Refusal Permit × List SafetyEvent :=
  let v := (g.pipeline r).checkInput r.prompt
  match v.finding? with
  | some f => (.error (.contentSafety (some f.category) f.detail), (g.scope r).entries .input v)
  | none =>
    match g.registry.get r.provider with
    | .error e => (.error (.ofRegistryError e), [])
    | .ok p =>
      (.ok ⟨r.provider, p, r.params (systemPrompt r), ⟨g.pipeline r, g.scope r⟩⟩, [])

/-- The gateway with one of its providers changed. -/
def withProvider (g : Gateway) (name : String) (p : Provider) : Gateway :=
  { g with registry := g.registry.update name (fun _ => p) }

/-- Carries out a request for a whole generation. -/
def generate (g : Gateway) (r : Request) : Outcome Finished :=
  match g.permit r with
  | (.error e, log) => ⟨.refused e, log, g⟩
  | (.ok a, log) =>
    let (answer, p) := a.provider.generate a.params
    let g := g.withProvider a.name p
    match answer with
    | .failed f => ⟨.refused (.provider f), log, g⟩
    | .brokeDown payload => ⟨.brokeDown payload, log, g⟩
    | .ok reply =>
      match a.screen.content reply.content with
      | (.delivered text, screened) =>
        ⟨.ok (.ofReply reply text r.taskType), log ++ screened, g⟩
      | (.withheld category, screened) =>
        ⟨.refused (.contentSafety (some category) outputRejected), log ++ screened, g⟩

/-- Carries out a request for a streamed generation. Once it is let through, every outcome is an
    event. -/
def stream (g : Gateway) (r : Request) : Outcome (List Event) :=
  match g.permit r with
  | (.error e, log) => ⟨.refused e, log, g⟩
  | (.ok a, log) =>
    let (answer, p) := a.provider.stream a.params
    match answer with
    | .failed f => ⟨.ok [.error f.message], log, g.withProvider a.name p⟩
    | .brokeDown _ => ⟨.ok [.error Refusal.internalMessage], log, g.withProvider a.name p⟩
    | .ok items =>
      let relayed := relay a.screen items
      ⟨.ok relayed.events, log ++ relayed.log, g.withProvider a.name (p.settle relayed.taken)⟩

end Gateway

end Gatehouse
