import Gatehouse.Json.Shape
import Gatehouse.Json.Value
import Gatehouse.Text.Blank

/-!
# Generation requests

* `Request` is what a caller asks for, `Request.shape` reads it from JSON and `Request.toJson` writes
  it;
* `Request.fault?` is the first reason not to let a request through to any provider;
* `Params` is what is passed on to the provider.
-/

namespace Gatehouse.Generation

open Gatehouse.Number Gatehouse.Text

/-- What a caller says about itself. -/
structure Context where
  tenantId : Option String
  safetyLevel : Option String
  deriving DecidableEq, Repr

/-- A request to generate text. -/
structure Request where
  provider : String
  model : String
  prompt : String
  temperature : Binary
  maxTokens : UInt32
  systemPrompt : Option String
  taskType : Option String
  context : Option Context
  deriving DecidableEq, Repr

/-- What a provider is called with. -/
structure Params where
  prompt : String
  model : String
  temperature : Binary
  maxTokens : UInt32
  systemPrompt : Option String
  deriving DecidableEq, Repr

namespace Request

/-- The tenant the caller names, if it names one. -/
def tenantId (r : Request) : Option String := r.context.bind Context.tenantId

/-- The safety level the caller names, if it names one. -/
def safetyLevel (r : Request) : Option String := r.context.bind Context.safetyLevel

/-- The parameters of the call, with the system prompt that was decided on. -/
def params (r : Request) (systemPrompt : Option String) : Params :=
  ⟨r.prompt, r.model, r.temperature, r.maxTokens, systemPrompt⟩

/-! ## 1. Requests that must not reach a provider -/

/-- What is wrong with a request. -/
inductive Fault where
  | blankProvider
  | blankModel
  | blankPrompt
  | temperatureOutOfRange (temperature : Binary)
  | noTokens
  deriving DecidableEq, Repr

/-- The words for what is wrong with a request. -/
def Fault.message : Fault → String
  | .blankProvider => "provider must not be empty"
  | .blankModel => "model must not be empty"
  | .blankPrompt => "prompt must not be empty"
  | .temperatureOutOfRange t =>
    "temperature must be between 0.0 and 2.0, got " ++ plain.text single t
  | .noTokens => "max_tokens must be at least 1"

/-- Does the temperature lie between 0 and 2, ends included? -/
def temperatureInRange (t : Binary) : Bool :=
  t.isFinite && !t.lt (single.ofNat false 0) && !(single.ofNat false 2).lt t

/-- The first reason not to let the request through, if there is one. -/
def fault? (r : Request) : Option Fault :=
  if isBlankText r.provider then some .blankProvider
  else if isBlankText r.model then some .blankModel
  else if isBlankText r.prompt then some .blankPrompt
  else if !temperatureInRange r.temperature then some (.temperatureOutOfRange r.temperature)
  else if r.maxTokens == 0 then some .noTokens
  else none

/-! ## 2. JSON -/

/-- The temperature of a request that names none. -/
def defaultTemperature : Binary := single.round false 7 10

/-- The token limit of a request that names none. -/
def defaultMaxTokens : UInt32 := 2048

/-- The caller's context, as a record. -/
def contextRecord : Json.Record Context Context where
  name := "RequestContext"
  fields := [
    ⟨"tenant_id", true, fun t c => do return { c with tenantId := ← Json.optional Json.string t }⟩,
    ⟨"safety_level", true, fun t c => do return { c with safetyLevel := ← Json.optional Json.string t }⟩]
  start := ⟨none, none⟩
  finish := .ok

/-- A request whose members are being read. -/
structure Draft where
  provider : Option String
  model : Option String
  prompt : Option String
  temperature : Binary
  maxTokens : UInt32
  systemPrompt : Option String
  taskType : Option String
  context : Option Context

/-- The request of a draft, or the first field that is missing from it. -/
def Draft.finish (d : Draft) : Except String Request :=
  match d.provider, d.model, d.prompt with
  | none, _, _ => .error "provider"
  | _, none, _ => .error "model"
  | _, _, none => .error "prompt"
  | some provider, some model, some prompt =>
    .ok ⟨provider, model, prompt, d.temperature, d.maxTokens, d.systemPrompt, d.taskType, d.context⟩

/-- A request, as a record. -/
def record : Json.Record Draft Request where
  name := "GenerateRequest"
  fields := [
    ⟨"provider", false, fun t d => do return { d with provider := some (← Json.string t) }⟩,
    ⟨"model", false, fun t d => do return { d with model := some (← Json.string t) }⟩,
    ⟨"prompt", false, fun t d => do return { d with prompt := some (← Json.string t) }⟩,
    ⟨"temperature", true, fun t d => do return { d with temperature := ← Json.singleNumber t }⟩,
    ⟨"max_tokens", true, fun t d => do return { d with maxTokens := ← Json.word32 t }⟩,
    ⟨"system_prompt", true, fun t d => do
      return { d with systemPrompt := ← Json.optional Json.string t }⟩,
    ⟨"task_type", true, fun t d => do return { d with taskType := ← Json.optional Json.string t }⟩,
    ⟨"context", true, fun t d => do
      return { d with context := ← Json.optional contextRecord.shape t }⟩]
  start := ⟨none, none, none, defaultTemperature, defaultMaxTokens, none, none, none⟩
  finish := Draft.finish

/-- Reads a request. -/
def shape : Json.Shape Request := record.shape

/-- The context as JSON. -/
def contextJson (c : Context) : Json.Value :=
  .object [("tenant_id", .ofString? c.tenantId), ("safety_level", .ofString? c.safetyLevel)]

/-- The request as JSON, with every field. -/
def toJson (r : Request) : Json.Value :=
  .object [("provider", .string r.provider), ("model", .string r.model),
    ("prompt", .string r.prompt), ("temperature", .real r.temperature),
    ("max_tokens", .natural r.maxTokens.toNat), ("system_prompt", .ofString? r.systemPrompt),
    ("task_type", .ofString? r.taskType), ("context", (r.context.map contextJson).getD .null)]

end Request

end Gatehouse.Generation
