import Gatehouse.Http.Response
import Gatehouse.Provider.Registry
import Gatehouse.Safety.Verdict

/-!
# Refusals

A `Refusal` says why the gateway did not do what it was asked for, and `Refusal.response` what the
caller is told. Faults of the gateway itself are told without any detail.
-/

namespace Gatehouse.Gateway

open Gatehouse.Safety
open Gatehouse.Provider (Failure)

/-- Why a request was not carried out. -/
inductive Refusal where
  /-- The safety pipeline rejected the prompt or what was generated for it. -/
  | contentSafety (category : Option Category) (detail : String)
  | unknownProvider (message : String)
  | validation (message : String)
  | provider (failure : Failure)
  | unauthorized (message : String)
  | config (message : String)
  | internal (message : String)
  deriving DecidableEq, Repr

namespace Refusal

/-- The word for the kind of a refusal. -/
def kind : Refusal → String
  | .contentSafety .. => "content_safety"
  | .unknownProvider _ => "unknown_provider"
  | .validation _ => "validation"
  | .provider _ => "provider"
  | .unauthorized _ => "unauthorized"
  | .config _ => "config"
  | .internal _ => "internal"

/-- What is written about a refusal where the gateway's own people read it. -/
def message : Refusal → String
  | .contentSafety _ detail => "Content safety rejection: " ++ detail
  | .unknownProvider m => m
  | .validation m => "Validation failed: " ++ m
  | .provider f => f.message
  | .unauthorized m => "Unauthorized: " ++ m
  | .config m => "Configuration error: " ++ m
  | .internal m => "Internal error: " ++ m

/-- A failed look-up or registration, as a refusal. -/
def ofRegistryError : Provider.RegistryError → Refusal
  | .notRegistered name => .unknownProvider (Provider.RegistryError.notRegistered name).message
  | .alreadyRegistered name => .config (Provider.RegistryError.alreadyRegistered name).message

/-- All that a caller is told about a fault of the gateway itself. -/
def internalMessage : String := "An internal error occurred"

/-- The body of a response to a refused request. -/
def errorBody (message code : String) (details : Option String) : Json.Value :=
  .object ([("error", .string message), ("code", .string code)] ++
    (match details with
      | none => []
      | some d => [("details", .string d)]))

/-- The status a provider's failure is passed on with: its own if it says error, the one of a bad
    gateway otherwise. -/
def failureStatus (status : UInt16) : Nat :=
  if 400 ≤ status ∧ status < 600 then status.toNat else 502

/-- **What the caller is told.** -/
def response : Refusal → Http.Response
  | .contentSafety category detail =>
    .json 422 (.object [("error", .string "content_safety"),
      ("category", .ofString? (category.map Category.name)), ("detail", .string detail)])
  | .unknownProvider m => .json 400 (errorBody m "UNKNOWN_PROVIDER" none)
  | .validation m => .json 422 (errorBody m "VALIDATION_ERROR" none)
  | .provider f => .json (failureStatus f.status) (errorBody f.message "PROVIDER_ERROR" (some f.provider))
  | .unauthorized m => .json 401 (errorBody m "UNAUTHORIZED" none)
  | .config _ => .json 500 (errorBody "Configuration error" "CONFIG_ERROR" none)
  | .internal _ => .json 500 (errorBody internalMessage "INTERNAL_ERROR" none)

end Refusal

end Gatehouse.Gateway
