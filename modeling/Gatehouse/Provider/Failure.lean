import Gatehouse.Text.Blank

/-!
# Failures of providers

A failure names the provider and carries a message and a status. The messages call the provider by its
*label*, the name people know it by.
-/

namespace Gatehouse.Provider

/-- A failure on the provider's side. -/
structure Failure where
  message : String
  provider : String
  status : UInt16
  deriving DecidableEq, Repr

namespace Failure

/-- The status of a failure that has no more specific one. -/
def badGateway : UInt16 := 502

/-- A failure with the usual status. -/
def ofMessage (provider message : String) : Failure := ⟨message, provider, badGateway⟩

/-- No credentials were ever configured. -/
def notConfigured (provider label : String) : Failure :=
  ⟨label ++ " API key is not configured", provider, 500⟩

/-- The provider has been closed. -/
def closed (provider label : String) : Failure := ⟨label ++ " provider is closed", provider, 503⟩

/-- The provider's server answered with a status that is no success: the status, and the first 500
    characters of what it said. -/
def badStatus (provider label : String) (status : UInt16) (body : String) : Failure :=
  ⟨Text.trimRight (label ++ " API error: " ++ toString status.toNat ++ " " ++
    String.ofList (body.toList.take 500)), provider, status⟩

/-- The request did not get through. -/
def notSent (provider label : String) : Failure := ofMessage provider (label ++ " request failed")

/-- The request took too long. -/
def timedOut (provider label : String) : Failure :=
  ofMessage provider (label ++ " request timed out")

/-- The answer was not what the interface promises. -/
def malformed (provider label : String) : Failure :=
  ofMessage provider (label ++ " returned a malformed response: error decoding response body")

end Failure

end Gatehouse.Provider
