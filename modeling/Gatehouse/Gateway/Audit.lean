import Gatehouse.Safety.Verdict

/-!
# The safety log

Every text that a check flags leaves one `SafetyEvent` in the safety log, with what was found and with
the `Scope` of the request: its task, its tenant, and the name of the safety level it ran at, as it was
given.
-/

namespace Gatehouse.Gateway

open Gatehouse.Safety

/-- What a request says about itself in every safety event. -/
structure Scope where
  taskType : Option String
  tenantId : Option String
  safetyLevel : String
  deriving DecidableEq, Repr

/-- A flagged text in the safety log. -/
structure SafetyEvent where
  direction : Direction
  action : Action
  finding : Finding
  scope : Scope
  deriving DecidableEq, Repr

/-- The entries a verdict leaves in the log: none if it allows the text, one otherwise. -/
def Scope.entries (s : Scope) (d : Direction) (v : Verdict) : List SafetyEvent :=
  match v.finding? with
  | none => []
  | some f => [⟨d, v.action, f, s⟩]

end Gatehouse.Gateway
