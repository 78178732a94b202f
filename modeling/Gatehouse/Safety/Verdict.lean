import Gatehouse.Number.Binary

/-!
# Verdicts on a text

Every check of a text ends in a `Verdict`: the text is allowed, or it is flagged with a finding and
either blocked or to be redacted.

* `Verdict.block` and `Verdict.redact` make a flagged verdict; a confidence outside [0, 1] is moved to
  the nearer end, and a missing one stays missing;
* `Verdict.toBlocked` makes every flagged verdict a block.
-/

namespace Gatehouse.Safety

open Gatehouse.Number

/-- Which way a text travels: a prompt goes in, generated text comes out. -/
inductive Direction where
  | input
  | output
  deriving DecidableEq, Repr

/-- The word for a direction. -/
def Direction.name : Direction → String
  | .input => "input"
  | .output => "output"

/-- What a text can be flagged for. -/
inductive Category where
  | injection
  | xss
  | pii
  | inappropriate
  | bias
  | offTopic
  deriving DecidableEq, Repr

/-- The word for a category. -/
def Category.name : Category → String
  | .injection => "injection"
  | .xss => "xss"
  | .pii => "pii"
  | .inappropriate => "inappropriate"
  | .bias => "bias"
  | .offTopic => "off_topic"

/-- What a verdict asks for. -/
inductive Action where
  | allowed
  | blocked
  | redacted
  deriving DecidableEq, Repr

/-- The word for an action. -/
def Action.name : Action → String
  | .allowed => "allowed"
  | .blocked => "blocked"
  | .redacted => "redacted"

/-- Certainty: the confidence of a verdict that allows a text. -/
def certain : Binary := single.ofNat false 1

/-- The confidence moved into [0, 1]. -/
def clampConfidence (x : Binary) : Binary :=
  if x.lt (single.ofNat false 0) then single.ofNat false 0
  else if certain.lt x then certain
  else x

/-- What a flagged text was flagged for. -/
structure Finding where
  category : Category
  confidence : Binary
  detail : String
  deriving DecidableEq, Repr

/-- The outcome of a check. -/
inductive Verdict where
  | allowed
  | blocked (finding : Finding)
  | redacted (finding : Finding)
  deriving DecidableEq, Repr

namespace Verdict

/-- A verdict that rejects the text. -/
def block (category : Category) (confidence : Binary) (detail : String) : Verdict :=
  .blocked ⟨category, clampConfidence confidence, detail⟩

/-- A verdict that keeps the text once its sensitive parts are replaced. -/
def redact (category : Category) (confidence : Binary) (detail : String) : Verdict :=
  .redacted ⟨category, clampConfidence confidence, detail⟩

/-- Was the text allowed? -/
def passed : Verdict → Bool
  | .allowed => true
  | _ => false

/-- What the verdict asks for. -/
def action : Verdict → Action
  | .allowed => .allowed
  | .blocked _ => .blocked
  | .redacted _ => .redacted

/-- What the text was flagged for, if it was. -/
def finding? : Verdict → Option Finding
  | .allowed => none
  | .blocked f => some f
  | .redacted f => some f

/-- The category the text was flagged with, if it was. -/
def category? (v : Verdict) : Option Category := v.finding?.map Finding.category

/-- How sure the check is. -/
def confidence (v : Verdict) : Binary := (v.finding?.map Finding.confidence).getD certain

/-- What the check has to say. -/
def detail (v : Verdict) : String :=
  (v.finding?.map Finding.detail).getD "Content passed all safety checks"

/-- Is the text to be kept with its sensitive parts replaced? -/
def isRedaction (v : Verdict) : Bool := !v.passed && v.action == .redacted

/-- The same finding, as a block; an allowing verdict stays. -/
def toBlocked : Verdict → Verdict
  | .allowed => .allowed
  | .blocked f => .blocked f
  | .redacted f => .blocked f

@[simp] theorem passed_toBlocked (v : Verdict) : v.toBlocked.passed = v.passed := by
  cases v <;> rfl

@[simp] theorem finding?_toBlocked (v : Verdict) : v.toBlocked.finding? = v.finding? := by
  cases v <;> rfl

end Verdict

end Gatehouse.Safety
