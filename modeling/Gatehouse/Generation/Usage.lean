import Gatehouse.Json.Value

/-!
# Token usage

* `Usage` counts the tokens of a prompt, of what was generated for it, and of both;
* `Usage.ofParts` adds the parts up, and stops at the largest 32-bit number.
-/

namespace Gatehouse.Generation

/-- The tokens spent on one generation. -/
structure Usage where
  prompt : UInt32
  completion : UInt32
  total : UInt32
  deriving DecidableEq, Repr

namespace Usage

/-- No tokens. -/
def zero : Usage := ⟨0, 0, 0⟩

/-- The sum of two counts, at most the largest 32-bit number. -/
def saturatingAdd (a b : UInt32) : UInt32 := UInt32.ofNat (min (a.toNat + b.toNat) (UInt32.size - 1))

/-- The usage of which the parts are known. -/
def ofParts (prompt completion : UInt32) : Usage :=
  ⟨prompt, completion, saturatingAdd prompt completion⟩

/-- The usage as JSON. -/
def toJson (u : Usage) : Json.Value :=
  .object [("prompt_tokens", .natural u.prompt.toNat),
    ("completion_tokens", .natural u.completion.toNat), ("total_tokens", .natural u.total.toNat)]

/-- **The total is the sum of the parts, as far as it fits into 32 bits.** -/
theorem total_ofParts (p c : UInt32) :
    (ofParts p c).total.toNat = min (p.toNat + c.toNat) (UInt32.size - 1) := by
  simp only [ofParts, saturatingAdd, UInt32.toNat_ofNat', UInt32.size]
  omega

end Usage

end Gatehouse.Generation
