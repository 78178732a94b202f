import Gatehouse.Safety.Classifier
import Gatehouse.Safety.Firewall
import Gatehouse.Safety.PersonalData

/-!
# The safety pipeline

A pipeline is a list of filters. The first of them that flags a text decides.

* `Pipeline.checkInput`: a flagged prompt is blocked, whatever its filter asked for;
* `Pipeline.checkOutput`: generated text gets the verdict as it is, so that personal data is redacted
  and everything else rejected;
* `Pipeline.standard`: the firewall, the personal-data filter and the classifier of a level.
-/

namespace Gatehouse.Safety

/-- A filter of a pipeline. A classifier of which a check may break down is none. -/
inductive Filter where
  | firewall
  | personalData
  | classifier (classifier : Classifier) (sound : classifier.Sound)

/-- The name of a filter. -/
def Filter.name : Filter → String
  | .firewall => "pattern_firewall"
  | .personalData => "pii_filter"
  | .classifier _ _ => "content_classifier"

/-- The verdict of a filter on a text. -/
def Filter.check (d : Direction) (text : String) : Filter → Verdict
  | .firewall => Firewall.check d text
  | .personalData => PersonalData.check d text
  | .classifier c sound => (c.check? text).get (sound text)

/-- A list of filters, earlier ones first. -/
abbrev Pipeline := List Filter

namespace Pipeline

/-- The pipeline every request goes through at a level. -/
def standard (level : Level) : Pipeline :=
  [.firewall, .personalData, .classifier (.ofLevel level) (Classifier.sound_ofLevel level)]

/-- The verdict of the first filter that flags the text; an allowing one if none does. -/
def firstFlag (d : Direction) (text : String) : Pipeline → Verdict
  | [] => .allowed
  | f :: fs =>
    let v := f.check d text
    if v.passed then firstFlag d text fs else v

/-- The verdict on a prompt. -/
def checkInput (p : Pipeline) (text : String) : Verdict := (p.firstFlag .input text).toBlocked

/-- The verdict on generated text. -/
def checkOutput (p : Pipeline) (text : String) : Verdict := p.firstFlag .output text

/-- **A pipeline passes a text exactly if each of its filters does.** -/
theorem passed_firstFlag_iff (p : Pipeline) (d : Direction) (text : String) :
    (p.firstFlag d text).passed = true ↔ ∀ f ∈ p, (f.check d text).passed = true := by
  induction p with
  | nil => simp [firstFlag, Verdict.passed]
  | cons f fs ih =>
    by_cases h : (f.check d text).passed = true
    · simp [firstFlag, h, ih]
    · simp [firstFlag, h]

end Pipeline

end Gatehouse.Safety
