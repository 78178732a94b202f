import Gatehouse.Safety.Pipeline

/-!
# The filters of the standard pipeline

Each filter has one way to flag generated text: the firewall and the classifier block it, the
personal-data filter asks for a redaction. `checkOutput_standard` says which of them decides.
-/

namespace Gatehouse.Safety

/-- The firewall blocks what it flags. -/
theorem Firewall.check_cases (d : Direction) (text : String) :
    Firewall.check d text = .allowed ∨ ∃ f, Firewall.check d text = .blocked f := by
  rw [Firewall.check]
  cases Firewall.reason? d text with
  | none => exact .inl rfl
  | some reason => exact .inr ⟨_, rfl⟩

/-- Generated text that is flagged for personal data is to be redacted. -/
theorem PersonalData.check_output_cases (text : String) :
    PersonalData.check .output text = .allowed ∨
      ∃ f, PersonalData.check .output text = .redacted f := by
  rw [PersonalData.check]
  cases PersonalData.firstOccurring text PersonalData.classes with
  | none => exact .inl rfl
  | some x => exact .inr ⟨_, rfl⟩

/-- A classifier blocks what it flags, as inappropriate. -/
theorem Classifier.verdict_cases {c : Classifier} {text : String} {v : Verdict}
    (h : c.check? text = some v) : v = .allowed ∨ ∃ f, v = .blocked f ∧ f.category = .inappropriate := by
  rw [check?_eq] at h
  cases hfirst : c.firstReaching text with
  | none =>
    rw [hfirst] at h
    exact .inl (Option.some.inj h).symm
  | some t =>
    rw [hfirst] at h
    obtain ⟨n, -, rfl⟩ := Option.map_eq_some_iff.1 h
    exact .inr ⟨_, rfl, rfl⟩

theorem Level.check_cases (level : Level) (text : String) :
    level.check text = .allowed ∨ ∃ f, level.check text = .blocked f := by
  rcases Classifier.verdict_cases (Level.check_eq_iff.1 rfl) with h | ⟨f, h, -⟩
  · exact .inl h
  · exact .inr ⟨f, h⟩

theorem Level.category_of_check {level : Level} {text : String} {f : Finding}
    (h : level.check text = .blocked f) : f.category = .inappropriate := by
  rcases Classifier.verdict_cases (Level.check_eq_iff.1 h) with hallowed | ⟨g, hg, hcategory⟩
  · cases hallowed
  · rw [Verdict.blocked.inj hg]
    exact hcategory

/-- **The verdict of a standard pipeline** is that of the first filter that flags the text. -/
theorem Pipeline.firstFlag_standard (level : Level) (d : Direction) (text : String) :
    (Pipeline.standard level).firstFlag d text =
      if (Firewall.check d text).passed then
        if (PersonalData.check d text).passed then
          if (level.check text).passed then .allowed
          else level.check text
        else PersonalData.check d text
      else Firewall.check d text := rfl

theorem Pipeline.checkOutput_standard (level : Level) (text : String) :
    (Pipeline.standard level).checkOutput text =
      if (Firewall.check .output text).passed then
        if (PersonalData.check .output text).passed then
          if (level.check text).passed then .allowed
          else level.check text
        else PersonalData.check .output text
      else Firewall.check .output text := firstFlag_standard level .output text

end Gatehouse.Safety
