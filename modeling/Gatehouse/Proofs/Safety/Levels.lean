import Gatehouse.Proofs.Safety.Pipeline

/-!
# What a laxer level changes

The level of a standard pipeline is that of its classifier, and the classifier only comes to be asked
about texts that no other filter flags.

* `Level.Tighter` orders the levels, and `Level.Tighter.threshold_le` their thresholds;
* `Level.check_eq_allowed_iff`: when the classifier of a level allows a text;
* `Level.Tighter.firstFlag`: a laxer pipeline comes to the same verdict, unless the classifier of the
  tighter one blocks the text;
* `Level.Tighter.blocked`: what is blocked at a laxer level is blocked at a tighter one.
-/

namespace Gatehouse.Safety

/-! ## 1. Levels -/

/-- **The first level is tighter than the second**: strict comes before moderate, and that before
    standard. -/
inductive Level.Tighter : Level → Level → Prop where
  | strict_moderate : Tighter .strict .moderate
  | moderate_standard : Tighter .moderate .standard
  | strict_standard : Tighter .strict .standard

variable {l l' : Level}

theorem Level.Tighter.threshold_le (h : l.Tighter l') : l.threshold ≤ l'.threshold := by
  cases h <;> decide

/-! ## 2. The classifier -/

/-- **The classifier of a level allows a text if no topic reaches the threshold.** -/
theorem Level.check_eq_allowed_iff {text : String} : l.check text = .allowed ↔
    ∀ t ∈ Topic.defaults, t.score (Text.lowerChars text.toList) < l.threshold.toNat := by
  rw [Level.check_eq_iff, Classifier.check?_eq_allowed_iff]
  rfl

theorem Level.Tighter.check_eq_allowed (h : l.Tighter l') {text : String}
    (hc : l.check text = .allowed) : l'.check text = .allowed := by
  rw [Level.check_eq_allowed_iff] at hc ⊢
  intro t ht
  exact Nat.lt_of_lt_of_le (hc t ht) (UInt32.le_iff_toNat_le.1 h.threshold_le)

/-! ## 3. The pipeline -/

/-- **A laxer level comes to the same verdict**, unless the classifier of the tighter one blocks the
    text: the level makes no difference to the filters in front of the classifier. -/
theorem Level.Tighter.firstFlag (h : l.Tighter l') (d : Direction) (text : String) :
    (Pipeline.standard l').firstFlag d text = (Pipeline.standard l).firstFlag d text ∨
      ∃ f, (Pipeline.standard l).firstFlag d text = .blocked f := by
  rw [Pipeline.firstFlag_standard, Pipeline.firstFlag_standard]
  by_cases hfirewall : (Firewall.check d text).passed = true
  · by_cases hdata : (PersonalData.check d text).passed = true
    · rw [if_pos hfirewall, if_pos hdata, if_pos hfirewall, if_pos hdata]
      rcases Level.check_cases l text with hc | ⟨f, hc⟩
      · rw [hc, h.check_eq_allowed hc]
        exact .inl rfl
      · rw [hc]
        exact .inr ⟨f, rfl⟩
    · rw [if_pos hfirewall, if_neg hdata, if_pos hfirewall, if_neg hdata]
      exact .inl rfl
  · rw [if_neg hfirewall, if_neg hfirewall]
    exact .inl rfl

/-- **What is blocked at a laxer level is blocked at a tighter one**, in both directions. -/
theorem Level.Tighter.blocked (h : l.Tighter l') (text : String) :
    ((∃ f, (Pipeline.standard l').checkInput text = .blocked f) →
      ∃ f, (Pipeline.standard l).checkInput text = .blocked f) ∧
    ((∃ f, (Pipeline.standard l').checkOutput text = .blocked f) →
      ∃ f, (Pipeline.standard l).checkOutput text = .blocked f) := by
  constructor
  · intro hblocked
    rcases h.firstFlag .input text with heq | ⟨f, hf⟩
    · rwa [Pipeline.checkInput, heq] at hblocked
    · exact ⟨f, by rw [Pipeline.checkInput, hf]; rfl⟩
  · intro hblocked
    rcases h.firstFlag .output text with heq | ⟨f, hf⟩
    · rwa [Pipeline.checkOutput, heq] at hblocked
    · exact ⟨f, hf⟩

end Gatehouse.Safety
