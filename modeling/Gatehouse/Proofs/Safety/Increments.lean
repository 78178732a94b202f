import Gatehouse.Proofs.Safety.Handlers
import Gatehouse.Proofs.Safety.Padding

/-!
# Increments of a generated text

Generated text that comes in increments is checked increment by increment, each on its own. Nothing is
lost by it: an increment that is blocked would have kept the whole text from passing.

* `Pipeline.blocker_of_checkOutput`: what a standard pipeline blocks the firewall flags or the classifier
  blocks;
* `not_passed_of_blocked_increment`: each of the two finds in the whole text what it has found in a part
  of it. The whole text may yet get another verdict, since personal data that runs from one increment
  into the next is in no increment, and comes before the keywords.
-/

namespace Gatehouse.Safety

open Firewall (Flags flags_of_part)

/-- **Who blocks generated text.** Personal data is no reason to. -/
theorem Pipeline.blocker_of_checkOutput {level : Level} {text : String} {f : Finding}
    (h : (standard level).checkOutput text = .blocked f) :
    Flags text ∨ level.check text = .blocked f := by
  rw [checkOutput_standard] at h
  by_cases hclean : Firewall.reason? .output text = none
  · rw [Firewall.check_eq_allowed_iff.2 hclean] at h
    rcases PersonalData.check_output_cases text with hdata | ⟨g, hdata⟩
    · rw [hdata] at h
      rcases level.check_cases text with hc | ⟨g, hc⟩
      · rw [hc] at h
        cases h
      · rw [hc] at h ⊢
        exact .inr h
    · rw [hdata] at h
      cases h
  · exact .inl hclean

/-- What the classifier does not allow does not pass, whoever decides. -/
theorem Pipeline.not_passed_of_classifier {level : Level} {text : String}
    (h : level.check text ≠ .allowed) :
    ((standard level).checkOutput text).passed = false := by
  rw [← Bool.not_eq_true, checkOutput, passed_firstFlag_iff]
  intro hall
  have hpassed := hall (.classifier (.ofLevel level) (Classifier.sound_ofLevel level))
    (by simp [standard])
  exact h (Verdict.passed_iff.1 hpassed)

/-- Each increment is a part of the text that all of them make up. -/
theorem exists_join_eq {increments : List String} {text : String} (h : text ∈ increments) :
    ∃ before after, String.join increments = before ++ text ++ after := by
  obtain ⟨us, vs, rfl⟩ := List.append_of_mem h
  refine ⟨String.join us, String.join vs, ?_⟩
  rw [String.join_append, String.join_cons, String.append_assoc]

/-- **A blocked increment keeps the whole text from passing**, at each level and wherever it stands. If
    it is blocked as markup the whole text is blocked with the same finding. -/
theorem not_passed_of_blocked_increment (level : Level) {increments : List String} {text : String}
    (hmem : text ∈ increments) {f : Finding}
    (h : (Pipeline.standard level).checkOutput text = .blocked f) :
    ((Pipeline.standard level).checkOutput (String.join increments)).passed = false ∧
      (f.category = .xss →
        (Pipeline.standard level).checkOutput (String.join increments) = .blocked f) := by
  obtain ⟨before, after, hwhole⟩ := exists_join_eq hmem
  rw [hwhole]
  rcases Pipeline.blocker_of_checkOutput h with hflags | hkeywords
  · -- the firewall is the first filter, and has one finding for all texts
    have hmarkup := (checkOutput_eq_markup_iff level _).2 (flags_of_part hflags before after)
    have hown := (checkOutput_eq_markup_iff level text).2 hflags
    rw [hmarkup]
    exact ⟨rfl, fun _ => hown.symm.trans h⟩
  · refine ⟨Pipeline.not_passed_of_classifier fun hallowed => ?_, fun hmarkup => ?_⟩
    · have hpart := level.check_of_padded hallowed
      rw [hkeywords] at hpart
      cases hpart
    · have hcategory := Level.category_of_check hkeywords
      rw [hmarkup] at hcategory
      cases hcategory

/-- Three increments, the second of them with markup in it and with a mail address that goes on in the
    third one. -/
def scriptInSecond : List String := ["Write ", "<script>x</script> to a@", "b.io"]

theorem not_passed_of_blocked_increment_script :
    "<script>x</script> to a@" ∈ scriptInSecond ∧
      (Pipeline.standard .standard).checkOutput "<script>x</script> to a@" =
        .block .xss Firewall.hitConfidence (Firewall.reason .output) ∧
      ((Pipeline.standard .standard).checkOutput (String.join scriptInSecond)).passed = false ∧
      (Pipeline.standard .standard).checkOutput (String.join scriptInSecond) =
        .block .xss Firewall.hitConfidence (Firewall.reason .output) := by
  have hmem : "<script>x</script> to a@" ∈ scriptInSecond := by
    simp [scriptInSecond]
  have hblocked : (Pipeline.standard .standard).checkOutput "<script>x</script> to a@" =
      .block .xss Firewall.hitConfidence (Firewall.reason .output) := by
    decide +kernel
  obtain ⟨hwhole, hmarkup⟩ := not_passed_of_blocked_increment .standard hmem hblocked
  exact ⟨hmem, hblocked, hwhole, hmarkup rfl⟩

end Gatehouse.Safety
