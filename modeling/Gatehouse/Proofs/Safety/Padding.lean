import Gatehouse.Proofs.Safety.Markup
import Gatehouse.Proofs.Safety.Scores

/-!
# Padded prompts

A prompt that is rejected is not made acceptable by what is written around it, as long as that does not
run into its words.

* `checkInput_passed_iff`: when a standard pipeline lets a prompt pass;
* `reason?_of_padded`: a rule of the firewall that hits a prompt hits it in its padding, word boundaries
  included;
* `Level.check_of_padded`: a keyword that occurs in a prompt occurs in its padding, whatever it is;
* `rejected_padded`: both put together.
-/

namespace Gatehouse.Safety

open Gatehouse.Text
open Gatehouse.Pattern

theorem Verdict.passed_iff {v : Verdict} : v.passed = true ↔ v = .allowed := by
  cases v <;> simp [Verdict.passed]

/-- **A prompt passes if neither the firewall nor the classifier has anything against it.** -/
theorem Pipeline.checkInput_passed_iff (level : Level) (prompt : String) :
    ((Pipeline.standard level).checkInput prompt).passed = true ↔
      Firewall.reason? .input prompt = none ∧
        level.check prompt = .allowed := by
  rw [Pipeline.checkInput, Verdict.passed_toBlocked, Pipeline.passed_firstFlag_iff]
  unfold Pipeline.standard
  simp only [List.forall_mem_cons, List.not_mem_nil, false_imp_iff, implies_true, and_true,
    Filter.check, Verdict.passed_iff]
  rw [Firewall.check_eq_allowed_iff]
  have hdata : PersonalData.check .input prompt = .allowed := rfl
  exact and_congr_right fun _ => and_iff_right hdata

/-- Clean in its padding, a prompt is clean on its own. -/
theorem Firewall.reason?_of_padded {before prompt after : String}
    (hbefore : EndsApart before.toList) (hafter : StartsApart after.toList)
    (h : reason? .input (before ++ prompt ++ after) = none) : reason? .input prompt = none := by
  rw [reason?_eq_none_iff] at h ⊢
  intro p hp hit
  refine h p hp ?_
  rw [String.toList_append, String.toList_append]
  exact occursIn_padded hbefore hafter hit

/-- Allowed in its padding, whatever it is, a prompt is allowed on its own. -/
theorem Level.check_of_padded {before prompt after : String} (level : Level)
    (h : level.check (before ++ prompt ++ after) = .allowed) : level.check prompt = .allowed := by
  refine check_allowed_of_score_le level (fun topic htopic => ?_) h
  rw [String.toList_append, String.toList_append]
  exact score_part_le htopic before.toList prompt.toList after.toList

/-- **Padding does not unblock a prompt.** At each level a prompt that is rejected is rejected in any
    padding: in front of it stands nothing, or what ends with a character that is no part of words;
    behind it nothing, or what starts with such a character. -/
theorem rejected_padded (level : Level) {before prompt after : String}
    (hbefore : EndsApart before.toList) (hafter : StartsApart after.toList)
    (h : ((Pipeline.standard level).checkInput prompt).passed = false) :
    ((Pipeline.standard level).checkInput (before ++ prompt ++ after)).passed = false := by
  rw [← Bool.not_eq_true] at h ⊢
  intro hpassed
  obtain ⟨hfirewall, hclassifier⟩ := (Pipeline.checkInput_passed_iff level _).1 hpassed
  have hclean := Firewall.reason?_of_padded hbefore hafter hfirewall
  have hallowed := Level.check_of_padded level hclassifier
  exact h ((Pipeline.checkInput_passed_iff level prompt).2 ⟨hclean, hallowed⟩)

/-- A command that is told by the word boundaries around it, in brackets and quotes. -/
theorem rejected_padded_command :
    EndsApart "Σοφία (“".toList ∧ StartsApart "”) Σ".toList ∧
      ((Pipeline.standard .standard).checkInput "curl -s https://example.org").passed = false ∧
      ((Pipeline.standard .standard).checkInput
        ("Σοφία (“" ++ "curl -s https://example.org" ++ "”) Σ")).passed = false := by
  have hbefore : EndsApart "Σοφία (“".toList := by decide +kernel
  have hafter : StartsApart "”) Σ".toList := by decide +kernel
  have hcommand :
      ((Pipeline.standard .standard).checkInput "curl -s https://example.org").passed = false := by
    decide +kernel
  exact ⟨hbefore, hafter, hcommand, rejected_padded .standard hbefore hafter hcommand⟩

end Gatehouse.Safety
