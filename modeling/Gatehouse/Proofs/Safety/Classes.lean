import Gatehouse.Proofs.Pattern.Filling
import Gatehouse.Proofs.Text.Ranges
import Gatehouse.Safety.PersonalData

/-!
# The classes of personal data

What the four classes have in common, and what one replacement does to a text:

* `exists_kept_of_redactClass`: a word of any class that stands in a redacted text was kept there;
* `check_output_eq_allowed_iff` and `redact_eq_self_iff`: a text passes, and redacting keeps it,
  exactly if no class occurs in it.
-/

namespace Gatehouse.Safety.PersonalData

open Gatehouse.Text
open Gatehouse.Pattern

/-! ## 1. Patterns and placeholders -/

theorem takes_pattern (c : PersonalData) : c.pattern.needsBeyond [] = true := by
  cases c <;> decide +kernel

theorem avoids_open (c : PersonalData) : c.pattern.avoids '[' = true := by
  cases c <;> decide +kernel

theorem avoids_close (c : PersonalData) : c.pattern.avoids ']' = true := by
  cases c <;> decide +kernel

theorem bracketed_placeholder (c : PersonalData) : Bracketed c.placeholder.toList := by
  cases c <;> exact ⟨by rfl, by rfl⟩

/-- No class can be read from placeholders alone. -/
theorem needsBeyond_placeholder (c d : PersonalData) :
    c.pattern.needsBeyond d.placeholder.toList = true := by
  cases c <;> cases d <;> decide +kernel

theorem cut_pattern (c : PersonalData) (text : List Char) :
    c.pattern.Cut none (c.pattern.segments text) :=
  cut_segments c.takes_pattern text

theorem redactClass_eq (c : PersonalData) (text : List Char) :
    redactClass c text = filled c.placeholder.toList (c.pattern.segments text) := rfl

/-- What is read in a redacted text was kept there. -/
theorem exists_kept_of_redactClass {c d : PersonalData} {text l w r : List Char} {b : Option Char}
    (h : redactClass d text = l ++ (w ++ r)) (hr : c.pattern.Reads b w r) :
    ∃ s t, d.pattern.segments text = s ++ w.map .kept ++ t ∧
      filled d.placeholder.toList s = l ∧ filled d.placeholder.toList t = r :=
  hr.exists_kept d.bracketed_placeholder c.avoids_open c.avoids_close (needsBeyond_placeholder c d) h

/-! ## 2. Texts without personal data -/

theorem toList_redact (text : String) : (redact text).toList =
    redactClass .studentId (redactClass .ssn (redactClass .phone (redactClass .email text.toList))) :=
  String.toList_ofList

theorem occurrences_eq_zero_iff (text : String) (c : PersonalData) :
    occurrences text c = 0 ↔ c.pattern.occursIn text.toList = false :=
  count_eq_zero_iff c.takes_pattern

theorem firstOccurring_eq_none_iff (text : String) (cs : List PersonalData) :
    firstOccurring text cs = none ↔ ∀ c ∈ cs, occurrences text c = 0 := by
  induction cs with
  | nil => simp [firstOccurring]
  | cons c cs ih =>
    rw [firstOccurring, List.forall_mem_cons]
    cases h : occurrences text c with
    | zero => exact ih.trans (and_iff_right rfl).symm
    | succ n => simp

theorem mem_classes (c : PersonalData) : c ∈ classes := by
  cases c <;> decide

/-- **Generated text passes exactly if no class occurs in it.** -/
theorem check_output_eq_allowed_iff (text : String) :
    check .output text = .allowed ↔ ∀ c, occurrences text c = 0 := by
  have h : (∀ c ∈ classes, occurrences text c = 0) ↔ ∀ c, occurrences text c = 0 :=
    ⟨fun h c => h c (mem_classes c), fun h c _ => h c⟩
  rw [← h, ← firstOccurring_eq_none_iff, check]
  cases firstOccurring text classes <;> simp [Verdict.redact]

/-- Each replacement brings one opening bracket into the text, and takes none out of it. -/
theorem count_open_redactClass (c : PersonalData) (text : List Char) :
    (redactClass c text).count '[' = text.count '[' + c.pattern.count text := by
  have h := (c.cut_pattern text).count_filled (f := c.placeholder.toList) c.avoids_open
  rw [plain_segments] at h
  rw [redactClass_eq, h, count_eq]
  cases c <;> exact congrArg _ (Nat.mul_one _)

theorem redactClass_eq_self {c : PersonalData} {text : List Char} (h : c.pattern.count text = 0) :
    redactClass c text = text :=
  replaceAll_eq_self h

/-- **Redacting keeps a text exactly if no class occurs in it.** -/
theorem redact_eq_self_iff (text : String) :
    redact text = text ↔ ∀ c, occurrences text c = 0 := by
  constructor
  · intro h
    have hlist := congrArg String.toList h
    rw [toList_redact] at hlist
    -- opening brackets are only added, so that none of the four steps can have added one
    have hcount := congrArg (List.count '[') hlist
    simp only [count_open_redactClass] at hcount
    have h₁ : email.pattern.count text.toList = 0 := by omega
    have e₁ := redactClass_eq_self h₁
    rw [e₁] at hcount
    have h₂ : phone.pattern.count text.toList = 0 := by omega
    have e₂ := redactClass_eq_self h₂
    rw [e₂] at hcount
    have h₃ : ssn.pattern.count text.toList = 0 := by omega
    have e₃ := redactClass_eq_self h₃
    rw [e₃] at hcount
    have h₄ : studentId.pattern.count text.toList = 0 := by omega
    intro c
    cases c
    · exact h₁
    · exact h₂
    · exact h₃
    · exact h₄
  · intro h
    refine String.toList_inj.1 ?_
    rw [toList_redact, redactClass_eq_self (h .email), redactClass_eq_self (h .phone),
      redactClass_eq_self (h .ssn), redactClass_eq_self (h .studentId)]

end Gatehouse.Safety.PersonalData
