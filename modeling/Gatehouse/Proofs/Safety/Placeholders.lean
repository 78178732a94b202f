import Gatehouse.Proofs.Pattern.Boxes
import Gatehouse.Proofs.Safety.Classes

/-!
# Counting placeholders

The check names a class and a number; a redaction leaves placeholders. The two can be compared, since
placeholders are boxes that no class is read in:

* `description_inj`: the class and the number can be read back from what the check says;
* `placeholders_redactClass`: replacing a class adds its placeholder once for each occurrence, and leaves
  all other placeholders as many as they were;
* `check_agrees_with_redact`: a text passes exactly if redacting keeps it, and otherwise the number in
  the finding is that of the placeholders that come in.
-/

namespace Gatehouse.Safety.PersonalData

open Gatehouse.Text
open Gatehouse.Pattern

/-! ## 1. What a finding says -/

theorem toList_description (c : PersonalData) (n : Nat) : ∃ rest,
    (description c n).toList =
      "PII detected: ".toList ++ (c.name.toList ++ ' ' :: '(' :: (Nat.toDigits 10 n ++ ' ' :: rest)) := by
  unfold description
  split
  · exact ⟨"match)".toList, by simp⟩
  · exact ⟨"matches)".toList, by simp⟩

theorem name_inj {c c' : PersonalData} (h : c.name.toList = c'.name.toList) : c = c' := by
  revert h
  cases c <;> cases c' <;> decide

theorem blank_not_mem_name (c : PersonalData) : ' ' ∉ c.name.toList := by
  cases c <;> decide

theorem blank_not_mem_digits (n : Nat) : ' ' ∉ Nat.toDigits 10 n := by
  intro h
  have hdigit := Nat.isDigit_of_mem_toDigits (by decide) (by decide) h
  exact absurd hdigit (by decide)

/-- **A finding tells its class and its number.** -/
theorem description_inj {c c' : PersonalData} {n n' : Nat}
    (h : description c n = description c' n') : c = c' ∧ n = n' := by
  obtain ⟨rest, hl⟩ := toList_description c n
  obtain ⟨rest', hl'⟩ := toList_description c' n'
  have heq := congrArg String.toList h
  rw [hl, hl'] at heq
  have htail := List.append_cancel_left heq
  obtain ⟨hname, htail⟩ := append_first_inj (blank_not_mem_name c) (blank_not_mem_name c') htail
  obtain ⟨hdigits, -⟩ := append_first_inj (blank_not_mem_digits n) (blank_not_mem_digits n')
    (List.cons.inj htail).2
  have hn := congrArg (fun ds => Nat.ofDigitChars 10 ds 0) hdigits
  simp only [Nat.ofDigitChars_ten_toDigits] at hn
  exact ⟨name_inj hname, hn⟩

/-! ## 2. Placeholders -/

theorem boxed_placeholder (c : PersonalData) : Boxed c.placeholder.toList := by
  cases c
  · exact ⟨"REDACTED EMAIL".toList, rfl, by decide, by decide⟩
  · exact ⟨"REDACTED PHONE".toList, rfl, by decide, by decide⟩
  · exact ⟨"REDACTED SSN".toList, rfl, by decide, by decide⟩
  · exact ⟨"REDACTED STUDENT_ID".toList, rfl, by decide, by decide⟩

theorem placeholder_inj {c d : PersonalData} (h : c.placeholder.toList = d.placeholder.toList) :
    c = d := by
  revert h
  cases c <;> cases d <;> decide

/-- How often the placeholder of the class stands in the text. -/
def placeholders (c : PersonalData) (text : List Char) : Nat := timesIn c.placeholder.toList text

/-- **Replacing a class adds its placeholder once for each occurrence**, and leaves all other
    placeholders as many as they were. -/
theorem placeholders_redactClass (c d : PersonalData) (text : List Char) :
    placeholders c (redactClass d text) =
      placeholders c text + if c = d then d.pattern.count text else 0 := by
  have h := (d.cut_pattern text).timesIn_filled c.boxed_placeholder d.boxed_placeholder d.avoids_open
    d.avoids_close (needsBeyond_placeholder d c)
  have hiff : c.placeholder.toList = d.placeholder.toList ↔ c = d := ⟨placeholder_inj, fun h => h ▸ rfl⟩
  rw [plain_segments, if_congr hiff rfl rfl, ← count_eq] at h
  exact h

/-- Replacing other classes leaves the placeholders of a class as many as they were. -/
theorem placeholders_of_not_mem {c : PersonalData} {cs : List PersonalData} (hc : c ∉ cs)
    (text : List Char) :
    placeholders c (cs.foldl (fun t d => redactClass d t) text) = placeholders c text := by
  induction cs generalizing text with
  | nil => rfl
  | cons d cs ih =>
    rw [List.mem_cons, not_or] at hc
    rw [List.foldl_cons, ih hc.2, placeholders_redactClass, if_neg hc.1, Nat.add_zero]

/-! ## 3. The class that is named -/

/-- **A class that is named first adds its placeholders once for each occurrence**: what is replaced in
    front of it is not there, and what is replaced behind it are other classes. -/
theorem placeholders_of_firstOccurring {text : String} {cs : List PersonalData} (hcs : cs.Nodup)
    {c : PersonalData} {n : Nat} (h : firstOccurring text cs = some (c, n)) :
    placeholders c (cs.foldl (fun t d => redactClass d t) text.toList) =
      placeholders c text.toList + n := by
  induction cs with
  | nil => cases h
  | cons d cs ih =>
    obtain ⟨hd, hcs⟩ := List.nodup_cons.1 hcs
    rw [firstOccurring] at h
    rw [List.foldl_cons]
    cases hcount : occurrences text d with
    | zero =>
      rw [hcount] at h
      have hsame : redactClass d text.toList = text.toList := redactClass_eq_self hcount
      rw [hsame]
      exact ih hcs h
    | succ m =>
      rw [hcount] at h
      obtain ⟨rfl, rfl⟩ := Prod.mk.inj (Option.some.inj h)
      have hadded := placeholders_redactClass d d text.toList
      have hfound : d.pattern.count text.toList = m + 1 := hcount
      rw [placeholders_of_not_mem hd, hadded, if_pos rfl, hfound]

/-- What is said about a text: that it passes, or the class that occurs in it first and how often. -/
theorem detail_check_output (text : String) : (check .output text).detail =
    match firstOccurring text classes with
    | none => "Content passed all safety checks"
    | some (c, n) => description c n := by
  unfold check
  cases firstOccurring text classes with
  | none => rfl
  | some x => rfl

/-- A text that passes is not said to hold anything. -/
theorem passes_ne_description (c : PersonalData) (n : Nat) :
    "Content passed all safety checks" ≠ description c n := by
  intro h
  obtain ⟨rest, hl⟩ := toList_description c n
  have heq := congrArg String.toList h
  rw [hl] at heq
  exact absurd (List.cons.inj heq).1 (by decide)

/-- **Check and redaction agree.** Generated text passes exactly if redacting keeps it. Otherwise the
    finding names a class and a number, and redacting brings the placeholder of that class into the
    text that many times more than it was there. -/
theorem check_agrees_with_redact (text : String) :
    (check .output text = .allowed ↔ redact text = text) ∧
      (check .output text ≠ .allowed → ∃ c n, (check .output text).detail = description c n) ∧
      ∀ c n, (check .output text).detail = description c n →
        placeholders c (redact text).toList = placeholders c text.toList + n := by
  refine ⟨(check_output_eq_allowed_iff text).trans (redact_eq_self_iff text).symm, ?_, ?_⟩
  · intro hflagged
    rw [detail_check_output]
    cases hfirst : firstOccurring text classes with
    | none =>
      have hnone := (firstOccurring_eq_none_iff text classes).1 hfirst
      exact absurd ((check_output_eq_allowed_iff text).2 fun c => hnone c (mem_classes c)) hflagged
    | some x => exact ⟨x.1, x.2, rfl⟩
  · intro c n h
    rw [detail_check_output] at h
    cases hfirst : firstOccurring text classes with
    | none =>
      rw [hfirst] at h
      exact absurd h (passes_ne_description c n)
    | some x =>
      obtain ⟨c', n'⟩ := x
      rw [hfirst] at h
      obtain ⟨rfl, rfl⟩ := description_inj h
      have hclasses : classes.Nodup := by decide
      have hadded := placeholders_of_firstOccurring hclasses hfirst
      have hredact : (redact text).toList =
          classes.foldl (fun t d => redactClass d t) text.toList := String.toList_ofList
      rw [hredact]
      exact hadded

/-- A text with two mail addresses, a placeholder of its own and a telephone number. -/
def twoMails : String := "a@example.org [REDACTED EMAIL] b@example.org (555) 123-4567"

theorem check_agrees_with_redact_twoMails :
    (check .output twoMails).detail = description .email 2 ∧
      check .output twoMails ≠ .allowed ∧ placeholders .email twoMails.toList = 1 ∧
      placeholders .email (redact twoMails).toList = 3 := by
  have hdetail : (check .output twoMails).detail = description .email 2 := by decide +kernel
  have hbefore : placeholders .email twoMails.toList = 1 := by decide +kernel
  obtain ⟨hpasses, -, hadded⟩ := check_agrees_with_redact twoMails
  have hafter := hadded .email 2 hdetail
  rw [hbefore] at hafter
  refine ⟨hdetail, ?_, hbefore, hafter⟩
  rw [Ne, hpasses]
  decide +kernel

end Gatehouse.Safety.PersonalData
