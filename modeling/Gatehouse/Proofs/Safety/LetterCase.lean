import Gatehouse.Proofs.Pattern.Folding
import Gatehouse.Safety.Pipeline

/-!
# Letter case

Whether a text is written in small letters or in capitals makes no difference to any filter, as far as
the letters `A`–`Z` go. Not only the verdict is the same but also the number that a finding names.

* `smallLetters` is the folding of `A`–`Z`; all rules of the firewall and all classes of personal data
  are blind to it (`hits_recased`, `occurrences_recased`);
* `lowerChars_map_lowerAscii`: the lower case of a text can be taken from the folded text, since a
  letter has a case, whichever it is written in, so that no sigma changes its form;
* `firstFlag_recased`: so a pipeline, of whatever filters, comes to the same verdict;
* `verdicts_ignore_letterCase` says so of the standard pipeline in both directions.
-/

namespace Gatehouse.Text

open Gatehouse.Pattern (Folding)

/-! ## 1. The letters A–Z -/

/-- The letters `A`–`Z`. -/
def capitals : List Char := (List.range 26).map (fun i => Char.ofNat (0x41 + i))

theorem lowerAscii_of_not_mem_capitals (c : Char) (hc : c ∉ capitals) : lowerAscii c = c := by
  unfold lowerAscii
  refine if_neg fun hrange => hc ?_
  simp only [Bool.and_eq_true, decide_eq_true_eq] at hrange
  refine List.mem_map.2 ⟨c.toNat - 0x41, List.mem_range.2 (by omega), ?_⟩
  have hcode : 0x41 + (c.toNat - 0x41) = c.toNat := by omega
  rw [hcode, Char.ofNat_toNat]

/-- **Capitals `A`–`Z` written as small letters.** -/
def smallLetters : Folding where
  fold := lowerAscii
  moved := capitals
  fold_of_not_mem := lowerAscii_of_not_mem_capitals
  all_isWord := by decide +kernel

/-- What a capital has in common with its small letter every character has in common with what it is
    written as. -/
theorem eq_of_capitals {α : Type} [DecidableEq α] {g : Char → α}
    (h : capitals.all (fun c => g (lowerAscii c) == g c) = true) (c : Char) :
    g (lowerAscii c) = g c :=
  Folding.eq_of_moved (f := smallLetters) h c

/-! ## 2. Lower case -/

theorem casedNext_map_lowerAscii (s : List Char) :
    casedNext (s.map lowerAscii) = casedNext s := by
  have hignorable : isCaseIgnorable ∘ lowerAscii = isCaseIgnorable := by
    funext c
    exact eq_of_capitals (g := isCaseIgnorable) (by decide) c
  unfold casedNext
  rw [List.dropWhile_map, hignorable]
  cases s.dropWhile isCaseIgnorable with
  | nil => rfl
  | cons c rest => exact eq_of_capitals (g := isCased) (by decide) c

/-- A character is lowered in the same way, whichever case it and its neighbours are written in. -/
theorem lowerCharAt_map_lowerAscii (before : List Char) (c : Char) (after : List Char) :
    lowerCharAt (before.map lowerAscii) (lowerAscii c) (after.map lowerAscii) =
      lowerCharAt before c after := by
  have hsigma : (lowerAscii c == '\u03A3') = (c == '\u03A3') :=
    eq_of_capitals (g := (· == '\u03A3')) (by decide) c
  have hdotted : (lowerAscii c == '\u0130') = (c == '\u0130') :=
    eq_of_capitals (g := (· == '\u0130')) (by decide) c
  have hsimple : lowerSimple (lowerAscii c) = lowerSimple c :=
    eq_of_capitals (g := lowerSimple) (by decide) c
  unfold lowerCharAt
  rw [casedNext_map_lowerAscii, casedNext_map_lowerAscii, hsigma, hdotted, hsimple]

theorem lowerFrom_map_lowerAscii (before s : List Char) :
    lowerFrom (before.map lowerAscii) [] (s.map lowerAscii) = lowerFrom before [] s := by
  induction s generalizing before with
  | nil => rfl
  | cons c rest ih =>
    have hrest := ih (c :: before)
    rw [List.map_cons] at hrest
    rw [List.map_cons, lowerFrom_cons, lowerFrom_cons, lowerCharAt_map_lowerAscii, hrest]

/-- **The lower case of a text** can be taken from the text with its capitals `A`–`Z` lowered. -/
theorem lowerChars_map_lowerAscii (s : List Char) : lowerChars (s.map lowerAscii) = lowerChars s :=
  lowerFrom_map_lowerAscii [] s

end Gatehouse.Text

namespace Gatehouse.Safety

open Gatehouse.Text
open Gatehouse.Pattern

/-! ## 3. Filters -/

/-- **The texts differ in nothing but the case of letters `A`–`Z`.** -/
def Recased (s t : String) : Prop := s.toList.map lowerAscii = t.toList.map lowerAscii

instance (s t : String) : Decidable (Recased s t) := instDecidableEqList _ _

section Recased

variable {s t : String}

/-- Every rule of the firewall is blind to letter case. -/
theorem Firewall.hits_recased (h : Recased s t) (d : Direction) : hits d s = hits d t := by
  have hblind : (rules d).all (fun p => p.blindTo smallLetters && p.needsBeyond []) = true := by
    cases d <;> decide +kernel
  unfold hits
  rw [Bool.eq_iff_iff]
  simp only [List.any_eq_true]
  refine exists_congr fun p => and_congr_right fun hp => ?_
  have hsame : p.occursIn s.toList = p.occursIn t.toList := occursIn_eq_of_folded hblind hp h
  rw [hsame]

/-- So is every class of personal data, so that it occurs as often. -/
theorem PersonalData.occurrences_recased (h : Recased s t) (c : PersonalData) :
    occurrences s c = occurrences t c := by
  have hblind : c.pattern.blindTo smallLetters = true := by
    cases c <;> decide +kernel
  exact count_eq_of_folded hblind h

theorem PersonalData.firstOccurring_recased (h : Recased s t) (cs : List PersonalData) :
    firstOccurring s cs = firstOccurring t cs := by
  induction cs with
  | nil => rfl
  | cons c cs ih => rw [firstOccurring, firstOccurring, occurrences_recased h c, ih]

/-- And a classifier, of whatever topics, scores the same lower case. -/
theorem lowerChars_recased (h : Recased s t) : lowerChars s.toList = lowerChars t.toList := by
  rw [← lowerChars_map_lowerAscii, h, lowerChars_map_lowerAscii]

/-- **A filter comes to the same verdict.** -/
theorem Filter.check_recased (h : Recased s t) (d : Direction) (f : Filter) :
    f.check d s = f.check d t := by
  cases f with
  | firewall =>
    show Firewall.check d s = Firewall.check d t
    unfold Firewall.check Firewall.reason?
    rw [Firewall.hits_recased h d]
  | personalData =>
    show PersonalData.check d s = PersonalData.check d t
    unfold PersonalData.check
    rw [PersonalData.firstOccurring_recased h]
  | classifier c sound =>
    have hsame : c.check? s = c.check? t := by
      unfold Classifier.check?
      rw [lowerChars_recased h]
    show (c.check? s).get _ = (c.check? t).get _
    rw [← Option.some_inj, Option.some_get, Option.some_get, hsame]

/-! ## 4. Pipelines -/

theorem Pipeline.firstFlag_recased (h : Recased s t) (d : Direction) (p : Pipeline) :
    p.firstFlag d s = p.firstFlag d t := by
  induction p with
  | nil => rfl
  | cons f fs ih => rw [firstFlag, firstFlag, f.check_recased h d, ih]

/-- **Verdicts ignore letter case.** Two texts that differ in nothing but the case of letters `A`–`Z`
    get the same verdict, with its finding, as prompts and as generated texts. -/
theorem verdicts_ignore_letterCase (level : Level) (h : Recased s t) :
    (Pipeline.standard level).checkInput s = (Pipeline.standard level).checkInput t ∧
      (Pipeline.standard level).checkOutput s = (Pipeline.standard level).checkOutput t := by
  constructor
  · unfold Pipeline.checkInput
    rw [Pipeline.firstFlag_recased h]
  · exact Pipeline.firstFlag_recased h .output _

/-- Two student numbers, once in capitals and once not, with a capital sigma in front of a letter. -/
theorem verdicts_ignore_letterCase_of_numbers :
    Recased "ΟΔΟΣa SID: 12345, Student_Id:67890" "ΟΔΟΣA sid: 12345, sTUDENT_iD:67890" ∧
      ((Pipeline.standard .strict).checkOutput "ΟΔΟΣa SID: 12345, Student_Id:67890").detail =
        "PII detected: student_id (2 matches)" ∧
      ((Pipeline.standard .strict).checkOutput "ΟΔΟΣA sid: 12345, sTUDENT_iD:67890").detail =
        "PII detected: student_id (2 matches)" := by
  have hrecased :
      Recased "ΟΔΟΣa SID: 12345, Student_Id:67890" "ΟΔΟΣA sid: 12345, sTUDENT_iD:67890" := by
    decide +kernel
  obtain ⟨-, hsame⟩ := verdicts_ignore_letterCase .strict hrecased
  have hdetail :
      ((Pipeline.standard .strict).checkOutput "ΟΔΟΣa SID: 12345, Student_Id:67890").detail =
        "PII detected: student_id (2 matches)" := by
    decide +kernel
  exact ⟨hrecased, hdetail, hsame ▸ hdetail⟩

end Recased

end Gatehouse.Safety
