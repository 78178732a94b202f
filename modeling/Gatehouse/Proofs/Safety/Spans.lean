import Gatehouse.Proofs.Safety.Numbers
import Gatehouse.Proofs.Safety.Placeholders

/-!
# What redaction replaces

The classes are replaced one after the other, each in what the classes before it have left. All the
same a redaction is one exchange of spans of the text for placeholders.

* `Mark` is a character that is kept or a span that is replaced; a list of marks has a text before
  (`original`) and a text after (`result`);
* `Replaces` is one class: its matches are runs of kept characters, and every placeholder that is there
  consists of characters that the search for the class keeps. `exists_replaces` says that there is no
  other way for a search to go;
* `Redacts` is one class after the other, and `exists_redacts` the induction over them;
* `redact_replaces_spans`: the spans of a whole redaction, each of which holds an at sign or five
  digits.
-/

namespace Gatehouse.Safety.PersonalData

open Gatehouse.Text
open Gatehouse.Pattern

/-! ## 1. Marks -/

/-- A piece of a text under redaction. -/
inductive Mark where
  /-- A character that is kept. -/
  | kept (x : Char)
  /-- A span that is replaced as data of a class. -/
  | replaced (span : List Char) (c : PersonalData)

/-- What the piece was. -/
def Mark.original : Mark → List Char
  | .kept x => [x]
  | .replaced span _ => span

/-- What the piece is now. -/
def Mark.result : Mark → List Char
  | .kept x => [x]
  | .replaced _ c => c.placeholder.toList

/-- The text that was marked. -/
def original (marks : List Mark) : List Char := marks.flatMap Mark.original

/-- The text with a placeholder for each span that is replaced. -/
def result (marks : List Mark) : List Char := marks.flatMap Mark.result

@[simp] theorem original_nil : original [] = [] := rfl

@[simp] theorem original_cons (m : Mark) (marks : List Mark) :
    original (m :: marks) = m.original ++ original marks := rfl

@[simp] theorem original_append (s t : List Mark) : original (s ++ t) = original s ++ original t :=
  List.flatMap_append

@[simp] theorem original_map_kept (w : List Char) : original (w.map .kept) = w := by
  induction w with
  | nil => rfl
  | cons x w ih => rw [List.map_cons, original_cons, ih]; rfl

@[simp] theorem result_nil : result [] = [] := rfl

@[simp] theorem result_cons (m : Mark) (marks : List Mark) :
    result (m :: marks) = m.result ++ result marks := rfl

@[simp] theorem result_map_kept (w : List Char) : result (w.map .kept) = w := by
  induction w with
  | nil => rfl
  | cons x w ih => rw [List.map_cons, result_cons, ih]; rfl

/-- A word without an opening bracket consists of kept characters where it starts the text. -/
theorem result_eq_append_of_start {marks : List Mark} {w r : List Char} (hw : '[' ∉ w)
    (h : result marks = w ++ r) : ∃ rest, marks = w.map .kept ++ rest ∧ result rest = r := by
  induction w generalizing marks with
  | nil => exact ⟨marks, rfl, h⟩
  | cons x w ih =>
    rw [List.mem_cons, not_or] at hw
    cases marks with
    | nil => cases h
    | cons m marks =>
      cases m with
      | kept y =>
        obtain ⟨rfl, htail⟩ := List.cons.inj h
        obtain ⟨rest, rfl, hrest⟩ := ih hw.2 htail
        exact ⟨rest, rfl, hrest⟩
      | replaced span c =>
        obtain ⟨inside, hbox, -⟩ := c.boxed_placeholder
        have hopen : result (.replaced span c :: marks) = '[' :: (inside ++ [']'] ++ result marks) := by
          rw [result_cons, Mark.result, hbox, List.cons_append]
        rw [hopen] at h
        exact absurd (List.cons.inj h).1 hw.1

/-! ## 2. One class -/

/-- **One class is replaced**: the marks before, what a search for the class leaves of their text, and
    the marks after. A match is a run of kept characters; a placeholder that is there is kept, character
    by character, and the span behind it stays the same. -/
inductive Replaces (c : PersonalData) : List Mark → List Segment → List Mark → Prop where
  | nil : Replaces c [] [] []
  | kept {marks marks' : List Mark} {pieces : List Segment} (x : Char) :
      Replaces c marks pieces marks' →
      Replaces c (.kept x :: marks) (.kept x :: pieces) (.kept x :: marks')
  | placeholder {marks marks' : List Mark} {pieces : List Segment} (span : List Char)
      (d : PersonalData) : Replaces c marks pieces marks' →
      Replaces c (.replaced span d :: marks) (d.placeholder.toList.map .kept ++ pieces)
        (.replaced span d :: marks')
  | found {marks marks' : List Mark} {pieces : List Segment} (w : List Char) :
      Replaces c marks pieces marks' →
      Replaces c (w.map .kept ++ marks) (.found w :: pieces) (.replaced w c :: marks')

section Replaces

variable {c : PersonalData} {marks marks' : List Mark} {pieces : List Segment}

theorem Replaces.original_eq (h : Replaces c marks pieces marks') :
    original marks' = original marks := by
  induction h with
  | nil => rfl
  | kept x _ ih => rw [original_cons, original_cons, ih]
  | placeholder span d _ ih => rw [original_cons, original_cons, ih]
  | found w _ ih =>
    rw [original_cons, original_append, original_map_kept, ih]
    rfl

/-- The marks after stand for the text with the matches replaced. -/
theorem Replaces.result_eq (h : Replaces c marks pieces marks') :
    result marks' = filled c.placeholder.toList pieces := by
  induction h with
  | nil => rfl
  | kept x _ ih =>
    rw [result_cons, filled_kept, ih]
    rfl
  | placeholder span d _ ih =>
    rw [result_cons, filled_append, filled_map_kept, ih]
    rfl
  | found w _ ih =>
    rw [result_cons, filled_found, ih]
    rfl

/-- A span that is replaced after was replaced before, or is a match of the class. -/
theorem Replaces.mem_or_found (h : Replaces c marks pieces marks') {span : List Char}
    {d : PersonalData} (hm : .replaced span d ∈ marks') :
    .replaced span d ∈ marks ∨ .found span ∈ pieces ∧ d = c := by
  induction h with
  | nil => cases hm
  | kept x _ ih =>
    rcases List.mem_cons.1 hm with hm | hm
    · cases hm
    · exact (ih hm).imp (List.mem_cons_of_mem _) (.imp_left (List.mem_cons_of_mem _))
  | placeholder span' d' _ ih =>
    rcases List.mem_cons.1 hm with hm | hm
    · exact .inl (hm ▸ List.mem_cons_self)
    · exact (ih hm).imp (List.mem_cons_of_mem _) (.imp_left (List.mem_append_right _))
  | found w _ ih =>
    rcases List.mem_cons.1 hm with hm | hm
    · obtain ⟨rfl, rfl⟩ := Mark.replaced.inj hm
      exact .inr ⟨List.mem_cons_self, rfl⟩
    · exact (ih hm).imp (List.mem_append_right _) (.imp_left (List.mem_cons_of_mem _))

/-- **A search for a class goes no other way**: a match holds no bracket, so that it lies between the
    placeholders, and none of them is enough for a match. -/
theorem exists_replaces {b : Option Char} (h : c.pattern.Cut b pieces)
    (ht : plain pieces = result marks) : ∃ marks', Replaces c marks pieces marks' := by
  -- on the number of marks: a match uses up as many of them as it has characters
  induction hn : marks.length using Nat.strongRecOn generalizing b pieces marks with
  | ind n ih =>
    cases marks with
    | nil =>
      cases pieces with
      | nil => exact ⟨[], .nil⟩
      | cons piece pieces =>
        cases piece with
        | kept x => cases ht
        | found w =>
          have hne := Cut.found_ne_nil (s := []) h
          exact absurd (List.append_eq_nil_iff.1 ht).1 hne
    | cons m marks =>
      have hlt : marks.length < n := by rw [← hn]; exact Nat.lt_succ_self _
      cases m with
      | replaced span d =>
        -- no match has room in a placeholder: the search keeps it and goes on behind it
        obtain ⟨pieces, rfl, hrest⟩ :=
          h.exists_kept_of_boxed d.boxed_placeholder c.avoids_close (needsBeyond_placeholder c d) ht
        obtain ⟨marks', hmarks⟩ := ih _ hlt h.of_append hrest rfl
        exact ⟨_, .placeholder span d hmarks⟩
      | kept x =>
        cases pieces with
        | nil => cases ht
        | cons piece pieces =>
          cases piece with
          | kept y =>
            obtain ⟨rfl, hrest⟩ := List.cons.inj ht
            cases h with
            | kept _ h =>
              obtain ⟨marks', hmarks⟩ := ih _ hlt h hrest rfl
              exact ⟨_, .kept y hmarks⟩
          | found w =>
            -- and a match ends before the next one opens
            have hopen : '[' ∉ w := (Cut.reads_found (s := []) h).not_mem c.avoids_open
            have hne : w ≠ [] := Cut.found_ne_nil (s := []) h
            obtain ⟨rest, hmarks, hrest⟩ := result_eq_append_of_start hopen ht.symm
            have hshort : rest.length < n := by
              have hlen := congrArg List.length hmarks
              have hpos := List.length_pos_iff.2 hne
              rw [List.length_append, List.length_map] at hlen
              omega
            cases h with
            | found _ _ h =>
              obtain ⟨marks', hrest'⟩ := ih _ hshort h hrest.symm rfl
              rw [hmarks]
              exact ⟨_, .found w hrest'⟩

end Replaces

/-! ## 3. What a match holds -/

/-- The span holds an at sign, or five digits or more. -/
def HoldsData (span : List Char) : Prop := '@' ∈ span ∨ 5 ≤ span.countP isDigit

theorem IsGroup.countP_eq {n : Nat} {g : List Char} (h : IsGroup n g) : g.countP isDigit = n := by
  obtain ⟨hlen, hg⟩ := h
  rw [List.countP_eq_length.2 hg, hlen]

theorem LocalNumber.ten_le {b : Option Char} {x : List Char} (h : LocalNumber b x) :
    10 ≤ x.countP isDigit := by
  obtain ⟨harea, hg, -, hk⟩ := h
  rename_i area g k s
  have harea : 3 ≤ area.countP isDigit := by
    cases harea with
    | enclosed hd _ =>
      rename_i d blank
      have hcount := hd.countP_eq
      simp only [List.countP_cons, List.countP_append]
      omega
    | free _ hd _ =>
      have hcount := hd.countP_eq
      rw [List.countP_append]
      omega
  have hcount := hg.countP_eq
  have hcount' := hk.countP_eq
  simp only [List.countP_append, List.countP_cons]
  omega

/-- **What is read for a class is personal data**: it holds an at sign or five digits. -/
theorem holdsData_of_reads {c : PersonalData} {b : Option Char} {w a : List Char}
    (h : c.pattern.Reads b w a) : HoldsData w := by
  cases c with
  | email =>
    obtain ⟨mailbox, _, rfl, -, sign, _, rfl, hsign, -⟩ := h
    rw [reads_exactly.1 hsign]
    exact .inl (by simp)
  | phone =>
    obtain ⟨k, x, rfl, -, hx, -⟩ := reads_phone_iff.1 h
    have hcount := hx.ten_le
    refine .inr ?_
    rw [List.countP_append]
    omega
  | ssn =>
    obtain ⟨-, ⟨hg, -, hk⟩, -⟩ := reads_ssn h
    have hcount := hg.countP_eq
    have hcount' := hk.countP_eq
    refine .inr ?_
    simp only [List.countP_append, List.countP_cons]
    omega
  | studentId =>
    obtain ⟨-, ⟨-, hg⟩, -⟩ := reads_studentId h
    have hcount := hg.countP_eq
    refine .inr ?_
    simp only [List.countP_append, List.countP_cons]
    omega

/-! ## 4. One class after the other -/

/-- **Classes are replaced one after the other**, each in the text that the marks stand for then. -/
inductive Redacts : List PersonalData → List Mark → List Mark → Prop where
  | nil (marks : List Mark) : Redacts [] marks marks
  | cons {c : PersonalData} {cs : List PersonalData} {marks marks₁ marks₂ : List Mark} :
      Replaces c marks (c.pattern.segments (result marks)) marks₁ → Redacts cs marks₁ marks₂ →
      Redacts (c :: cs) marks marks₂

/-- Every span that is replaced is personal data. -/
def OnlyData (marks : List Mark) : Prop :=
  ∀ span c, .replaced span c ∈ marks → span ≠ [] ∧ HoldsData span

theorem exists_redacts (cs : List PersonalData) {marks : List Mark} (hmarks : OnlyData marks) :
    ∃ marks', Redacts cs marks marks' ∧ original marks' = original marks ∧
      result marks' = cs.foldl (fun t c => redactClass c t) (result marks) ∧ OnlyData marks' := by
  induction cs generalizing marks with
  | nil => exact ⟨marks, .nil marks, rfl, rfl, hmarks⟩
  | cons c cs ih =>
    have hcut := c.cut_pattern (result marks)
    obtain ⟨marks₁, hstep⟩ := exists_replaces hcut (plain_segments c.pattern (result marks))
    have honly : OnlyData marks₁ := by
      intro span d hm
      rcases hstep.mem_or_found hm with hm | ⟨hm, -⟩
      · exact hmarks span d hm
      · obtain ⟨s, t, hpieces⟩ := List.append_of_mem hm
        rw [hpieces] at hcut
        exact ⟨hcut.found_ne_nil, holdsData_of_reads hcut.reads_found⟩
    obtain ⟨marks₂, hrun, horiginal, hresult, honly₂⟩ := ih honly
    refine ⟨marks₂, .cons hstep hrun, horiginal.trans hstep.original_eq, ?_, honly₂⟩
    rw [hresult, hstep.result_eq, ← redactClass_eq, List.foldl_cons]

/-- **Redaction touches only spans of personal data.** A text can be cut into characters that are kept
    and spans that are replaced, each of which holds an at sign or five digits, so that the redacted
    text is what is kept, in order, with a placeholder for each span. The spans are found class by
    class, and no class finds anything of a placeholder that an earlier one has left. -/
theorem redact_replaces_spans (text : String) : ∃ marks : List Mark,
    Redacts classes (text.toList.map .kept) marks ∧
      text.toList = marks.flatMap Mark.original ∧
      (redact text).toList = marks.flatMap Mark.result ∧
      ∀ span c, .replaced span c ∈ marks →
        span ≠ [] ∧ ('@' ∈ span ∨ 5 ≤ span.countP isDigit) := by
  have hstart : OnlyData (text.toList.map .kept) := by
    intro span c hm
    obtain ⟨x, -, hx⟩ := List.mem_map.1 hm
    cases hx
  obtain ⟨marks, hrun, horiginal, hresult, honly⟩ := exists_redacts classes hstart
  rw [original_map_kept] at horiginal
  rw [result_map_kept] at hresult
  refine ⟨marks, hrun, horiginal.symm, ?_, honly⟩
  exact String.toList_ofList.trans hresult.symm

end Gatehouse.Safety.PersonalData
