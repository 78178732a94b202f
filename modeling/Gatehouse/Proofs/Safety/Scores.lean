import Gatehouse.Proofs.Safety.Levels
import Gatehouse.Proofs.Safety.Spans
import Gatehouse.Proofs.Text.LowerCase

/-!
# Scores

The score of a text in a topic is a sum over the keywords that occur in its lower case.

* `Topic.score_le_score`: more keywords are not less of a score;
* `keywords_of_mem_defaults`: the keywords that every classifier starts with are of small letters, spaces
  and hyphens, so that their occurrence does not depend on what is around them;
* `score_part_le`: a part of a text has no larger score in these topics than the text;
* `redaction_raises_no_score`: nor has the redacted text.
-/

namespace Gatehouse.Safety

open Gatehouse.Text

/-! ## 1. More keywords -/

/-- A word occurs in a text where it stands in it. -/
theorem occursIn_iff_isInfix {word text : List Char} :
    occursIn word text = true ↔ word <:+: text := by
  induction text with
  | nil => rw [occursIn, List.isEmpty_iff, List.infix_nil]
  | cons c text ih =>
    rw [occursIn, Bool.or_eq_true, List.isPrefixOf_iff_prefix, ih, List.infix_cons_iff]

/-- **Where more keywords occur the score is not lower.** -/
theorem Topic.score_le_score {t : Topic} {u v : List Char}
    (hmore : ∀ k ∈ t.keywords, k.1.toList <:+: u → k.1.toList <:+: v) : t.score u ≤ t.score v := by
  refine weight_le_of_sublist ?_
  unfold found
  have hfilter : t.keywords.filter (fun k => occursIn k.1.toList u) =
      (t.keywords.filter (fun k => occursIn k.1.toList v)).filter
        (fun k => occursIn k.1.toList u) := by
    rw [List.filter_filter]
    refine List.filter_congr fun k hk => ?_
    by_cases hu : occursIn k.1.toList u = true
    · have hv := hmore k hk (occursIn_iff_isInfix.1 hu)
      rw [hu, occursIn_iff_isInfix.2 hv]
      rfl
    · rw [Bool.not_eq_true] at hu
      rw [hu, Bool.false_and]
  rw [hfilter]
  exact List.filter_sublist

/-! ## 2. Keywords of small letters -/

/-- Is the word made of letters `A`–`Z`, `a`–`z`, spaces and hyphens? -/
def isPlainWord (w : List Char) : Bool := w.all (fun c => isAsciiLetter c || c == ' ' || c == '-')

theorem not_mem_of_isPlainWord {w : List Char} (hw : isPlainWord w = true) {x : Char}
    (hx : (isAsciiLetter x || x == ' ' || x == '-') = false) : x ∉ w := by
  intro hm
  have hplain := List.all_eq_true.1 hw x hm
  rw [hx] at hplain
  cases hplain

/-- **Where a plain word stands in the lower case of a text** does not depend on its surroundings. -/
theorem infix_lowerChars_iff_of_isPlainWord {w : List Char} (hw : isPlainWord w = true)
    (s : List Char) : w <:+: lowerChars s ↔ w <:+: s.flatMap lowerLetter :=
  infix_lowerChars_iff (not_mem_of_isPlainWord hw (by decide))
    (not_mem_of_isPlainWord hw (by decide))

/-- The keywords that every classifier starts with are plain words, and none of them is in a
    placeholder. -/
theorem keywords_of_mem_defaults {t : Topic} (ht : t ∈ Topic.defaults) :
    ∀ k ∈ t.keywords, isPlainWord k.1.toList = true ∧
      ∀ c ∈ PersonalData.classes,
        ¬ k.1.toList <:+: c.placeholder.toList.flatMap lowerLetter := by
  revert t
  decide +kernel

/-- **A text scores no more than one in which all the plain words are found that are found in it.** -/
theorem score_le_of_plain_words {t : Topic} (ht : t ∈ Topic.defaults) {u v : List Char}
    (h : ∀ w, isPlainWord w = true →
      (∀ c ∈ PersonalData.classes, ¬ w <:+: c.placeholder.toList.flatMap lowerLetter) →
      w <:+: u.flatMap lowerLetter → w <:+: v.flatMap lowerLetter) :
    t.score (lowerChars u) ≤ t.score (lowerChars v) := by
  refine Topic.score_le_score fun k hk hin => ?_
  obtain ⟨hplain, hplaceholders⟩ := keywords_of_mem_defaults ht k hk
  rw [infix_lowerChars_iff_of_isPlainWord hplain] at hin ⊢
  exact h k.1.toList hplain hplaceholders hin

/-- A part of a text scores no more than the text. -/
theorem score_part_le {t : Topic} (ht : t ∈ Topic.defaults) (l s r : List Char) :
    t.score (lowerChars s) ≤ t.score (lowerChars (l ++ s ++ r)) := by
  refine score_le_of_plain_words ht fun w _ _ hw => ?_
  have hpart : s <:+: l ++ s ++ r := List.infix_append l s r
  exact hw.trans (hpart.flatMap lowerLetter)

/-- **What scores no more in any topic is allowed if the other is.** -/
theorem check_allowed_of_score_le {s t : String} (level : Level)
    (h : ∀ topic ∈ Topic.defaults,
      topic.score (lowerChars s.toList) ≤ topic.score (lowerChars t.toList))
    (hallowed : level.check t = .allowed) : level.check s = .allowed := by
  rw [Level.check_eq_allowed_iff] at hallowed ⊢
  intro topic htopic
  exact Nat.lt_of_le_of_lt (h topic htopic) (hallowed topic htopic)

/-! ## 3. Redacted texts -/

section Redacted

open PersonalData

/-- A word without a character is found in front of it or behind it. -/
theorem infix_or_of_append_cons {α : Type} {w u v : List α} {x : α} (hx : x ∉ w)
    (h : w <:+: u ++ x :: v) : w <:+: u ∨ w <:+: v := by
  obtain ⟨l, r, hlr⟩ := h
  rcases List.append_eq_append_iff.1 hlr with ⟨u', rfl, -⟩ | ⟨v', hl, hr⟩
  · exact .inl (List.infix_append l w u')
  · cases v' with
    | nil =>
      rw [List.append_nil] at hl
      exact .inl (hl ▸ (List.suffix_append l w).isInfix)
    | cons y v' =>
      obtain ⟨rfl, rfl⟩ := List.cons.inj hr
      rcases List.append_eq_append_iff.1 hl with ⟨c, rfl, hw⟩ | ⟨c, rfl, hc⟩
      · exact absurd (by rw [hw]; simp) hx
      · cases c with
        | nil => exact absurd (by rw [← List.nil_append w, ← hc]; simp) hx
        | cons z c =>
          obtain ⟨-, rfl⟩ := List.cons.inj hc
          exact .inr (List.infix_append c w r)

/-- **A word that is found in a redacted text was found before**, if it holds no bracket and is in no
    placeholder: it lies among characters that were kept next to each other. -/
theorem infix_original_of_result {w : List Char} (hopen : '[' ∉ w) (hclose : ']' ∉ w)
    (hplaceholders : ∀ c ∈ classes, ¬ w <:+: c.placeholder.toList.flatMap lowerLetter)
    {marks : List Mark} {u : List Char} (h : w <:+: (u ++ result marks).flatMap lowerLetter) :
    w <:+: (u ++ original marks).flatMap lowerLetter := by
  -- on the marks, with the characters kept in front of them as `u`
  induction marks generalizing u with
  | nil => exact h
  | cons m marks ih =>
    cases m with
    | kept x =>
      have hkept : w <:+: ((u ++ [x]) ++ result marks).flatMap lowerLetter := by
        rwa [List.append_assoc]
      have hbefore := ih hkept
      rwa [List.append_assoc] at hbefore
    | replaced span c =>
      obtain ⟨inside, hbox, -⟩ := c.boxed_placeholder
      have hlowered : (u ++ result (.replaced span c :: marks)).flatMap lowerLetter =
          u.flatMap lowerLetter ++ '[' :: (inside.flatMap lowerLetter ++
            ']' :: (result marks).flatMap lowerLetter) := by
        show (u ++ (c.placeholder.toList ++ result marks)).flatMap lowerLetter = _
        rw [hbox]
        have hbrackets : lowerLetter '[' = ['['] ∧ lowerLetter ']' = [']'] := by decide
        simp [List.flatMap_cons, hbrackets]
      rw [hlowered] at h
      rcases infix_or_of_append_cons hopen h with h | h
      · have hpart : u <:+: u ++ original (.replaced span c :: marks) :=
          (List.prefix_append u _).isInfix
        exact h.trans (hpart.flatMap lowerLetter)
      · rcases infix_or_of_append_cons hclose h with h | h
        · have hpart : inside <:+: c.placeholder.toList := by
            rw [hbox]
            exact List.infix_append ['['] inside [']']
          exact absurd (h.trans (hpart.flatMap lowerLetter)) (hplaceholders c (mem_classes c))
        · have hbehind : w <:+: (original marks).flatMap lowerLetter := ih (u := []) h
          have hpart : original marks <:+: u ++ original (.replaced span c :: marks) := by
            show original marks <:+: u ++ (span ++ original marks)
            rw [← List.append_assoc]
            exact (List.suffix_append (u ++ span) (original marks)).isInfix
          exact hbehind.trans (hpart.flatMap lowerLetter)

/-- A redaction as one exchange of spans for placeholders. -/
theorem exists_marks (text : String) : ∃ marks : List Mark,
    original marks = text.toList ∧ result marks = (redact text).toList := by
  have hstart : OnlyData (text.toList.map .kept) := by
    intro span c hm
    obtain ⟨x, -, hx⟩ := List.mem_map.1 hm
    cases hx
  obtain ⟨marks, -, horiginal, hresult, -⟩ := exists_redacts classes hstart
  rw [original_map_kept] at horiginal
  rw [result_map_kept] at hresult
  exact ⟨marks, horiginal, hresult.trans String.toList_ofList.symm⟩

theorem score_redact_le {t : Topic} (ht : t ∈ Topic.defaults) (text : String) :
    t.score (lowerChars (redact text).toList) ≤ t.score (lowerChars text.toList) := by
  obtain ⟨marks, horiginal, hresult⟩ := exists_marks text
  rw [← horiginal, ← hresult]
  refine score_le_of_plain_words ht fun w hw hplaceholders h => ?_
  have hopen : '[' ∉ w := not_mem_of_isPlainWord hw (by decide)
  have hclose : ']' ∉ w := not_mem_of_isPlainWord hw (by decide)
  exact infix_original_of_result (u := []) hopen hclose hplaceholders h

theorem check_redact_allowed {level : Level} {text : String} (h : level.check text = .allowed) :
    level.check (redact text) = .allowed :=
  check_allowed_of_score_le level (fun _ ht => score_redact_le ht text) h

/-- **Redaction raises no score.** In each topic that every classifier starts with, the redacted text
    scores at most what the text does, both of them in 32 bits. So at each level the classifier allows
    the redacted text if it allows the text. -/
theorem redaction_raises_no_score (text : String) :
    (∀ t ∈ Topic.defaults, ∃ m n, t.score? (lowerChars (redact text).toList) = some m ∧
      t.score? (lowerChars text.toList) = some n ∧ m ≤ n) ∧
    ∀ level : Level, level.check text = .allowed → level.check (redact text) = .allowed := by
  refine ⟨fun t ht => ?_, fun level => check_redact_allowed⟩
  obtain ⟨m, hm⟩ := Topic.exists_score?_of_mem_defaults ht (lowerChars (redact text).toList)
  obtain ⟨n, hn⟩ := Topic.exists_score?_of_mem_defaults ht (lowerChars text.toList)
  refine ⟨m, n, hm, hn, ?_⟩
  rw [UInt32.le_iff_toNat_le, Topic.score?_eq_some_iff.1 hm, Topic.score?_eq_some_iff.1 hn]
  exact score_redact_le ht text

/-- A text with a drink, and another one in a mail address that a capital sigma runs into. The sigma
    ends its word once the address is replaced. -/
def drinks : String := "vodka at ΟΔΟΣbeer@example.org"

theorem redaction_raises_no_score_of_drinks :
    (∃ t ∈ Topic.defaults, t.name = "drugs_alcohol" ∧
      t.score? (lowerChars drinks.toList) = some 3 ∧
      ∃ m, t.score? (lowerChars (redact drinks).toList) = some m ∧ m ≤ 3) ∧
    Level.moderate.check drinks = .allowed ∧ Level.moderate.check (redact drinks) = .allowed := by
  obtain ⟨hscores, hchecks⟩ := redaction_raises_no_score drinks
  have htopic : ∃ t ∈ Topic.defaults, t.name = "drugs_alcohol" ∧
      t.score? (lowerChars drinks.toList) = some 3 := by decide +kernel
  have hallowed : Level.moderate.check drinks = .allowed := by decide +kernel
  obtain ⟨t, ht, hname, hthree⟩ := htopic
  obtain ⟨m, n, hm, hn, hle⟩ := hscores t ht
  obtain rfl : n = 3 := Option.some.inj (hn.symm.trans hthree)
  exact ⟨⟨t, ht, hname, hthree, m, hm, hle⟩, hallowed, hchecks .moderate hallowed⟩

end Redacted

end Gatehouse.Safety
