import Gatehouse.Proofs.Safety.Numbers
import Gatehouse.Safety.Firewall

/-!
# Redaction and executable markup

Redacted text is not searched for markup again. It need not be: a rule for generated text that hits a
redacted text hits the text before.

* Six rules know no word boundaries, hold no brackets and ask for a character that no placeholder has,
  so that what they read was kept (`occursIn_of_isPlain`);
* the rule for event handlers has a word boundary behind a gap that placeholders can be in. No
  boundary is made there, since no letter follows a replaced piece (`not_letter_after`);
* `reason?_redact` puts the rules and the classes together.
-/

namespace Gatehouse.Safety

open Gatehouse.Text
open Gatehouse.Pattern
open PersonalData

/-! ## 1. What follows a replaced piece -/

theorem isWord_of_isAsciiLetter {c : Char} (h : isAsciiLetter c = true) : isWord c = true := by
  have hlow : c.toNat < 0x80 := by
    simp only [isAsciiLetter, Bool.or_eq_true, Bool.and_eq_true, decide_eq_true_eq] at h
    omega
  rw [isWord, if_pos hlow, h]
  rfl

/-- The last label of a mail address takes all letters there are. -/
theorem not_letter_after_email {c d : Cursor} (h : email.pattern.first? c = some d) :
    d.rest.head?.any isAsciiLetter = false := by
  obtain ⟨c, h⟩ := exists_first?_of_seq h
  obtain ⟨c, h⟩ := exists_first?_of_seq h
  obtain ⟨c, h⟩ := exists_first?_of_seq h
  obtain ⟨c, h⟩ := exists_first?_of_seq h
  exact rest_of_first?_many h

/-- **No letter follows a piece that is replaced.** -/
theorem not_letter_after {c : PersonalData} {s t : List Segment} {w : List Char}
    (h : c.pattern.Cut none (s ++ .found w :: t)) :
    (plain t).head?.any isAsciiLetter = false := by
  by_cases hc : c = .email
  · subst hc
    exact not_letter_after_email h.first?_found
  · have hafter := not_word_after hc h.reads_found
    cases ht : (plain t).head? with
    | none => rfl
    | some x =>
      rw [ht, Option.any_some] at hafter
      rw [Option.any_some, ← Bool.not_eq_true]
      intro hx
      rw [isWord_of_isAsciiLetter hx] at hafter
      cases hafter

namespace Firewall

/-! ## 2. Rules without word boundaries -/

/-- Does the pattern know no word boundaries, and read nothing that a placeholder has a part in? -/
def isPlain (p : Pattern) : Bool :=
  p.isFree && p.avoids '[' && p.avoids ']' &&
    classes.all (fun c => p.needsBeyond c.placeholder.toList)

theorem isPlain_iff {p : Pattern} : isPlain p = true ↔ p.isFree = true ∧ p.avoids '[' = true ∧
    p.avoids ']' = true ∧ ∀ c : PersonalData, p.needsBeyond c.placeholder.toList = true := by
  simp only [isPlain, Bool.and_eq_true, List.all_eq_true, and_assoc]
  have h : (∀ c ∈ classes, p.needsBeyond c.placeholder.toList = true) ↔
      ∀ c : PersonalData, p.needsBeyond c.placeholder.toList = true :=
    ⟨fun h c => h c (mem_classes c), fun h c _ => h c⟩
  rw [h]

/-- A replacement makes no occurrence of such a pattern. -/
theorem occursIn_of_isPlain {p : Pattern} (hp : isPlain p = true) {c : PersonalData}
    {text : List Char} (h : p.occursIn (redactClass c text) = true) : p.occursIn text = true := by
  obtain ⟨hfree, ho, hc, hn⟩ := isPlain_iff.1 hp
  have hplain := occursIn_plain_of_filled hfree c.bracketed_placeholder ho hc (hn c) h
  rwa [plain_segments] at hplain

/-- All rules for generated text but one are of this kind. -/
theorem isPlain_or_eq_eventHandler {p : Pattern} (hp : p ∈ outputRules) :
    isPlain p = true ∨ p = eventHandler := by
  simp only [outputRules, List.mem_cons, List.not_mem_nil, or_false] at hp
  rcases hp with rfl | rfl | rfl | rfl | rfl | rfl | rfl
  · exact .inl (by decide +kernel)
  · exact .inl (by decide +kernel)
  · exact .inr rfl
  · exact .inl (by decide +kernel)
  · exact .inl (by decide +kernel)
  · exact .inl (by decide +kernel)
  · exact .inl (by decide +kernel)

/-! ## 3. Event handlers -/

/-- What is read of an event handler behind the gap. -/
def handlerName : Pattern := all [word "on", many isWord 1 none true, optionalBlanks, word "="]

theorem reads_eventHandler_iff {b : Option Char} {w a : List Char} : eventHandler.Reads b w a ↔
    ∃ gap name, w = '<' :: (gap ++ name) ∧ '>' ∉ gap ∧
      boundary.Reads (lastOf (some '<') gap) [] (name ++ a) ∧
      handlerName.Reads (lastOf (some '<') gap) name a := by
  constructor
  · intro h
    obtain ⟨_, _, rfl, ⟨x, rfl, hx⟩, gap, _, rfl, ⟨-, -, hgap⟩, _, name, rfl, hb, hname⟩ := h
    obtain rfl : x = '<' := by simpa using hx
    obtain ⟨rfl, -⟩ := id hb
    refine ⟨gap, name, rfl, ?_, hb, hname⟩
    intro hm
    have := hgap '>' hm
    simp at this
  · intro h
    obtain ⟨gap, name, rfl, hgap, hb, hname⟩ := h
    refine ⟨['<'], gap ++ name, rfl, ⟨'<', rfl, by simp⟩, gap, name, rfl,
      ⟨Nat.zero_le _, by simp [Room], ?_⟩, [], name, rfl, hb, hname⟩
    intro x hx
    simp only [bne_iff_ne]
    rintro rfl
    exact hgap hx

theorem isAsciiLetter_of_foldCase_eq_o {x : Char} (h : foldCase x = 'o') :
    isAsciiLetter x = true := by
  unfold foldCase at h
  split at h
  · rename_i hx
    rw [isAsciiLetter, hx]
    rfl
  · split at h
    · exact absurd h (by decide)
    · split at h
      · exact absurd h (by decide)
      · rw [h]
        decide

theorem letter_at_start_of_handlerName {b : Option Char} {w a : List Char}
    (h : handlerName.Reads b w a) (a' : List Char) : (w ++ a').head?.any isAsciiLetter = true := by
  obtain ⟨on, _, rfl, hon, -⟩ := h
  have hfold := reads_word.1 hon
  cases on with
  | nil => cases hfold
  | cons x on => exact isAsciiLetter_of_foldCase_eq_o (List.cons.inj hfold).1

theorem word_of_letter {x : Option Char} (h : x.any isAsciiLetter = true) :
    x.any isWord = true := by
  cases x with
  | none => cases h
  | some x => exact isWord_of_isAsciiLetter h

/-- **A replacement makes no event handler.** -/
theorem eventHandler_occursIn_of_redactClass {c : PersonalData} {text : List Char}
    (h : eventHandler.occursIn (redactClass c text) = true) : eventHandler.occursIn text = true := by
  obtain ⟨l, _, a, ht, hr⟩ := occursIn_iff.1 h
  obtain ⟨gap, name, rfl, hgap, hb, hname⟩ := reads_eventHandler_iff.1 hr
  have hletter := letter_at_start_of_handlerName hname
  obtain ⟨-, hb⟩ := (reads_boundary_before_word (word_of_letter (hletter a))).1 hb
  have hisPlain : isPlain handlerName = true := by decide +kernel
  obtain ⟨hfree, ho, hc, hn⟩ := isPlain_iff.1 hisPlain
  have hcut := c.cut_pattern text
  -- the name was kept, and so was the start of the tag
  have ht' : filled c.placeholder.toList (c.pattern.segments text) =
      (l ++ '<' :: gap) ++ (name ++ a) := by
    rw [← redactClass_eq, ht]
    simp
  obtain ⟨s', m, hpieces, hs', -⟩ := hname.exists_kept c.bracketed_placeholder ho hc (hn c) ht'
  obtain ⟨s, s', rfl, -, rfl⟩ := filled_eq_append_cons (by cases c <;> decide) hs'
  rw [hpieces] at hcut
  have havoids : c.pattern.avoids '>' = true := by cases c <;> decide +kernel
  have hgap' : '>' ∉ plain s' := by
    refine fun hm => hgap (Cut.mem_filled (s := s ++ [.kept '<']) (t := name.map .kept ++ m)
      havoids ?_ hm)
    simpa using hcut
  -- and no boundary was made between them
  have hb' : (lastOf (some '<') (plain s')).any isWord = false := by
    rcases lastOf_filled c.bracketed_placeholder (some '<') s' with heq | ⟨s₁, w, rfl, -⟩
    · rwa [← heq]
    · have hcut : c.pattern.Cut none
          ((s ++ .kept '<' :: s₁) ++ .found w :: (name.map .kept ++ m)) := by
        simpa using hcut
      have hafter := not_letter_after hcut
      rw [plain_append, plain_map_kept, hletter] at hafter
      cases hafter
  refine occursIn_iff.2 ⟨plain s, '<' :: (plain s' ++ name), plain m, ?_, reads_eventHandler_iff.2
    ⟨plain s', name, rfl, hgap', ?_, hname.of_isFree hfree _ _⟩⟩
  · rw [← plain_segments c.pattern text, hpieces]
    simp
  · exact (reads_boundary_before_word (word_of_letter (hletter _))).2 ⟨rfl, hb'⟩

/-! ## 4. All rules and all classes -/

theorem occursIn_of_redactClass_of_mem {p : Pattern} (hp : p ∈ outputRules) {c : PersonalData}
    {text : List Char} (h : p.occursIn (redactClass c text) = true) : p.occursIn text = true := by
  rcases isPlain_or_eq_eventHandler hp with hp | rfl
  · exact occursIn_of_isPlain hp h
  · exact eventHandler_occursIn_of_redactClass h

theorem reason?_eq_none_iff {d : Direction} {text : String} :
    reason? d text = none ↔ ∀ p ∈ rules d, p.occursIn text.toList ≠ true := by
  have hhits : hits d text = true ↔ ∃ p ∈ rules d, p.occursIn text.toList = true := by
    rw [hits, List.any_eq_true]
  rw [reason?]
  by_cases h : hits d text = true
  · rw [if_pos h]
    obtain ⟨p, hp, hit⟩ := hhits.1 h
    exact ⟨nofun, fun hall => absurd hit (hall p hp)⟩
  · rw [if_neg h]
    exact ⟨fun _ p hp hit => h (hhits.2 ⟨p, hp, hit⟩), fun _ => rfl⟩

theorem reason?_ne_none_iff {d : Direction} {text : String} :
    reason? d text ≠ none ↔ ∃ p ∈ rules d, p.occursIn text.toList = true := by
  rw [ne_eq, reason?_eq_none_iff]
  simp only [not_forall, exists_prop, not_not]

theorem check_eq_allowed_iff {d : Direction} {text : String} :
    check d text = .allowed ↔ reason? d text = none := by
  rw [check]
  cases reason? d text <;> simp [Verdict.block]

/-- **Redaction makes no markup**: there is no reason to reject a redacted text if there was none to
    reject the text. -/
theorem reason?_redact {text : String} (h : reason? .output text = none) :
    reason? .output (redact text) = none := by
  rw [reason?_eq_none_iff] at h ⊢
  intro p hp hit
  rw [toList_redact] at hit
  have back {c : PersonalData} {t : List Char} (h : p.occursIn (redactClass c t) = true) :
      p.occursIn t = true := occursIn_of_redactClass_of_mem hp h
  exact h p hp (back (back (back (back hit))))

end Firewall

end Gatehouse.Safety
