import Gatehouse.Proofs.Safety.Keywords
import Gatehouse.Proofs.Text.Sigma

/-!
# Whether an added keyword is found

A keyword and a text are lowered apart from each other, and the weights of a topic are added up in 32
bits. So a keyword that stands in a text as it was added, with all the weight it takes, need not get the
text blocked.

* `Topic.score_setWeight`: what a keyword that is added changes in the score of its topic, and
  `scoresWith`: what the topics score with it;
* `addedKeyword_blocks_iff`: when a text with the keyword in it is blocked. It is if each capital sigma of
  the keyword keeps its form and the weights have room;
* `addedKeyword_missed`: a stem that is not found in its word.
-/

namespace Gatehouse.Safety

open Gatehouse.Text

/-! ## 1. What the keyword adds -/

/-- **The word stands in the text**, both in lower case. -/
def StandsIn (word text : String) : Prop := (lower word).toList <:+: (lower text).toList

instance (word text : String) : Decidable (StandsIn word text) :=
  inferInstanceAs (Decidable (_ <:+: _))

theorem occursIn_iff_standsIn {word text : String} :
    occursIn (lower word).toList (lowerChars text.toList) = true ↔ StandsIn word text := by
  rw [occursIn_iff_isInfix, StandsIn, lower, lower, String.toList_ofList, String.toList_ofList]

/-- **A word that was added stands in a text with the word in it**, if its sigmas keep their form. -/
theorem standsIn_of_keepsSigmas {before word after : String}
    (h : KeepsSigmas before.toList.reverse word.toList after.toList) :
    StandsIn word (before ++ word ++ after) := by
  have hfound := infix_lowerChars_of_keepsSigmas h
  rw [StandsIn, lower, lower, String.toList_ofList, String.toList_ofList, String.toList_append,
    String.toList_append]
  exact hfound

/-- The topic without its entry for a word. -/
def Topic.without (t : Topic) (word : String) : Topic :=
  ⟨t.name, t.keywords.eraseP (fun k => k.1 == word)⟩

theorem Topic.score_cons (name : String) (k : String × UInt32) (ks : List (String × UInt32))
    (lowered : List Char) : score ⟨name, k :: ks⟩ lowered =
      (if occursIn k.1.toList lowered then k.2.toNat else 0) + score ⟨name, ks⟩ lowered := by
  by_cases hk : occursIn k.1.toList lowered = true
  · have hfound : found ⟨name, k :: ks⟩ lowered = k :: found ⟨name, ks⟩ lowered :=
      List.filter_cons_of_pos hk
    rw [score, hfound, weight_cons, if_pos hk, score]
  · have hfound : found ⟨name, k :: ks⟩ lowered = found ⟨name, ks⟩ lowered :=
      List.filter_cons_of_neg hk
    rw [score, hfound, if_neg hk, Nat.zero_add, score]

/-- **The score is what the word adds and what the other words score.** -/
theorem Topic.score_setWeight (t : Topic) (word : String) (weight : UInt32) (lowered : List Char) :
    score ⟨t.name, setWeight word weight t.keywords⟩ lowered =
      (if occursIn word.toList lowered then weight.toNat else 0) +
        (t.without word).score lowered := by
  obtain ⟨name, keywords⟩ := t
  show score ⟨name, setWeight word weight keywords⟩ lowered =
    (if occursIn word.toList lowered then weight.toNat else 0) +
      score ⟨name, keywords.eraseP (fun k => k.1 == word)⟩ lowered
  induction keywords with
  | nil => rw [setWeight, score_cons, List.eraseP_nil]
  | cons k keywords ih =>
    obtain ⟨w, n⟩ := k
    rw [setWeight]
    by_cases hw : w = word
    · rw [if_pos hw, List.eraseP_cons_of_pos (by simpa using hw), score_cons, hw]
    · rw [if_neg hw, List.eraseP_cons_of_neg (by simpa using hw), score_cons, score_cons, ih,
        Nat.add_left_comm]

/-! ## 2. Verdicts -/

namespace Classifier

/-- **What topics score**, first one first, when a word has been added with a weight to one of them. -/
def scoresWith (word : String) (weight : UInt32) (earlier : List Topic) (t : Topic)
    (later : List Topic) (text : String) : List Nat :=
  let lowered := lowerChars text.toList
  earlier.map (·.score lowered) ++
    ((if StandsIn word text then weight.toNat else 0) + (t.without (lower word)).score lowered) ::
      later.map (·.score lowered)

/-- The first topic to reach the threshold scores the first score that does. -/
theorem firstReaching_scoresWith (level : Level) (word : String) (weight : UInt32)
    (earlier : List Topic) (t : Topic) (later : List Topic) (text : String) :
    (firstReaching ⟨level, earlier ++ ⟨t.name, setWeight (lower word) weight t.keywords⟩ :: later⟩
        text).map (·.score (lowerChars text.toList)) =
      (scoresWith word weight earlier t later text).find? (level.threshold.toNat ≤ ·) := by
  have hscores : (earlier ++ ⟨t.name, setWeight (lower word) weight t.keywords⟩ :: later).map
      (·.score (lowerChars text.toList)) = scoresWith word weight earlier t later text := by
    rw [List.map_append, List.map_cons, Topic.score_setWeight,
      if_congr occursIn_iff_standsIn rfl rfl]
    rfl
  rw [← hscores, List.find?_map]
  rfl

/-- The first score to reach the threshold has room if that of the word does, and those of the topics in
    front of it. -/
theorem exists_find?_scoresWith {threshold : Nat} {word : String} {weight : UInt32}
    {earlier : List Topic} {t : Topic} {later : List Topic} {text : String}
    (hstands : StandsIn word text) (hweight : threshold ≤ weight.toNat)
    (hearlier : ∀ u ∈ earlier, u.score (lowerChars text.toList) < 2 ^ 32)
    (hroom : weight.toNat + (t.without (lower word)).score (lowerChars text.toList) < 2 ^ 32) :
    ∃ n, (scoresWith word weight earlier t later text).find? (threshold ≤ ·) = some n ∧
      n < 2 ^ 32 := by
  unfold scoresWith
  rw [List.find?_append, if_pos hstands]
  cases hfirst : (earlier.map (·.score (lowerChars text.toList))).find? (threshold ≤ ·) with
  | some n =>
    obtain ⟨u, hu, rfl⟩ := List.mem_map.1 (List.mem_of_find?_eq_some hfirst)
    exact ⟨_, rfl, hearlier u hu⟩
  | none =>
    have hreached := Nat.le_add_right_of_le
      (k := (t.without (lower word)).score (lowerChars text.toList)) hweight
    exact ⟨_, by simp [hreached], hroom⟩

/-- **When a text with an added keyword in it is blocked.** The keyword weighs enough to block a text
    alone. The check is settled by the first topic to reach the threshold, where the topic of the keyword
    scores the weight of the keyword, in case it stands in the text when both are lowered, and the
    weights of the other words found. The text is blocked exactly if that score has room in 32 bits, and
    the check breaks down exactly if it has not.

    So the text is blocked whenever each capital sigma of the keyword ends a word in the text exactly if
    it does in the keyword, and there is room for the score of its topic and of those in front of it. The
    first is no matter for a keyword without a capital sigma, nor where nothing cased stands next to the
    keyword. -/
theorem addedKeyword_blocks_iff {c c' : Classifier} {topic word : String} {weight : UInt32}
    (hadded : c.addKeyword topic word weight = some c') (hweight : c.level.threshold ≤ weight)
    {before text after : String} (htext : text = before ++ word ++ after) :
    (∃ earlier t later, c.topics = earlier ++ t :: later ∧ t.name = topic ∧
      (∀ u ∈ earlier, u.name ≠ topic) ∧
      ((∃ f, c'.check? text = some (.blocked f)) ↔
        ∃ n, (scoresWith word weight earlier t later text).find? (c.level.threshold.toNat ≤ ·) =
          some n ∧ n < 2 ^ 32) ∧
      (c'.check? text = none ↔
        ∃ n, (scoresWith word weight earlier t later text).find? (c.level.threshold.toNat ≤ ·) =
          some n ∧ 2 ^ 32 ≤ n) ∧
      (KeepsSigmas before.toList.reverse word.toList after.toList →
        (∀ u ∈ earlier, u.score (lowerChars text.toList) < 2 ^ 32) →
        weight.toNat + (t.without (lower word)).score (lowerChars text.toList) < 2 ^ 32 →
        ∃ f, c'.check? text = some (.blocked f))) ∧
    ('\u03A3' ∉ word.toList ∨
        casedNext before.toList.reverse = false ∧ casedNext after.toList = false →
      KeepsSigmas before.toList.reverse word.toList after.toList) := by
  obtain ⟨ts, hts, rfl⟩ := Option.map_eq_some_iff.1 hadded
  obtain ⟨earlier, t, later, htopics, ht, hearlier, rfl⟩ := setKeyword_eq_some hts
  have hfirst := firstReaching_scoresWith c.level word weight earlier t later text
  have hblocked : (∃ f, check? ⟨c.level,
        earlier ++ ⟨t.name, setWeight (lower word) weight t.keywords⟩ :: later⟩ text =
          some (.blocked f)) ↔
      ∃ n, (scoresWith word weight earlier t later text).find? (c.level.threshold.toNat ≤ ·) =
        some n ∧ n < 2 ^ 32 := by
    rw [blocked_iff, ← hfirst]
    simp only [Option.map_eq_some_iff, exists_exists_and_eq_and]
    rfl
  refine ⟨⟨earlier, t, later, htopics, ht, hearlier, hblocked, ?down, ?found⟩, ?sigmas⟩
  case down =>
    rw [check?_eq_none_iff, ← hfirst]
    simp only [Option.map_eq_some_iff, exists_exists_and_eq_and]
    rfl
  case found =>
    intro hkeeps hbefore hroom
    have hstands : StandsIn word text := by
      rw [htext]
      exact standsIn_of_keepsSigmas hkeeps
    exact hblocked.2
      (exists_find?_scoresWith hstands (UInt32.le_iff_toNat_le.1 hweight) hbefore hroom)
  case sigmas =>
    intro h
    rcases h with hnone | ⟨hbefore, hafter⟩
    · exact keepsSigmas_of_not_mem hnone _ _
    · exact keepsSigmas_of_apart hbefore hafter _

/-- The stem of the Greek word for blackmail stands alone between a blank and a comma. -/
theorem addedKeyword_blocks_iff_stem :
    ∃ c', (ofLevel .strict).addKeyword "violence" "ΕΚΒΙΑΣ" 3 = some c' ∧
      (ofLevel .strict).level.threshold ≤ 3 ∧
      "ΟΧΙ ΕΚΒΙΑΣ, ΟΧΙ" = "ΟΧΙ " ++ "ΕΚΒΙΑΣ" ++ ", ΟΧΙ" ∧
      ∃ f, c'.check? "ΟΧΙ ΕΚΒΙΑΣ, ΟΧΙ" = some (.blocked f) := by
  have hweight : (ofLevel .strict).level.threshold ≤ 3 := by decide
  have htext : "ΟΧΙ ΕΚΒΙΑΣ, ΟΧΙ" = "ΟΧΙ " ++ "ΕΚΒΙΑΣ" ++ ", ΟΧΙ" := by decide +kernel
  have hrooms : ∀ t ∈ Topic.defaults, t.score (lowerChars "ΟΧΙ ΕΚΒΙΑΣ, ΟΧΙ".toList) < 2 ^ 32 ∧
      (3 : UInt32).toNat + (t.without (lower "ΕΚΒΙΑΣ")).score
        (lowerChars "ΟΧΙ ΕΚΒΙΑΣ, ΟΧΙ".toList) < 2 ^ 32 := by
    decide +kernel
  have hapart : casedNext "ΟΧΙ ".toList.reverse = false ∧ casedNext ", ΟΧΙ".toList = false := by
    decide +kernel
  cases hadded : (ofLevel .strict).addKeyword "violence" "ΕΚΒΙΑΣ" 3 with
  | none =>
    have hsome : ((ofLevel .strict).addKeyword "violence" "ΕΚΒΙΑΣ" 3).isSome = true := by
      decide +kernel
    rw [hadded] at hsome
    cases hsome
  | some c' =>
    obtain ⟨⟨earlier, t, later, htopics, -, -, -, -, hblocks⟩, hkeeps⟩ :=
      addedKeyword_blocks_iff hadded hweight htext
    have hmem : ∀ u, u ∈ earlier ++ t :: later → u ∈ Topic.defaults := fun u hu => by
      have hall : Topic.defaults = earlier ++ t :: later := htopics
      rwa [hall]
    have ht : t ∈ Topic.defaults := hmem t (by simp)
    have hearlier : ∀ u ∈ earlier, u.score (lowerChars "ΟΧΙ ΕΚΒΙΑΣ, ΟΧΙ".toList) < 2 ^ 32 :=
      fun u hu => (hrooms u (hmem u (List.mem_append_left _ hu))).1
    exact ⟨c', rfl, hweight, htext, hblocks (hkeeps (.inr hapart)) hearlier (hrooms t ht).2⟩

/-- **A stem is not found in its word.** The sigma that the stem ends with does not end the word, so that
    it is lowered to another form. -/
theorem addedKeyword_missed :
    Level.strict.threshold ≤ 3 ∧ "ΕΚΒΙΑΣΜΟΣ" = "" ++ "ΕΚΒΙΑΣ" ++ "ΜΟΣ" ∧
      ((ofLevel .strict).addKeyword "violence" "ΕΚΒΙΑΣ" 3).bind (·.check? "ΕΚΒΙΑΣΜΟΣ") =
        some .allowed := by
  decide +kernel

end Classifier

end Gatehouse.Safety
