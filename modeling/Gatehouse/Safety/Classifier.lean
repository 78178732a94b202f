import Gatehouse.Safety.Verdict
import Gatehouse.Text.Blank
import Gatehouse.Text.LowerCase

/-!
# The content classifier

Topics are recognised by weighted keywords. A text scores in a topic the weights of all keywords of
the topic that occur in its lower-case form, each counted once, wherever they overlap; the first topic,
in order, whose score reaches the threshold of the safety level blocks the text.

A score is added up in 32 bits. Keywords may weigh more than that together: a check that comes to such
a score breaks down.

* `Level` and `Level.threshold`: how much is tolerated;
* `Topic.score?`: the score of a lower-case text, if it has room in 32 bits, and `Topic.score` what it
  is added up to;
* `Classifier.addKeyword`: a new or reweighted keyword of an existing topic;
* `Classifier.check?`: the verdict, if the check does not break down. `Classifier.check?_eq` says that the
  first topic to reach the threshold settles the outcome;
* `Classifier.Sound`: no check breaks down. `sound_ofLevel`: so it is with the topics every classifier
  starts with, and `Level.check` is their verdict.
-/

namespace Gatehouse.Safety

open Gatehouse.Text Gatehouse.Number

/-! ## 1. Safety levels -/

/-- How aggressively content is blocked. -/
inductive Level where
  | strict
  | moderate
  | standard
  deriving DecidableEq, Repr

/-- The word for a level. -/
def Level.name : Level → String
  | .strict => "strict"
  | .moderate => "moderate"
  | .standard => "standard"

/-- The level a name stands for, in any letter case and with blanks around it; an unknown name stands
    for the moderate one. -/
def Level.ofName (name : String) : Level :=
  let name := lower (trim name)
  if name == "strict" then .strict
  else if name == "standard" then .standard
  else .moderate

/-- The score from which on a topic blocks. -/
def Level.threshold : Level → UInt32
  | .strict => 3
  | .moderate => 6
  | .standard => 10

/-! ## 2. Topics -/

/-- A topic with its keywords, in lower case, each with its weight and none of them twice. -/
structure Topic where
  name : String
  keywords : List (String × UInt32)

/-- Does the word occur in the text? -/
def occursIn (word : List Char) : List Char → Bool
  | [] => word.isEmpty
  | c :: text => word.isPrefixOf (c :: text) || occursIn word text

/-- The keywords with a weight set for one of them. -/
def setWeight (word : String) (weight : UInt32) : List (String × UInt32) → List (String × UInt32)
  | [] => [(word, weight)]
  | (w, n) :: rest => if w = word then (w, weight) :: rest else (w, n) :: setWeight word weight rest

/-- Numbers of 32 bits added to a sum, one after the other; `none` if an addition leaves 32 bits, where
    the program breaks down. -/
def addUp : UInt32 → List UInt32 → Option UInt32
  | sum, [] => some sum
  | sum, n :: ns => if sum.toNat + n.toNat < UInt32.size then addUp (sum + n) ns else none

namespace Topic

/-- The keywords of the topic that occur in a text in lower case. -/
def found (t : Topic) (lowered : List Char) : List (String × UInt32) :=
  t.keywords.filter (fun k => occursIn k.1.toList lowered)

/-- The weights of keywords, put together. -/
def weight (keywords : List (String × UInt32)) : Nat :=
  keywords.foldr (fun k sum => k.2.toNat + sum) 0

/-- The weights of the keywords that occur in a text in lower case, put together. -/
def score (t : Topic) (lowered : List Char) : Nat := weight (t.found lowered)

/-- The score of a text in lower case, added up in 32 bits. -/
def score? (t : Topic) (lowered : List Char) : Option UInt32 :=
  addUp 0 ((t.found lowered).map Prod.snd)

/-- The topics and keywords that every classifier starts with. -/
def defaults : List Topic := [
  ⟨"violence", [("murder", 4), ("killing", 3), ("shooting", 3), ("stabbing", 4), ("bomb", 4),
    ("weapon", 3), ("assault", 3), ("torture", 4), ("bloodshed", 3), ("beat up", 3)]⟩,
  ⟨"self_harm", [("suicide", 5), ("self-harm", 5), ("self harm", 5), ("kill myself", 6),
    ("cut myself", 5), ("end my life", 6), ("overdose", 4)]⟩,
  ⟨"explicit", []⟩,
  ⟨"drugs_alcohol", [("cocaine", 4), ("heroin", 4), ("methamphetamine", 4), ("marijuana", 3),
    ("get high", 3), ("vodka", 2), ("whiskey", 2), ("drunk", 2), ("beer", 1)]⟩,
  ⟨"bullying", [("kill yourself", 6), ("nobody likes you", 4), ("worthless", 3), ("loser", 2),
    ("idiot", 2), ("stupid", 1), ("ugly", 1)]⟩]

end Topic

/-! ## 3. The classifier -/

/-- A safety level and the topics to look for, in order. -/
structure Classifier where
  level : Level
  topics : List Topic

namespace Classifier

/-- The classifier of a level with the topics every classifier starts with. -/
def ofLevel (level : Level) : Classifier := ⟨level, Topic.defaults⟩

/-- The topics with a weight set for a keyword of the first of them that has the name; `none` if none
    has it. -/
def setKeyword (topic : String) (word : String) (weight : UInt32) : List Topic → Option (List Topic)
  | [] => none
  | t :: ts =>
    if t.name = topic then some (⟨t.name, setWeight (lower word) weight t.keywords⟩ :: ts)
    else (setKeyword topic word weight ts).map (t :: ·)

/-- The classifier with a keyword added to a topic or reweighted; `none` if there is no such topic. -/
def addKeyword (c : Classifier) (topic word : String) (weight : UInt32) : Option Classifier :=
  (setKeyword topic word weight c.topics).map (fun ts => { c with topics := ts })

/-- How sure a score makes the classifier: a tenth of it, at most one. -/
def scoreConfidence (score : UInt32) : Binary :=
  let tenth := single.divide (single.ofNat false score.toNat) (single.ofNat false 10)
  if tenth.lt certain then tenth else certain

/-- What is said about a topic whose score reaches the threshold. -/
def description (topic : String) (score threshold : UInt32) : String :=
  "Content flagged for " ++ topic ++ " (score " ++ toString score.toNat ++ ", threshold "
    ++ toString threshold.toNat ++ ")"

/-- The verdict on a text whose score in a topic reaches the threshold. -/
def blockFor (threshold : UInt32) (topic : String) (score : UInt32) : Verdict :=
  .block .inappropriate (scoreConfidence score) (description topic score threshold)

/-- The verdict on a text in lower case by topics, earlier ones first. -/
def judge? (threshold : UInt32) (lowered : List Char) : List Topic → Option Verdict
  | [] => some .allowed
  | t :: ts =>
    match t.score? lowered with
    | none => none
    | some score =>
      if threshold ≤ score then some (blockFor threshold t.name score)
      else judge? threshold lowered ts

/-- The verdict on a text, in whichever direction it travels; `none` if the check breaks down. -/
def check? (c : Classifier) (text : String) : Option Verdict :=
  judge? c.level.threshold (lowerChars text.toList) c.topics

/-- **No check breaks down.** -/
def Sound (c : Classifier) : Prop := ∀ text, (c.check? text).isSome = true

end Classifier

/-! ## 4. What a check comes to -/

theorem Topic.weight_cons (k : String × UInt32) (ks : List (String × UInt32)) :
    weight (k :: ks) = k.2.toNat + weight ks := rfl

theorem Topic.weight_le_of_sublist {ks ls : List (String × UInt32)} (h : ks.Sublist ls) :
    weight ks ≤ weight ls := by
  induction h with
  | slnil => exact Nat.le_refl _
  | cons k _ ih =>
    rw [weight_cons]
    omega
  | cons_cons k _ ih =>
    rw [weight_cons, weight_cons]
    omega

/-- A sum has been added up if it has room, and then to what it is. -/
theorem addUp_eq_some_iff {sum n : UInt32} {ks : List (String × UInt32)} :
    addUp sum (ks.map Prod.snd) = some n ↔ n.toNat = sum.toNat + Topic.weight ks := by
  induction ks generalizing sum with
  | nil =>
    rw [List.map_nil, addUp, Option.some.injEq, Topic.weight, List.foldr_nil, Nat.add_zero,
      UInt32.toNat_inj, eq_comm]
  | cons k ks ih =>
    rw [List.map_cons, addUp, Topic.weight_cons]
    by_cases hroom : sum.toNat + k.2.toNat < UInt32.size
    · rw [if_pos hroom, ih, UInt32.toNat_add, Nat.mod_eq_of_lt hroom, Nat.add_assoc]
    · have hn : n.toNat < UInt32.size := n.toNat_lt_size
      rw [if_neg hroom]
      constructor
      · exact nofun
      · omega

namespace Topic

variable {t : Topic} {lowered : List Char}

/-- **The score that is added up in 32 bits is the score.** -/
theorem score?_eq_some_iff {n : UInt32} :
    t.score? lowered = some n ↔ n.toNat = t.score lowered := by
  rw [score?, addUp_eq_some_iff, score, UInt32.toNat_zero, Nat.zero_add]

/-- It is there if it has room. -/
theorem score?_eq_none_iff : t.score? lowered = none ↔ UInt32.size ≤ t.score lowered := by
  constructor
  · intro h
    refine Nat.le_of_not_lt fun hroom => ?_
    have hsome : t.score? lowered = some (UInt32.ofNat (t.score lowered)) :=
      score?_eq_some_iff.2 (UInt32.toNat_ofNat_of_lt hroom)
    rw [h] at hsome
    cases hsome
  · intro h
    cases hscore : t.score? lowered with
    | none => rfl
    | some n =>
      have hn : n.toNat < UInt32.size := n.toNat_lt_size
      rw [score?_eq_some_iff.1 hscore] at hn
      exact absurd hn (Nat.not_lt.2 h)

/-- A score is not higher than all keywords together. -/
theorem score_le_weight (t : Topic) (lowered : List Char) : t.score lowered ≤ weight t.keywords :=
  weight_le_of_sublist List.filter_sublist

/-- The keywords that every classifier starts with have room in 32 bits, topic by topic. -/
theorem weight_lt_of_mem_defaults (ht : t ∈ defaults) : weight t.keywords < UInt32.size := by
  revert t
  decide

/-- So their scores are there. -/
theorem exists_score?_of_mem_defaults (ht : t ∈ defaults) (lowered : List Char) :
    ∃ n, t.score? lowered = some n := by
  have hle := t.score_le_weight lowered
  have hroom := weight_lt_of_mem_defaults ht
  rw [← Option.isSome_iff_exists, Option.isSome_iff_ne_none, ne_eq, score?_eq_none_iff]
  omega

end Topic

namespace Classifier

/-- The first topic whose score of a text reaches the threshold. -/
def firstReaching (c : Classifier) (text : String) : Option Topic :=
  c.topics.find? (fun t => c.level.threshold.toNat ≤ t.score (lowerChars text.toList))

/-- **The first topic to reach the threshold settles the outcome**: a sum that leaves 32 bits reaches
    every threshold. -/
theorem check?_eq (c : Classifier) (text : String) : c.check? text =
    (c.firstReaching text).elim (some .allowed) (fun t =>
      (t.score? (lowerChars text.toList)).map (blockFor c.level.threshold t.name)) := by
  obtain ⟨level, topics⟩ := c
  unfold check? firstReaching
  induction topics with
  | nil => rfl
  | cons t ts ih =>
    have hsize : level.threshold.toNat < UInt32.size := level.threshold.toNat_lt_size
    rw [judge?, List.find?_cons]
    cases hscore : t.score? (lowerChars text.toList) with
    | none =>
      have hover := Topic.score?_eq_none_iff.1 hscore
      have hreached : level.threshold.toNat ≤ t.score (lowerChars text.toList) := by omega
      simp [hreached, hscore]
    | some n =>
      rw [← Topic.score?_eq_some_iff.1 hscore]
      by_cases hreached : level.threshold ≤ n
      · simp [hreached, UInt32.le_iff_toNat_le.1 hreached, hscore]
      · have hbelow : ¬ level.threshold.toNat ≤ n.toNat := fun h =>
          hreached (UInt32.le_iff_toNat_le.2 h)
        simpa [hreached, hbelow] using ih

section Outcomes

variable {c : Classifier} {text : String}

/-- **A text is allowed if no topic reaches the threshold.** -/
theorem check?_eq_allowed_iff : c.check? text = some .allowed ↔
    ∀ t ∈ c.topics, t.score (lowerChars text.toList) < c.level.threshold.toNat := by
  have hnone : c.firstReaching text = none ↔
      ∀ t ∈ c.topics, t.score (lowerChars text.toList) < c.level.threshold.toNat := by
    simp [firstReaching]
  rw [check?_eq, ← hnone]
  cases c.firstReaching text with
  | none => simp
  | some t => simp [blockFor, Verdict.block]

/-- The check breaks down if the first topic that does has no room for its score. -/
theorem check?_eq_none_iff : c.check? text = none ↔
    ∃ t, c.firstReaching text = some t ∧ UInt32.size ≤ t.score (lowerChars text.toList) := by
  rw [check?_eq]
  cases c.firstReaching text with
  | none => simp
  | some t => simp [Topic.score?_eq_none_iff]

/-- Otherwise the text is blocked for that topic, with its score. -/
theorem check?_eq_blocked_iff {f : Finding} : c.check? text = some (.blocked f) ↔
    ∃ t n, c.firstReaching text = some t ∧ t.score? (lowerChars text.toList) = some n ∧
      blockFor c.level.threshold t.name n = .blocked f := by
  rw [check?_eq]
  cases c.firstReaching text with
  | none => simp
  | some t => simp

/-- **A text is blocked if the first topic to reach the threshold has room for its score.** -/
theorem blocked_iff : (∃ f, c.check? text = some (.blocked f)) ↔
    ∃ t, c.firstReaching text = some t ∧ t.score (lowerChars text.toList) < UInt32.size := by
  rw [check?_eq]
  cases c.firstReaching text with
  | none => simp
  | some t =>
    simp only [Option.elim_some, Option.some.injEq, exists_eq_left']
    cases hscore : t.score? (lowerChars text.toList) with
    | none => simpa using Topic.score?_eq_none_iff.1 hscore
    | some n =>
      have hn : n.toNat < UInt32.size := n.toNat_lt_size
      rw [← Topic.score?_eq_some_iff.1 hscore]
      exact iff_of_true ⟨_, rfl⟩ hn

/-- **A classifier is sound where the keywords of each topic have room in 32 bits together.** -/
theorem sound_of_weight_lt (h : ∀ t ∈ c.topics, Topic.weight t.keywords < UInt32.size) :
    c.Sound := by
  intro text
  rw [Option.isSome_iff_ne_none]
  intro hnone
  obtain ⟨t, hfirst, hover⟩ := check?_eq_none_iff.1 hnone
  have hroom := h t (List.mem_of_find?_eq_some hfirst)
  have hle := t.score_le_weight (lowerChars text.toList)
  omega

end Outcomes

theorem sound_ofLevel (level : Level) : (ofLevel level).Sound :=
  sound_of_weight_lt fun _ ht => Topic.weight_lt_of_mem_defaults ht

end Classifier

/-- The verdict of the classifier of a level. -/
def Level.check (level : Level) (text : String) : Verdict :=
  ((Classifier.ofLevel level).check? text).get (Classifier.sound_ofLevel level text)

theorem Level.check_eq_iff {level : Level} {text : String} {v : Verdict} :
    level.check text = v ↔ (Classifier.ofLevel level).check? text = some v := by
  rw [Level.check, ← Option.some_inj, Option.some_get]

end Gatehouse.Safety
