import Mathlib.Algebra.Order.BigOperators.Group.Finset
import Gatehouse.Proofs.Safety.Keywords

/-!
# Scores that leave 32 bits

Any number of keywords can be added, each with any weight of 32 bits, and a score is added up in 32 bits
over those that a text holds. So the sum need not have room.

* `Topic.HasRoom` says that no addition on the way to a score leaves 32 bits; it does not depend on the
  order of the additions (`Topic.hasRoom_iff`);
* `score_exact_iff`: a score is added up, and is the exact score, if and only if there is room. The first
  topic whose exact score reaches the threshold gets the text blocked if it has room, and breaks the
  check down if not;
* `score_breaks_down`: two keywords that have no room together.
-/

namespace Gatehouse.Safety

open Gatehouse.Text

/-! ## 1. Room -/

namespace Topic

/-- **No addition leaves 32 bits.** In whatever order the weights of the words that stand in a text are
    added up, each sum on the way is the sum of some of them. -/
def HasRoom (entries : List (String × UInt32)) (text : String) : Prop :=
  ∀ ws ⊆ (words entries).filter (fun w => w.toList <:+: (lower text).toList),
    ∑ w ∈ ws, (lastWeight entries w).toNat < 2 ^ 32

/-- There is room on the way if there is room at the end. -/
theorem hasRoom_iff (entries : List (String × UInt32)) (text : String) :
    HasRoom entries text ↔ exactScore entries text < 2 ^ 32 := by
  constructor
  · intro h
    exact h _ (Finset.Subset.refl _)
  · intro h ws hws
    have hle : ∑ w ∈ ws, (lastWeight entries w).toNat ≤ exactScore entries text :=
      Finset.sum_le_sum_of_subset hws
    exact Nat.lt_of_le_of_lt hle h

end Topic

/-! ## 2. Scores -/

namespace Classifier

/-- **A topic comes to a score if and only if there is room.** -/
theorem score?_extendedTopic_eq_none_iff (t : Topic) (added : List Keyword) (text : String) :
    (extendedTopic added t).score? (lowerChars text.toList) = none ↔
      ¬ Topic.HasRoom (t.history added) text := by
  rw [Topic.score?_eq_none_iff, score_extendedTopic, Topic.hasRoom_iff, Nat.not_lt]
  rfl

/-- **When the scores of a classifier are exact.** Whatever keywords were added with whatever weights,
    each topic comes to a score if no addition leaves 32 bits, and breaks down otherwise; the score it
    comes to is the exact score, and there is room if that is below 2^32.

    The check is settled by the first topic whose exact score reaches the threshold: the text is blocked
    if that has room, and the check breaks down if not; without such a topic the text is allowed. So
    where all topics have room, a text whose exact score reaches the threshold is blocked. -/
theorem score_exact_iff (level : Level) (added : List Keyword) (text : String) :
    List.Forall₂ (fun t u => u.name = t.name ∧
        (u.score? (lowerChars text.toList) = none ↔ ¬ Topic.HasRoom (t.history added) text) ∧
        (∀ n, u.score? (lowerChars text.toList) = some n →
          n.toNat = Topic.exactScore (t.history added) text) ∧
        (Topic.HasRoom (t.history added) text ↔
          Topic.exactScore (t.history added) text < 2 ^ 32))
      Topic.defaults (extended level added).topics ∧
    ((extended level added).check? text = none ↔
      ∃ t, firstExact level added text = some t ∧ ¬ Topic.HasRoom (t.history added) text) ∧
    ((∃ f, (extended level added).check? text = some (.blocked f)) ↔
      ∃ t, firstExact level added text = some t ∧ Topic.HasRoom (t.history added) text) ∧
    ((extended level added).check? text = some .allowed ↔
      ∀ t ∈ Topic.defaults, Topic.exactScore (t.history added) text < level.threshold.toNat) ∧
    ((∀ t ∈ Topic.defaults, Topic.HasRoom (t.history added) text) →
      (∃ t ∈ Topic.defaults, level.threshold.toNat ≤ Topic.exactScore (t.history added) text) →
      ∃ f, (extended level added).check? text = some (.blocked f)) := by
  have hblocked : (∃ f, (extended level added).check? text = some (.blocked f)) ↔
      ∃ t, firstExact level added text = some t ∧ Topic.HasRoom (t.history added) text := by
    rw [blocked_iff, firstReaching_extended]
    simp only [Option.map_eq_some_iff, exists_exists_and_eq_and, score_extendedTopic,
      Topic.hasRoom_iff]
    rfl
  refine ⟨?scores, ?down, hblocked, check?_extended_eq_allowed_iff level added text, ?room⟩
  case scores =>
    rw [extended_eq, List.forall₂_map_right_iff, List.forall₂_same]
    intro t _
    refine ⟨rfl, score?_extendedTopic_eq_none_iff t added text, fun n hn => ?_,
      Topic.hasRoom_iff _ _⟩
    rw [Topic.score?_eq_some_iff.1 hn, score_extendedTopic]
  case down =>
    rw [check?_eq_none_iff, firstReaching_extended]
    simp only [Option.map_eq_some_iff, exists_exists_and_eq_and, score_extendedTopic,
      Topic.hasRoom_iff, Nat.not_lt]
    rfl
  case room =>
    intro hroom hreached
    cases hfirst : firstExact level added text with
    | none =>
      obtain ⟨t, ht, hle⟩ := hreached
      exact absurd (decide_eq_true hle) (List.find?_eq_none.1 hfirst t ht)
    | some t => exact hblocked.2 ⟨t, hfirst, hroom t (List.mem_of_find?_eq_some hfirst)⟩

/-- A keyword with the largest weight there is. -/
def heaviest : List Keyword := [⟨"explicit", "nsfw", 4294967295⟩]

/-- The largest weight has room alone. -/
theorem score_exact_of_heaviest :
    (∀ t ∈ Topic.defaults, Topic.HasRoom (t.history heaviest) "an NSFW text") ∧
      (∃ t ∈ Topic.defaults, Level.standard.threshold.toNat ≤
        Topic.exactScore (t.history heaviest) "an NSFW text") ∧
      ∃ f, (extended .standard heaviest).check? "an NSFW text" = some (.blocked f) := by
  have hscores : ∀ t ∈ Topic.defaults,
      Topic.exactScore (t.history heaviest) "an NSFW text" < 2 ^ 32 := by
    decide +kernel
  have hroom : ∀ t ∈ Topic.defaults, Topic.HasRoom (t.history heaviest) "an NSFW text" :=
    fun t ht => (Topic.hasRoom_iff _ _).2 (hscores t ht)
  have hreached : ∃ t ∈ Topic.defaults, Level.standard.threshold.toNat ≤
      Topic.exactScore (t.history heaviest) "an NSFW text" := by
    decide +kernel
  obtain ⟨-, -, -, -, hblocks⟩ := score_exact_iff .standard heaviest "an NSFW text"
  exact ⟨hroom, hreached, hblocks hroom hreached⟩

/-- **A check breaks down.** A text with the heaviest keyword is blocked at every level. One that has
    another keyword besides, of weight one, gets no verdict at any level. -/
theorem score_breaks_down :
    (∃ t ∈ Topic.defaults,
      Topic.exactScore (t.history (heaviest ++ [⟨"explicit", "xxx", 1⟩])) "nsfw xxx" = 2 ^ 32) ∧
    ∀ level ∈ [Level.strict, .moderate, .standard],
      ((extended level (heaviest ++ [⟨"explicit", "xxx", 1⟩])).check? "nsfw").map Verdict.action =
        some .blocked ∧
      (extended level (heaviest ++ [⟨"explicit", "xxx", 1⟩])).check? "nsfw xxx" = none := by
  decide +kernel

end Classifier

end Gatehouse.Safety
