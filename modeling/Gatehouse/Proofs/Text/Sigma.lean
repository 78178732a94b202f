import Gatehouse.Proofs.Text.LowerCase

/-!
# Words lowered in their place

A word that stands in a text is lowered there between what precedes and what follows it. It comes out
as it does on its own, unless one of its capital sigmas ends a word in the text and does not in the word
alone, or the other way round.

* `lowerWithin` is the lower case of a word in its place, and `lowerFrom_append` the part it has in the
  lower case of the text;
* `lowerWithin_eq_iff`: it is the lower case of the word alone exactly if the sigmas keep their form;
* `keepsSigmas_of_not_mem`, `keepsSigmas_of_apart`: they do if there are none, or if nothing cased stands
  next to the word;
* `infix_lowerChars_of_keepsSigmas`: such a word is found in the lower case of the text.
-/

namespace Gatehouse.Text

/-! ## 1. The lower case of a word in its place -/

/-- The lower case of a word where `before` precedes it, nearest character first, and `after` follows. -/
def lowerWithin (before : List Char) : (word after : List Char) → List Char
  | [], _ => []
  | c :: word, after => lowerCharAt before c (word ++ after) ++ lowerWithin (c :: before) word after

/-- A text is lowered part by part, each in its place. -/
theorem lowerFrom_append (before word after : List Char) : lowerFrom before [] (word ++ after) =
    lowerWithin before word after ++ lowerFrom (word.reverse ++ before) [] after := by
  induction word generalizing before with
  | nil => rfl
  | cons c word ih =>
    rw [List.cons_append, lowerFrom_cons, ih (c :: before), lowerWithin, List.reverse_cons,
      List.append_assoc, List.append_assoc, List.singleton_append]

theorem lowerWithin_alone (word : List Char) : lowerWithin [] word [] = lowerChars word := by
  have h := lowerFrom_append [] word []
  rw [List.append_nil, lowerFrom_nil, List.append_nil] at h
  exact h.symm

/-! ## 2. The form of a sigma -/

/-- **A sigma ends its word**: the nearest character before it that is not case-ignorable is cased, and
    the nearest such character after it is not. -/
def EndsWord (before after : List Char) : Prop :=
  casedNext before = true ∧ casedNext after = false

instance (before after : List Char) : Decidable (EndsWord before after) := instDecidableAnd

/-- **Every capital sigma of the word keeps its form**: it ends a word in the text exactly if it ends
    one in the word alone. -/
def KeepsSigmas (before word after : List Char) : Prop :=
  ∀ u v, word = u ++ '\u03A3' :: v →
    (EndsWord (u.reverse ++ before) (v ++ after) ↔ EndsWord u.reverse v)

theorem lowerCharAt_sigma (before after : List Char) : lowerCharAt before '\u03A3' after =
    if EndsWord before after then ['\u03C2'] else ['\u03C3'] := by
  rw [lowerCharAt, if_pos (by rfl)]
  refine if_congr ?_ rfl rfl
  rw [Bool.and_eq_true, Bool.not_eq_true', EndsWord]

theorem lowerCharAt_of_ne {c : Char} (hc : c ≠ '\u03A3') (before before' after after' : List Char) :
    lowerCharAt before c after = lowerCharAt before' c after' := by
  have hsigma : ¬ (c == '\u03A3') = true := by simpa using hc
  rw [lowerCharAt, if_neg hsigma, lowerCharAt, if_neg hsigma]

theorem lowerCharAt_sigma_inj {before before' after after' : List Char} :
    lowerCharAt before '\u03A3' after = lowerCharAt before' '\u03A3' after' ↔
      (EndsWord before after ↔ EndsWord before' after') := by
  rw [lowerCharAt_sigma, lowerCharAt_sigma]
  by_cases h : EndsWord before after <;> by_cases h' : EndsWord before' after' <;> simp [h, h']

/-- Whatever surrounds a character, its lower case is as long. -/
theorem length_lowerCharAt (before before' : List Char) (c : Char) (after after' : List Char) :
    (lowerCharAt before c after).length = (lowerCharAt before' c after').length := by
  have h := (map_unfinal_lowerCharAt before c after).trans
    (map_unfinal_lowerCharAt before' c after').symm
  simpa using congrArg List.length h

/-- Two places agree on a word exactly if they agree on the form of each of its sigmas. -/
theorem lowerWithin_inj {before before' word after after' : List Char} :
    lowerWithin before word after = lowerWithin before' word after' ↔
      ∀ u v, word = u ++ '\u03A3' :: v →
        (EndsWord (u.reverse ++ before) (v ++ after) ↔
          EndsWord (u.reverse ++ before') (v ++ after')) := by
  induction word generalizing before before' with
  | nil => exact iff_of_true rfl fun u v h => by simp at h
  | cons c word ih =>
    have hsplit : lowerWithin before (c :: word) after = lowerWithin before' (c :: word) after' ↔
        lowerCharAt before c (word ++ after) = lowerCharAt before' c (word ++ after') ∧
          lowerWithin (c :: before) word after = lowerWithin (c :: before') word after' :=
      ⟨fun h => List.append_inj h (length_lowerCharAt ..), fun h => by rw [lowerWithin, h.1, h.2]; rfl⟩
    have hrest : (∀ u v, c :: word = u ++ '\u03A3' :: v →
        (EndsWord (u.reverse ++ before) (v ++ after) ↔
          EndsWord (u.reverse ++ before') (v ++ after'))) ↔
        (c = '\u03A3' → (EndsWord before (word ++ after) ↔ EndsWord before' (word ++ after'))) ∧
          ∀ u v, word = u ++ '\u03A3' :: v →
            (EndsWord (u.reverse ++ c :: before) (v ++ after) ↔
              EndsWord (u.reverse ++ c :: before') (v ++ after')) := by
      constructor
      · intro h
        refine ⟨fun hc => h [] word (by rw [hc]; rfl), fun u v hword => ?_⟩
        have hlater := h (c :: u) v (by rw [hword]; rfl)
        simpa using hlater
      · rintro ⟨hfirst, hlater⟩ u v hword
        cases u with
        | nil =>
          obtain ⟨rfl, rfl⟩ := List.cons.inj hword
          exact hfirst rfl
        | cons x u =>
          obtain ⟨rfl, htail⟩ := List.cons.inj hword
          simpa using hlater u v htail
    rw [hsplit, hrest, ih]
    refine and_congr_left fun _ => ?_
    by_cases hc : c = '\u03A3'
    · subst hc
      rw [lowerCharAt_sigma_inj]
      exact ⟨fun h _ => h, fun h => h rfl⟩
    · exact iff_of_true (lowerCharAt_of_ne hc ..) fun h => absurd h hc

/-- **A word is lowered in its place as on its own** exactly if its sigmas keep their form. -/
theorem lowerWithin_eq_iff {before word after : List Char} :
    lowerWithin before word after = lowerChars word ↔ KeepsSigmas before word after := by
  rw [← lowerWithin_alone, lowerWithin_inj]
  simp only [List.append_nil, KeepsSigmas]

/-! ## 3. Where sigmas keep their form -/

theorem keepsSigmas_of_not_mem {word : List Char} (h : '\u03A3' ∉ word) (before after : List Char) :
    KeepsSigmas before word after := by
  intro u v hword
  exact absurd (by rw [hword]; simp) h

/-- Behind characters that are all passed over it is decided by what follows. -/
theorem casedNext_append_of_not_cased {s : List Char} (h : casedNext s = false) (u : List Char) :
    casedNext (u ++ s) = casedNext u := by
  induction u with
  | nil => exact h
  | cons x u ih =>
    unfold casedNext at ih ⊢
    by_cases hx : isCaseIgnorable x = true
    · rw [List.cons_append, List.dropWhile_cons_of_pos hx, List.dropWhile_cons_of_pos hx]
      exact ih
    · rw [List.cons_append, List.dropWhile_cons_of_neg hx, List.dropWhile_cons_of_neg hx]

/-- **Nothing cased next to the word**: then it makes no difference that it stands in a text. -/
theorem keepsSigmas_of_apart {before after : List Char} (hbefore : casedNext before = false)
    (hafter : casedNext after = false) (word : List Char) : KeepsSigmas before word after := by
  intro u v _
  rw [EndsWord, casedNext_append_of_not_cased hbefore, casedNext_append_of_not_cased hafter, EndsWord]

/-- **A word whose sigmas keep their form is found** in the lower case of the text. -/
theorem infix_lowerChars_of_keepsSigmas {before word after : List Char}
    (h : KeepsSigmas before.reverse word after) :
    lowerChars word <:+: lowerChars (before ++ word ++ after) := by
  have hwhole : lowerChars (before ++ word ++ after) =
      lowerWithin [] before (word ++ after) ++ lowerChars word ++
        lowerFrom (word.reverse ++ before.reverse) [] after := by
    rw [lowerChars, List.append_assoc, lowerFrom_append, List.append_nil, lowerFrom_append,
      lowerWithin_eq_iff.2 h, List.append_assoc]
  rw [hwhole]
  exact List.infix_append _ _ _

end Gatehouse.Text
