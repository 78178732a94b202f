import Mathlib.Logic.Basic
import Gatehouse.Number.Shortest

/-!
# The shortest decimal is not zero

A number that is not zero is not written as zero (`shortest_ne_zero`): the decimals that round to it
are positive, and whichever neighbour is taken on a decimal grid is one of them.
-/

namespace Gatehouse.Number

theorem dropZeros_ne_zero (steps : Nat) {n : Nat} (h : n ≠ 0) : dropZeros steps n ≠ 0 := by
  induction steps generalizing n with
  | zero => exact h
  | succ steps ih =>
    rw [dropZeros]
    split
    · exact ih (by omega)
    · exact h

theorem pow_ten_ne_zero (k : Nat) : Nat.pow 10 k ≠ 0 := Nat.ne_of_gt (Nat.pow_pos (by decide))

theorem ratio_ne_zero {m : Nat} (h : m ≠ 0) (e : Int) : (ratio m e).1 ≠ 0 := by
  rw [ratio]
  split
  · exact Nat.mul_ne_zero h (Nat.ne_of_gt (Nat.pow_pos (by decide)))
  · exact h

/-- An interval of positive numbers does not hold zero. -/
theorem not_holds_zero {i : Interval} (h : i.low ≠ 0) {den : Nat} (hden : den ≠ 0) :
    i.holds 0 den = false := by
  have hlow : i.low * den ≠ 0 := Nat.mul_ne_zero h hden
  rw [Interval.holds]
  split
  · simp [hlow]
  · simp

theorem low_interval_ne_zero (f : Format) {m : Nat} (h : m ≠ 0) (e : Int) :
    (f.interval m e).low ≠ 0 := by
  unfold Format.interval
  refine ratio_ne_zero ?_ _
  split <;> omega

/-- The lower neighbour is not in such an interval if it is zero. -/
theorem ne_zero_of_holds {i : Interval} (hi : i.low ≠ 0) {q : Nat} {k : Int}
    (h : i.holds (decimalRatio q k).1 (decimalRatio q k).2 = true) : q ≠ 0 := by
  rintro rfl
  have hratio : (decimalRatio 0 k).1 = 0 ∧ (decimalRatio 0 k).2 ≠ 0 := by
    rw [decimalRatio]
    split
    · exact ⟨Nat.zero_mul _, Nat.one_ne_zero⟩
    · exact ⟨rfl, pow_ten_ne_zero _⟩
  rw [hratio.1, not_holds_zero hi hratio.2] at h
  cases h

theorem onGrid_ne_zero {t : Tie} {i : Interval} (hi : i.low ≠ 0) {num den : Nat} {point : Int}
    {count q : Nat} (h : onGrid t i num den point count = some q) : q ≠ 0 := by
  simp only [onGrid] at h
  split at h
  · rename_i hlow hhigh
    cases h
    exact ne_zero_of_holds hi hlow
  · cases h
    exact Nat.succ_ne_zero _
  · cases h
  · rename_i hlow hhigh
    rcases ite_eq_iff.1 h with ⟨-, h⟩ | ⟨-, h⟩
    · cases h
      exact ne_zero_of_holds hi hlow
    · cases h
      exact Nat.succ_ne_zero _

theorem shortestFrom_ne_zero {t : Tie} {i : Interval} (hi : i.low ≠ 0) {num : Nat} (hnum : num ≠ 0)
    (den : Nat) (point : Int) (steps count : Nat) :
    (shortestFrom t i num den point steps count).digits ≠ 0 := by
  induction steps generalizing count with
  | zero => exact hnum
  | succ steps ih =>
    rw [shortestFrom]
    split
    · rename_i q hq
      exact dropZeros_ne_zero 20 (onGrid_ne_zero hi hq)
    · exact ih (count + 1)

/-- **The shortest decimal of a number that is not zero is not zero.** -/
theorem shortest_ne_zero (f : Format) (t : Tie) {m : Nat} (h : m ≠ 0) (e : Int) :
    (f.shortest t m e).digits ≠ 0 :=
  shortestFrom_ne_zero (low_interval_ne_zero f h e) (ratio_ne_zero h e) _ _ 17 1

end Gatehouse.Number
