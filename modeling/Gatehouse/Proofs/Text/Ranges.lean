import Mathlib.Data.List.Chain
import Gatehouse.Text.Blank
import Gatehouse.Text.WordChar

/-!
# Boundary lists as unions of ranges

* `rank_spec`: halving finds the place of a code point among ascending bounds;
* `contains_iff`: the characters of a set are those of its ranges, if the bounds ascend and are even
  in number;
* from comparing ranges: every digit is part of words (`isWord_of_isDigit`), and nothing blank is
  (`isWord_eq_false_of_isBlank`).
-/

namespace Gatehouse.Text

namespace CodePointSet

/-! ## 1. Halving -/

/-- Is each number larger than the one before it? -/
def ascends : List Nat → Bool
  | x :: y :: rest => decide (x < y) && ascends (y :: rest)
  | _ => true

theorem pairwise_of_ascends {l : List Nat} (h : ascends l = true) : l.Pairwise (· < ·) := by
  rw [← List.isChain_iff_pairwise]
  induction l with
  | nil => exact .nil
  | cons x l ih =>
    cases l with
    | nil => exact .singleton x
    | cons y l =>
      rw [ascends, Bool.and_eq_true, decide_eq_true_eq] at h
      exact .cons_cons h.1 (ih h.2)

theorem getD_lt_of_ascends {bounds : Array Nat} (h : ascends bounds.toList = true) {i j : Nat}
    (hij : i < j) (hj : j < bounds.size) : bounds.getD i 0 < bounds.getD j 0 := by
  have hlt := List.pairwise_iff_getElem.1 (pairwise_of_ascends h) i j (by simp; omega)
    (by simpa using hj) hij
  simpa [Array.getD, hj, Nat.lt_trans hij hj] using hlt

/-- `r` is the place of `n` among the bounds: those before it are at most `n`, the others larger. -/
def PlaceOf (bounds : Array Nat) (n r : Nat) : Prop :=
  r ≤ bounds.size ∧ (∀ i, i < r → bounds.getD i 0 ≤ n) ∧
    ∀ i, r ≤ i → i < bounds.size → n < bounds.getD i 0

/-- **Halving finds the place**, if it lies between the ends of the interval. -/
theorem rank_spec {bounds : Array Nat} (h : ascends bounds.toList = true) (n steps lo hi : Nat)
    (hhi : hi ≤ bounds.size) (hlo : lo ≤ hi) (hsteps : hi - lo ≤ steps)
    (hbelow : ∀ i, i < lo → bounds.getD i 0 ≤ n)
    (habove : ∀ i, hi ≤ i → i < bounds.size → n < bounds.getD i 0) :
    PlaceOf bounds n (rank bounds n steps lo hi) := by
  induction steps generalizing lo hi with
  | zero =>
    obtain rfl : lo = hi := by omega
    exact ⟨hhi, hbelow, habove⟩
  | succ steps ih =>
    rw [rank]
    by_cases hlt : lo < hi
    · rw [if_pos hlt]
      have hmid : (lo + hi) / 2 < hi := by omega
      by_cases hle : bounds.getD ((lo + hi) / 2) 0 ≤ n
      · rw [if_pos hle]
        refine ih _ hi hhi (by omega) (by omega) ?_ habove
        intro i hi'
        rcases Nat.lt_succ_iff_lt_or_eq.1 hi' with hi' | rfl
        · exact Nat.le_trans (Nat.le_of_lt (getD_lt_of_ascends h hi' (by omega))) hle
        · exact hle
      · rw [if_neg hle]
        refine ih lo _ (by omega) (by omega) (by omega) hbelow ?_
        intro i hi' hsize
        rcases Nat.lt_or_eq_of_le hi' with hi' | rfl
        · exact Nat.lt_trans (Nat.lt_of_not_le hle) (getD_lt_of_ascends h hi' hsize)
        · exact Nat.lt_of_not_le hle
    · rw [if_neg hlt]
      obtain rfl : lo = hi := by omega
      exact ⟨hhi, hbelow, habove⟩

/-! ## 2. Ranges -/

/-- The code points `lo`, `lo + 1`, … below `hi`, for each two bounds. -/
def pairUp : List Nat → List (Nat × Nat)
  | lo :: hi :: rest => (lo, hi) :: pairUp rest
  | _ => []

/-- The ranges of a set. -/
def ranges (s : CodePointSet) : List (Nat × Nat) := pairUp s.bounds.toList

/-- Is the code point in one of the ranges? -/
def InRanges (rs : List (Nat × Nat)) (n : Nat) : Prop := ∃ r ∈ rs, r.1 ≤ n ∧ n < r.2

theorem mem_pairUp {l : List Nat} {r : Nat × Nat} :
    r ∈ pairUp l ↔ ∃ k, l[2 * k]? = some r.1 ∧ l[2 * k + 1]? = some r.2 := by
  induction l using pairUp.induct with
  | case1 lo hi rest ih =>
    rw [pairUp, List.mem_cons, ih]
    constructor
    · intro h
      rcases h with rfl | ⟨k, hk⟩
      · exact ⟨0, rfl, rfl⟩
      · exact ⟨k + 1, hk⟩
    · intro h
      obtain ⟨k, h₁, h₂⟩ := h
      cases k with
      | zero =>
        obtain rfl : lo = r.1 := by simpa using h₁
        obtain rfl : hi = r.2 := by simpa using h₂
        exact .inl rfl
      | succ k => exact .inr ⟨k, h₁, h₂⟩
  | case2 l hl =>
    have hlen : l.length ≤ 1 := by
      rcases l with - | ⟨x, - | ⟨y, l⟩⟩
      · simp
      · simp
      · exact absurd rfl (hl x y l)
    rw [pairUp]
    · simp only [List.not_mem_nil, false_iff, not_exists, not_and]
      intro k h₁ h₂
      have := (List.getElem?_eq_some_iff.1 h₂).1
      omega
    · exact hl

/-- **The characters of a set are those of its ranges.** -/
theorem contains_iff {s : CodePointSet} (h : ascends s.bounds.toList = true)
    (heven : s.bounds.size % 2 = 0) (c : Char) : s.contains c = true ↔ InRanges s.ranges c.toNat := by
  obtain ⟨hsize, hbelow, habove⟩ := rank_spec h c.toNat s.bounds.size 0 s.bounds.size
    (Nat.le_refl _) (Nat.zero_le _) (Nat.le_refl _) (by simp) (fun i h₁ h₂ => by omega)
  rw [contains, beq_iff_eq]
  generalize rank s.bounds c.toNat s.bounds.size 0 s.bounds.size = r at hsize hbelow habove
  have hget : ∀ i (hi : i < s.bounds.size), s.bounds.toList[i]? = some (s.bounds.getD i 0) := by
    intro i hi
    simp [Array.getD, hi]
  constructor
  · intro hodd
    refine ⟨(s.bounds.getD (r - 1) 0, s.bounds.getD r 0), ?_, hbelow _ (by omega),
      habove _ (Nat.le_refl _) (by omega)⟩
    refine mem_pairUp.2 ⟨(r - 1) / 2, ?_, ?_⟩
    · rw [hget _ (by omega)]
      congr 2
      omega
    · rw [hget _ (by omega)]
      congr 2
      omega
  · intro h
    obtain ⟨p, hp, hlo, hhi⟩ := h
    obtain ⟨k, h₁, h₂⟩ := mem_pairUp.1 hp
    have hk : 2 * k + 1 < s.bounds.size := by
      have := (List.getElem?_eq_some_iff.1 h₂).1
      simpa using this
    rw [hget _ (by omega), Option.some.injEq] at h₁
    rw [hget _ hk, Option.some.injEq] at h₂
    have h₃ : 2 * k < r := by
      refine Nat.lt_of_not_le fun hr => ?_
      have := habove _ hr (by omega)
      omega
    have h₄ : r ≤ 2 * k + 1 := by
      refine Nat.le_of_not_lt fun hr => ?_
      have := hbelow _ hr
      omega
    omega

/-- Does each of the ascending ranges lie in one of the others, which ascend too? -/
def within : (rs qs : List (Nat × Nat)) → Bool
  | [], _ => true
  | r :: rs, qs =>
    match qs.dropWhile (fun q => decide (q.2 ≤ r.1)) with
    | [] => false
    | q :: qs => decide (q.1 ≤ r.1) && decide (r.2 ≤ q.2) && within rs (q :: qs)

/-- Does none of the ranges meet one of the others? -/
def disjoint (rs qs : List (Nat × Nat)) : Bool :=
  rs.all (fun r => qs.all (fun q => decide (q.2 ≤ r.1) || decide (r.2 ≤ q.1)))

theorem InRanges.of_within {rs qs : List (Nat × Nat)} (h : within rs qs = true) {n : Nat}
    (hn : InRanges rs n) : InRanges qs n := by
  induction rs generalizing qs with
  | nil =>
    obtain ⟨r, hr, -⟩ := hn
    exact absurd hr List.not_mem_nil
  | cons r rs ih =>
    rw [within] at h
    cases hq : qs.dropWhile (fun q => decide (q.2 ≤ r.1)) with
    | nil =>
      rw [hq] at h
      cases h
    | cons q qs' =>
      have hsub : ∀ p ∈ q :: qs', p ∈ qs := by
        rw [← hq]
        exact fun p hp => (List.dropWhile_suffix _).mem hp
      rw [hq] at h
      simp only [Bool.and_eq_true, decide_eq_true_eq] at h
      obtain ⟨p, hp, hlo, hhi⟩ := hn
      rcases List.mem_cons.1 hp with rfl | hp
      · exact ⟨q, hsub q List.mem_cons_self, by omega, by omega⟩
      · obtain ⟨p', hp', hin⟩ := ih h.2 ⟨p, hp, hlo, hhi⟩
        exact ⟨p', hsub p' hp', hin⟩

theorem InRanges.not_of_disjoint {rs qs : List (Nat × Nat)} (h : disjoint rs qs = true) {n : Nat}
    (hn : InRanges rs n) : ¬ InRanges qs n := by
  obtain ⟨r, hr, hlo, hhi⟩ := hn
  intro h
  obtain ⟨q, hq, hlo', hhi'⟩ := h
  have hd := List.all_eq_true.1 (List.all_eq_true.1 h r hr) q hq
  rw [Bool.or_eq_true, decide_eq_true_eq, decide_eq_true_eq] at hd
  omega

end CodePointSet

/-! ## 3. Digits, blanks and words -/

open CodePointSet

theorem wordSet_contains_iff (c : Char) :
    wordSet.contains c = true ↔ InRanges wordSet.ranges c.toNat :=
  contains_iff (by decide +kernel) (by decide +kernel) c

theorem digitSet_contains_iff (c : Char) :
    digitSet.contains c = true ↔ InRanges digitSet.ranges c.toNat :=
  contains_iff (by decide +kernel) (by decide +kernel) c

/-- **Every decimal digit is part of words.** -/
theorem isWord_of_isDigit {c : Char} (h : isDigit c = true) : isWord c = true := by
  unfold isDigit at h
  unfold isWord
  by_cases hc : c.toNat < 0x80
  · rw [if_pos hc] at h ⊢
    rw [h]
    simp
  · rw [if_neg hc] at h ⊢
    rw [digitSet_contains_iff] at h
    rw [wordSet_contains_iff]
    exact h.of_within (by decide +kernel)

/-- The blank characters from U+0080 on. -/
def blankRanges : List (Nat × Nat) :=
  [(0x85, 0x86), (0xA0, 0xA1), (0x1680, 0x1681), (0x2000, 0x200B), (0x2028, 0x202A),
    (0x202F, 0x2030), (0x205F, 0x2060), (0x3000, 0x3001)]

theorem inRanges_of_isBlank {c : Char} (h : isBlank c = true) (hc : ¬ c.toNat < 0x80) :
    InRanges blankRanges c.toNat := by
  unfold isBlank at h
  simp only [if_neg hc, Bool.or_eq_true, Bool.and_eq_true, beq_iff_eq, decide_eq_true_eq] at h
  simp only [InRanges, blankRanges, List.mem_cons, List.not_mem_nil, or_false, exists_eq_or_imp,
    exists_eq_left]
  omega

/-- **Nothing blank is part of words.** -/
theorem isWord_eq_false_of_isBlank {c : Char} (h : isBlank c = true) : isWord c = false := by
  rw [← Bool.not_eq_true]
  unfold isWord
  by_cases hc : c.toNat < 0x80
  · rw [if_pos hc]
    unfold isBlank at h
    simp only [if_pos hc, Bool.or_eq_true, Bool.and_eq_true, beq_iff_eq, decide_eq_true_eq] at h
    simp only [isAsciiLetter, isAsciiDigit, Bool.or_eq_true, Bool.and_eq_true, beq_iff_eq,
      decide_eq_true_eq, not_or]
    refine ⟨⟨by omega, by omega⟩, ?_⟩
    rintro rfl
    revert h
    decide
  · rw [if_neg hc, wordSet_contains_iff]
    intro hw
    exact hw.not_of_disjoint (by decide +kernel) (inRanges_of_isBlank h hc)

end Gatehouse.Text
