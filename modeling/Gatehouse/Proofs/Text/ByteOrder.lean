import Mathlib.Algebra.Group.Nat.Defs
import Gatehouse.Proofs.Text.Utf8

/-!
# The order of texts and the order of their bytes

Texts are ordered by their code points. Their bytes, taken as numbers without a sign, are in the same
order.

* `tailBytes` are the bytes of a character behind its first one, six bits in each, and
  `utf8EncodeChar_eq` the bytes of a character by means of them;
* `utf8EncodeChar_lt`: of two characters the bytes decide, whatever follows them;
* `encode_lt_encode`: a text that comes before another has bytes that do.
-/

namespace Gatehouse.Text.Utf8

/-! ## 1. The bytes of a character -/

/-- The lowest bits of a number in bytes of six each. -/
def tailBytes : Nat → Nat → List UInt8
  | 0, _ => []
  | k + 1, n => UInt8.ofNat (n / 64 ^ k % 64 + 128) :: tailBytes k n

/-- How many bytes a code point has behind its first one. -/
def tailLength (n : Nat) : Nat :=
  if n ≤ 127 then 0 else if n ≤ 2047 then 1 else if n ≤ 65535 then 2 else 3

/-- The least first byte in front of so many others. -/
def leastLead : Nat → Nat
  | 0 => 0
  | 1 => 192
  | 2 => 224
  | _ => 240

/-- The first byte of a code point. -/
def leadByte (n : Nat) : Nat := leastLead (tailLength n) + n / 64 ^ tailLength n

/-- A code point has one of four forms. -/
theorem leadByte_cases (n : Nat) :
    (n ≤ 127 ∧ tailLength n = 0 ∧ leadByte n = n) ∨
    (127 < n ∧ n ≤ 2047 ∧ tailLength n = 1 ∧ leadByte n = 192 + n / 64) ∨
    (2047 < n ∧ n ≤ 65535 ∧ tailLength n = 2 ∧ leadByte n = 224 + n / 4096) ∨
    (65535 < n ∧ tailLength n = 3 ∧ leadByte n = 240 + n / 262144) := by
  unfold leadByte
  fun_cases tailLength n with
  | case1 hone => exact .inl ⟨hone, rfl, by simp [leastLead]⟩
  | case2 hone htwo => exact .inr (.inl ⟨by omega, htwo, rfl, rfl⟩)
  | case3 hone htwo hthree => exact .inr (.inr (.inl ⟨by omega, hthree, rfl, rfl⟩))
  | case4 hone htwo hthree => exact .inr (.inr (.inr ⟨by omega, rfl, rfl⟩))

/-- **The bytes of a character**: the first one, which tells their number, and six bits in each other. -/
theorem utf8EncodeChar_eq (c : Char) : String.utf8EncodeChar c =
    UInt8.ofNat (leadByte c.toNat) :: tailBytes (tailLength c.toNat) c.toNat := by
  have hvalid : c.toNat < 0xD800 ∨ 0xDFFF < c.toNat ∧ c.toNat < 0x110000 := c.valid
  fun_cases String.utf8EncodeChar with
  | case1 n hn =>
    have hform := leadByte_cases n
    show _ = UInt8.ofNat (leadByte n) :: tailBytes (tailLength n) n
    obtain ⟨hlength, hlead⟩ : tailLength n = 0 ∧ leadByte n = n := by omega
    rw [hlength, hlead, tailBytes]
  | case2 n hone hn =>
    have hform := leadByte_cases n
    show _ = UInt8.ofNat (leadByte n) :: tailBytes (tailLength n) n
    obtain ⟨hlength, hlead⟩ : tailLength n = 1 ∧ leadByte n = n / 64 % 0x20 + 0xC0 := by omega
    rw [hlength, hlead]
    simp only [tailBytes, Nat.pow_zero, Nat.div_one]
  | case3 n hone htwo hn =>
    have hform := leadByte_cases n
    show _ = UInt8.ofNat (leadByte n) :: tailBytes (tailLength n) n
    obtain ⟨hlength, hlead⟩ : tailLength n = 2 ∧ leadByte n = n / 4096 % 0x10 + 0xE0 := by omega
    rw [hlength, hlead]
    simp only [tailBytes, Nat.pow_zero, Nat.div_one, Nat.pow_one]
  | case4 n hone htwo hthree =>
    replace hvalid : n < 0xD800 ∨ 0xDFFF < n ∧ n < 0x110000 := hvalid
    have hform := leadByte_cases n
    show _ = UInt8.ofNat (leadByte n) :: tailBytes (tailLength n) n
    obtain ⟨hlength, hlead⟩ : tailLength n = 3 ∧ leadByte n = n / 262144 % 0x08 + 0xF0 := by omega
    rw [hlength, hlead]
    simp only [tailBytes, Nat.pow_zero, Nat.div_one, Nat.pow_one, Nat.reducePow]

/-! ## 2. The order -/

theorem ofNat_lt_ofNat {m n : Nat} (h : m < n) (hn : n < 256) : UInt8.ofNat m < UInt8.ofNat n := by
  rw [UInt8.lt_iff_toNat_lt, toNat_ofNat_of_lt hn, toNat_ofNat_of_lt (Nat.lt_trans h hn)]
  exact h

/-- The bytes of the lowest bits are in the order of these bits. -/
theorem tailBytes_lt {k m n : Nat} (h : m % 64 ^ k < n % 64 ^ k) (u v : List UInt8) :
    tailBytes k m ++ u < tailBytes k n ++ v := by
  induction k with
  | zero => omega
  | succ k ih =>
    rw [Nat.mod_pow_succ, Nat.mod_pow_succ] at h
    rw [tailBytes, tailBytes, List.cons_append, List.cons_append, List.cons_lt_cons_iff]
    have hm : m / 64 ^ k % 64 < 64 := Nat.mod_lt _ (by decide)
    have hn : n / 64 ^ k % 64 < 64 := Nat.mod_lt _ (by decide)
    rcases Nat.lt_trichotomy (m / 64 ^ k % 64) (n / 64 ^ k % 64) with hlt | heq | hgt
    · exact .inl (ofNat_lt_ofNat (by omega) (by omega))
    · rw [heq] at h ⊢
      exact .inr ⟨rfl, ih (Nat.lt_of_add_lt_add_right h)⟩
    · have hsmall : n % 64 ^ k < 64 ^ k := Nat.mod_lt _ (Nat.pow_pos (by decide))
      have hstep : 64 ^ k * (n / 64 ^ k % 64 + 1) ≤ 64 ^ k * (m / 64 ^ k % 64) :=
        Nat.mul_le_mul_left _ hgt
      rw [Nat.mul_add] at hstep
      omega

/-- A larger code point has the larger first byte, or the same one and as many bytes. -/
theorem leadByte_lt_or {m n : Nat} (h : m < n) :
    leadByte m < leadByte n ∨ leadByte m = leadByte n ∧ tailLength m = tailLength n := by
  have hm := leadByte_cases m
  have hn := leadByte_cases n
  omega

theorem leadByte_lt_256 {n : Nat} (h : n < 0x110000) : leadByte n < 256 := by
  have hn := leadByte_cases n
  omega

/-- **Of two characters the bytes decide**, whatever follows them. -/
theorem utf8EncodeChar_lt {c d : Char} (h : c < d) (u v : List UInt8) :
    String.utf8EncodeChar c ++ u < String.utf8EncodeChar d ++ v := by
  have hvalid : d.toNat < 0xD800 ∨ 0xDFFF < d.toNat ∧ d.toNat < 0x110000 := d.valid
  have hlt : c.toNat < d.toNat := h
  rw [utf8EncodeChar_eq, utf8EncodeChar_eq, List.cons_append, List.cons_append,
    List.cons_lt_cons_iff]
  rcases leadByte_lt_or hlt with hlead | ⟨hlead, hlength⟩
  · exact .inl (ofNat_lt_ofNat hlead (leadByte_lt_256 (by omega)))
  · refine .inr ⟨congrArg _ hlead, ?_⟩
    rw [hlength]
    refine tailBytes_lt ?_ u v
    -- what the first byte leaves out is the same of both
    have hhigh : c.toNat / 64 ^ tailLength d.toNat = d.toNat / 64 ^ tailLength d.toNat := by
      rw [leadByte, leadByte, hlength] at hlead
      exact Nat.add_left_cancel hlead
    have hc := Nat.div_add_mod c.toNat (64 ^ tailLength d.toNat)
    have hd := Nat.div_add_mod d.toNat (64 ^ tailLength d.toNat)
    rw [hhigh] at hc
    omega

/-- **The bytes of texts are in the order of the texts.** -/
theorem encode_lt_encode {s t : String} (h : s < t) : encode s < encode t := by
  replace h : s.toList < t.toList := h
  rw [encode, encode]
  generalize s.toList = a at h
  generalize t.toList = b at h
  induction a generalizing b with
  | nil =>
    cases b with
    | nil => exact absurd h (List.lt_irrefl [])
    | cons d b =>
      rw [List.flatMap_cons, utf8EncodeChar_eq]
      exact List.nil_lt_cons _ _
  | cons c a ih =>
    cases b with
    | nil => exact absurd h (List.not_lt_nil _)
    | cons d b =>
      rw [List.flatMap_cons, List.flatMap_cons]
      rcases List.cons_lt_cons_iff.1 h with hlt | ⟨rfl, hlt⟩
      · exact utf8EncodeChar_lt hlt _ _
      · exact List.append_left_lt (ih b hlt)

end Gatehouse.Text.Utf8
