/-!
# Blank characters and trimming

* `isBlank` is the White_Space property: the characters that count as space when text is trimmed,
  when a field is tested for being blank, and where a pattern asks for space;
* `trim` removes them at both ends, `trimRight` at the end alone.

The zero-width characters U+200B, U+2060 and U+FEFF are not blank.
-/

namespace Gatehouse.Text

/-- Is the character white space? -/
def isBlank (c : Char) : Bool :=
  let n := c.toNat
  if n < 0x80 then (0x09 ≤ n && n ≤ 0x0D) || n == 0x20
  else n == 0x85 || n == 0xA0 || n == 0x1680 || (0x2000 ≤ n && n ≤ 0x200A)
    || n == 0x2028 || n == 0x2029 || n == 0x202F || n == 0x205F || n == 0x3000

/-! ## Trimming -/

/-- The characters from the first that is not blank on. -/
def trimLeftChars (s : List Char) : List Char := s.dropWhile isBlank

/-- The characters up to the last that is not blank. -/
def trimRightChars (s : List Char) : List Char := (s.reverse.dropWhile isBlank).reverse

/-- The characters between the first and the last that is not blank. -/
def trimChars (s : List Char) : List Char := trimRightChars (trimLeftChars s)

/-- The text without the blanks at its end. -/
def trimRight (s : String) : String := String.ofList (trimRightChars s.toList)

/-- The text without the blanks at its ends. -/
def trim (s : String) : String := String.ofList (trimChars s.toList)

/-- Does the text hold nothing but blanks? -/
def isBlankText (s : String) : Bool := s.toList.all isBlank

theorem trimLeftChars_eq_nil_iff (s : List Char) : trimLeftChars s = [] ↔ s.all isBlank := by
  induction s with
  | nil => simp [trimLeftChars]
  | cons c s ih =>
    by_cases h : isBlank c = true
    · have hs : trimLeftChars (c :: s) = trimLeftChars s := by
        unfold trimLeftChars
        rw [List.dropWhile_cons_of_pos h]
      rw [hs, ih, List.all_cons, h, Bool.true_and]
    · simp [trimLeftChars, h]

theorem trimRightChars_eq_nil_iff (s : List Char) : trimRightChars s = [] ↔ s.all isBlank := by
  unfold trimRightChars
  rw [List.reverse_eq_nil_iff, ← List.all_reverse]
  exact trimLeftChars_eq_nil_iff s.reverse

/-- Trimming empties a text exactly when it is blank. -/
theorem trimChars_eq_nil_iff (s : List Char) : trimChars s = [] ↔ s.all isBlank := by
  unfold trimChars
  rw [trimRightChars_eq_nil_iff]
  constructor
  · intro h
    rw [← trimLeftChars_eq_nil_iff]
    cases hs : trimLeftChars s with
    | nil => rfl
    | cons c r =>
      have hc : isBlank c = true := by rw [hs] at h; simp at h; exact h.1
      have hn : ¬ isBlank c = true := by
        have := List.head?_dropWhile_not isBlank s
        unfold trimLeftChars at hs
        rw [hs] at this
        simpa using this
      exact absurd hc hn
  · intro h
    rw [(trimLeftChars_eq_nil_iff s).2 h]
    rfl

end Gatehouse.Text
