import Gatehouse.Json.Reader
import Gatehouse.Json.Value

/-!
# Strings that are written and read

* `Escaped` says in which ways a character may stand in a string, and `escaped_escapeChar` that it is
  written in one of them;
* `readString_stringChars`: a string is read as what was written, up to its closing quote, whatever its
  characters are and whatever follows.
-/

namespace Gatehouse.Json

namespace Reader

variable (scan : Scan) (rest : List Item)

theorem readString_quote : readString scan (some '"' :: rest) = some (scan.finish, rest) := by
  rw [readString.eq_def]
  rfl

theorem readString_letter {e x : Char} (hx : escaped e = some x) (he : (e == 'u') = false) :
    readString scan (some '\\' :: some e :: rest) = readString (scan.push x) rest := by
  rw [readString.eq_def]
  simp [hx, he]

theorem readString_code {h₁ h₂ h₃ h₄ : Item} {n : Nat} (h : hexCode h₁ h₂ h₃ h₄ = some n) :
    readString scan (some '\\' :: some 'u' :: h₁ :: h₂ :: h₃ :: h₄ :: rest) =
      readString (scan.pushCode n) rest := by
  rw [readString.eq_def]
  simp [h]

theorem readString_plain {c : Char} (hquote : c ≠ '"') (hback : c ≠ '\\') (h : 0x20 ≤ c.toNat) :
    readString scan (some c :: rest) = readString (scan.push c) rest := by
  rw [readString.eq_def]
  simp [hquote, hback, Nat.not_lt.2 h]

end Reader

open Reader

/-- A scan that has read the characters, last one first, and found nothing wrong. -/
def Reader.Scan.upTo (done : List Char) : Scan := ⟨done, none, true⟩

theorem hexValue_hexDigit {n : Nat} (h : n < 16) : hexValue (some (hexDigit n)) = some n := by
  have hall : ∀ n < 16, hexValue (some (hexDigit n)) = some n := by decide
  exact hall n h

/-- **How a character stands in a string**: behind a backslash as one letter, behind one by its number,
    or as itself. -/
inductive Escaped (c : Char) : List Char → Prop where
  | letter {e : Char} : escaped e = some c → (e == 'u') = false → 0x20 ≤ e.toNat →
      Escaped c ['\\', e]
  | code : c.toNat < 0x20 →
      Escaped c ['\\', 'u', '0', '0', hexDigit (c.toNat / 16), hexDigit (c.toNat % 16)]
  | plain : c ≠ '"' → c ≠ '\\' → 0x20 ≤ c.toNat → Escaped c [c]

theorem escaped_escapeChar (c : Char) : Escaped c (escapeChar c) := by
  by_cases hshort : c = '"' ∨ c = '\\' ∨ c = '\x08' ∨ c = '\t' ∨ c = '\n' ∨ c = '\x0c' ∨ c = '\r'
  · rcases hshort with rfl | rfl | rfl | rfl | rfl | rfl | rfl <;>
      exact .letter rfl rfl (by decide)
  · simp only [not_or] at hshort
    obtain ⟨hquote, hback, hb, ht, hn, hf, hr⟩ := hshort
    by_cases hlow : c.toNat < 0x20
    · simp [escapeChar, hquote, hback, hb, ht, hn, hf, hr, hlow, Escaped.code]
    · have hescape : escapeChar c = [c] := by
        simp [escapeChar, hquote, hback, hb, ht, hn, hf, hr, hlow]
      rw [hescape]
      exact .plain hquote hback (by omega)

/-- A character that is written in a string reads as itself. -/
theorem readString_of_escaped {c : Char} {written : List Char} (h : Escaped c written)
    (done : List Char) (rest : List Item) :
    readString (.upTo done) (written.map some ++ rest) = readString (.upTo (c :: done)) rest := by
  cases h with
  | letter hletter hu _ => exact readString_letter _ rest hletter hu
  | plain hquote hback hlow => exact readString_plain _ rest hquote hback hlow
  | code hlow =>
    have hdigits : hexCode (some '0') (some '0') (some (hexDigit (c.toNat / 16)))
        (some (hexDigit (c.toNat % 16))) = some c.toNat := by
      have hvalue : ((0 * 16 + 0) * 16 + c.toNat / 16) * 16 + c.toNat % 16 = c.toNat := by omega
      rw [hexCode, hexValue_hexDigit (by omega), hexValue_hexDigit (by omega)]
      exact congrArg some hvalue
    have hpush : (Scan.upTo done).pushCode c.toNat = Scan.upTo (c :: done) := by
      have hchar : Char.ofNat c.toNat = c := Char.ofNat_toNat c
      simp only [Scan.upTo, Scan.pushCode, Scan.push]
      rw [if_neg (by omega), if_neg (by omega), hchar]
      rfl
    rw [List.map_cons, List.map_cons]
    exact (readString_code _ rest hdigits).trans (by rw [hpush])

/-- **A string that was written reads as itself.** -/
theorem readString_stringChars (done s : List Char) (rest : List Item) :
    readString (.upTo done) ((s.flatMap escapeChar).map some ++ some '"' :: rest) =
      some (some (String.ofList (done.reverse ++ s)), rest) := by
  induction s generalizing done with
  | nil =>
    rw [List.flatMap_nil, List.map_nil, List.nil_append, readString_quote, List.append_nil]
    rfl
  | cons c s ih =>
    rw [List.flatMap_cons, List.map_append, List.append_assoc,
      readString_of_escaped (escaped_escapeChar c), ih]
    simp

end Gatehouse.Json
