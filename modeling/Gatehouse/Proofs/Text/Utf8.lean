import Gatehouse.Text.Utf8

/-!
# Writing UTF-8 and reading it again

* `encode` are the bytes of a text, as the core library writes them (`eq_encode_iff`);
* `feedAll_utf8EncodeChar`: a reader that is fed the bytes of a character has read that character, one
  case for each number of bytes; the intervals in which the second byte must lie leave out exactly what
  no character is written as;
* `items_encode`: a text is read as what was written;
* `not_mem_encode`: a byte below 0x80 stands in a text only where its character does.
-/

namespace Gatehouse.Text.Utf8

/-- The bytes of a text. -/
def encode (s : String) : List UInt8 := s.toList.flatMap String.utf8EncodeChar

theorem toUTF8_eq (s : String) : s.toUTF8 = (encode s).toByteArray :=
  String.utf8Encode_toList.symm

theorem eq_encode_iff {bytes : List UInt8} {s : String} :
    bytes.toByteArray = s.toUTF8 ↔ bytes = encode s := by
  rw [toUTF8_eq, List.toByteArray_inj]

theorem encode_append (s t : String) : encode (s ++ t) = encode s ++ encode t := by
  rw [encode, String.toList_append, List.flatMap_append]
  rfl

theorem encode_join (ts : List String) : encode (String.join ts) = ts.flatMap encode := by
  rw [encode, String.toList_join, List.flatMap_assoc]
  rfl

theorem toNat_ofNat_of_lt {n : Nat} (h : n < 256) : (UInt8.ofNat n).toNat = n := by
  rw [UInt8.toNat_ofNat']
  exact Nat.mod_eq_of_lt h

namespace Reader

theorem feedAll_cons (r : Reader) (b : UInt8) (bytes : List UInt8) :
    r.feedAll (b :: bytes) = (r.feed b).feedAll bytes := rfl

theorem feedAll_nil (r : Reader) : r.feedAll [] = r := rfl

section

variable (items : List (Option Char))

/-! ## First bytes -/

theorem feed_one {n : Nat} (h : n < 0x80) :
    feed ⟨items, none⟩ (.ofNat n) = ⟨some (Char.ofNat n) :: items, none⟩ := by
  have hn : (UInt8.ofNat n).toNat = n := toNat_ofNat_of_lt (by omega)
  simp [feed, open_, hn, h]

/-- The first of two bytes. -/
theorem feed_first_of_two {k : Nat} (hlow : 2 ≤ k) (h : k < 32) :
    feed ⟨items, none⟩ (.ofNat (k + 0xC0)) = ⟨items, some ⟨k, 1, 0x80, 0xBF⟩⟩ := by
  have hn : (UInt8.ofNat (k + 0xC0)).toNat = k + 0xC0 := toNat_ofNat_of_lt (by omega)
  simp only [feed, open_, hn]
  rw [if_neg (by omega), if_neg (by omega), if_pos (by omega), Nat.add_sub_cancel]

/-- The first of three bytes; a small character and a surrogate are written otherwise. -/
theorem feed_first_of_three {k : Nat} (h : k < 16) :
    feed ⟨items, none⟩ (.ofNat (k + 0xE0)) =
      ⟨items, some ⟨k, 2, if k = 0 then 0xA0 else 0x80, if k = 0xD then 0x9F else 0xBF⟩⟩ := by
  have hn : (UInt8.ofNat (k + 0xE0)).toNat = k + 0xE0 := toNat_ofNat_of_lt (by omega)
  simp only [feed, open_, hn]
  rw [if_neg (by omega), if_neg (by omega), if_neg (by omega)]
  by_cases hzero : k = 0
  · subst hzero
    rfl
  · by_cases hlast : k = 0xD
    · subst hlast
      rfl
    · rw [if_neg (by simpa using hzero), if_neg (by simpa using hlast), if_pos (by omega),
        if_neg hzero, if_neg hlast, Nat.add_sub_cancel]

/-- The first of four bytes. -/
theorem feed_first_of_four {k : Nat} (h : k < 5) :
    feed ⟨items, none⟩ (.ofNat (k + 0xF0)) =
      ⟨items, some ⟨k, 3, if k = 0 then 0x90 else 0x80, if k = 4 then 0x8F else 0xBF⟩⟩ := by
  have hcases : k = 0 ∨ k = 1 ∨ k = 2 ∨ k = 3 ∨ k = 4 := by omega
  rcases hcases with rfl | rfl | rfl | rfl | rfl <;> rfl

/-! ## Further bytes -/

/-- A byte in the interval goes on with the unfinished character. -/
theorem feed_inside (bits missing : Nat) {low high : UInt8} {n : Nat} (hlow : low.toNat ≤ n + 0x80)
    (hhigh : n + 0x80 ≤ high.toNat) :
    feed ⟨items, some ⟨bits, missing, low, high⟩⟩ (.ofNat (n + 0x80)) =
      if missing ≤ 1 then ⟨some (Char.ofNat (bits * 64 + n)) :: items, none⟩
      else ⟨items, some ⟨bits * 64 + n, missing - 1, 0x80, 0xBF⟩⟩ := by
  have hn : (UInt8.ofNat (n + 0x80)).toNat = n + 0x80 :=
    toNat_ofNat_of_lt (Nat.lt_of_le_of_lt hhigh high.toNat_lt)
  have hinside : (low ≤ UInt8.ofNat (n + 0x80) && UInt8.ofNat (n + 0x80) ≤ high) = true := by
    simp only [Bool.and_eq_true, decide_eq_true_eq, UInt8.le_iff_toNat_le, hn]
    exact ⟨hlow, hhigh⟩
  simp only [feed, hinside, if_true, hn, Nat.add_sub_cancel]

/-- Behind the first two bytes any six bits may follow. -/
theorem feed_tail (bits missing : Nat) {n : Nat} (h : n < 64) :
    feed ⟨items, some ⟨bits, missing, 0x80, 0xBF⟩⟩ (.ofNat (n + 0x80)) =
      if missing ≤ 1 then ⟨some (Char.ofNat (bits * 64 + n)) :: items, none⟩
      else ⟨items, some ⟨bits * 64 + n, missing - 1, 0x80, 0xBF⟩⟩ := by
  refine feed_inside items bits missing (Nat.le_add_left 0x80 n) ?_
  show n + 128 ≤ 191
  omega

/-- **The bytes of a character read as that character.** -/
theorem feedAll_utf8EncodeChar (c : Char) :
    feedAll ⟨items, none⟩ (String.utf8EncodeChar c) = ⟨some c :: items, none⟩ := by
  have hvalid : c.toNat < 0xD800 ∨ 0xDFFF < c.toNat ∧ c.toNat < 0x110000 := c.valid
  have hc : Char.ofNat c.toNat = c := Char.ofNat_toNat c
  fun_cases String.utf8EncodeChar with
  | case1 n hn =>
    replace hc : Char.ofNat n = c := hc
    rw [feedAll_cons, feed_one items (by omega), feedAll_nil, hc]
  | case2 n hone hn =>
    replace hc : Char.ofNat n = c := hc
    have hfirst : n / 64 % 0x20 = n / 64 := by omega
    have htail : n / 64 * 64 + n % 0x40 = n := by omega
    rw [feedAll_cons, hfirst, feed_first_of_two items (by omega) (by omega), feedAll_cons,
      feed_tail items _ _ (by omega), htail, hc]
    rfl
  | case3 n hone htwo hn =>
    replace hc : Char.ofNat n = c := hc
    replace hvalid : n < 0xD800 ∨ 0xDFFF < n ∧ n < 0x110000 := hvalid
    have hfirst : n / 4096 % 0x10 = n / 4096 := by omega
    have hsecond : n / 4096 * 64 + n / 64 % 0x40 = n / 64 := by omega
    have htail : n / 64 * 64 + n % 0x40 = n := by omega
    have hlow : (if n / 4096 = 0 then 0xA0 else 0x80 : UInt8).toNat ≤ n / 64 % 0x40 + 0x80 := by
      split
      · show 160 ≤ _
        omega
      · exact Nat.le_add_left 0x80 _
    have hhigh : n / 64 % 0x40 + 0x80 ≤ (if n / 4096 = 0xD then 0x9F else 0xBF : UInt8).toNat := by
      split
      · show _ ≤ 159
        omega
      · show _ ≤ 191
        omega
    rw [feedAll_cons, hfirst, feed_first_of_three items (by omega), feedAll_cons,
      feed_inside items _ _ hlow hhigh, hsecond, if_neg (by decide), feedAll_cons,
      feed_tail items _ _ (by omega), htail, hc]
    rfl
  | case4 n hone htwo hthree =>
    replace hc : Char.ofNat n = c := hc
    replace hvalid : n < 0xD800 ∨ 0xDFFF < n ∧ n < 0x110000 := hvalid
    have hfirst : n / 262144 % 0x08 = n / 262144 := by omega
    have hsecond : n / 262144 * 64 + n / 4096 % 0x40 = n / 4096 := by omega
    have hthird : n / 4096 * 64 + n / 64 % 0x40 = n / 64 := by omega
    have htail : n / 64 * 64 + n % 0x40 = n := by omega
    have hlow : (if n / 262144 = 0 then 0x90 else 0x80 : UInt8).toNat ≤
        n / 4096 % 0x40 + 0x80 := by
      split
      · show 144 ≤ _
        omega
      · exact Nat.le_add_left 0x80 _
    have hhigh : n / 4096 % 0x40 + 0x80 ≤
        (if n / 262144 = 4 then 0x8F else 0xBF : UInt8).toNat := by
      split
      · show _ ≤ 143
        omega
      · show _ ≤ 191
        omega
    rw [feedAll_cons, hfirst, feed_first_of_four items (by omega), feedAll_cons,
      feed_inside items _ _ hlow hhigh, hsecond, if_neg (by decide), feedAll_cons,
      feed_tail items _ _ (by omega), hthird, if_neg (by decide), feedAll_cons,
      feed_tail items _ _ (by omega), htail, hc]
    rfl

/-- The bytes of a text read as its characters. -/
theorem feedAll_encode (s : List Char) :
    feedAll ⟨items, none⟩ (s.flatMap String.utf8EncodeChar) =
      ⟨(s.map some).reverse ++ items, none⟩ := by
  induction s generalizing items with
  | nil => rfl
  | cons c s ih =>
    rw [List.flatMap_cons, feedAll_append, feedAll_utf8EncodeChar, ih]
    simp

end

end Reader

/-- **What is written as UTF-8 reads as what was written.** -/
theorem items_encode (s : String) : items (encode s) = s.toList.map some := by
  rw [items, encode, Reader.start, Reader.feedAll_encode, Reader.finish]
  simp

theorem decodeLossy_encode (s : String) : decodeLossy (encode s) = s.toList := by
  rw [decodeLossy, items_encode, List.map_map]
  exact List.map_id s.toList

/-- A byte below 0x80 is a character of its own. -/
theorem forall_mem_utf8EncodeChar (c : Char) :
    ∀ b ∈ String.utf8EncodeChar c, b.toNat = c.toNat ∨ 0x80 ≤ b.toNat := by
  have hvalid : c.toNat < 0xD800 ∨ 0xDFFF < c.toNat ∧ c.toNat < 0x110000 := c.valid
  have high {k : Nat} (hlow : 0x80 ≤ k) (h : k < 256) :
      (UInt8.ofNat k).toNat = c.toNat ∨ 0x80 ≤ (UInt8.ofNat k).toNat := by
    rw [toNat_ofNat_of_lt h]
    exact .inr hlow
  fun_cases String.utf8EncodeChar with
  | case1 n hn =>
    rw [List.forall_mem_singleton]
    exact .inl (toNat_ofNat_of_lt (by omega))
  | case2 n hone hn =>
    simp only [List.forall_mem_cons]
    exact ⟨high (by omega) (by omega), high (by omega) (by omega), by simp⟩
  | case3 n hone htwo hn =>
    simp only [List.forall_mem_cons]
    exact ⟨high (by omega) (by omega), high (by omega) (by omega), high (by omega) (by omega),
      by simp⟩
  | case4 n hone htwo hthree =>
    simp only [List.forall_mem_cons]
    exact ⟨high (by omega) (by omega), high (by omega) (by omega), high (by omega) (by omega),
      high (by omega) (by omega), by simp⟩

/-- A text without a character below 0x80 is written without its byte. -/
theorem not_mem_encode {s : String} {b : UInt8} (h : b.toNat < 0x80)
    (hs : Char.ofNat b.toNat ∉ s.toList) : b ∉ encode s := by
  intro hmem
  obtain ⟨c, hc, hb⟩ := List.mem_flatMap.1 hmem
  rcases forall_mem_utf8EncodeChar c b hb with heq | hhigh
  · rw [heq, Char.ofNat_toNat] at hs
    exact hs hc
  · omega

end Gatehouse.Text.Utf8
