import Gatehouse.Proofs.Json.Values

/-!
# The characters of a JSON text

* `printable_chars`: the text of a value has no control characters, so it has no end of a line;
* `exists_chars_object`: an object is written between braces, so there are no blanks at its ends.
-/

namespace Gatehouse.Json

open Gatehouse.Number
open Reader

/-- The text has no control characters. -/
def Printable (s : List Char) : Prop := ∀ c ∈ s, 0x20 ≤ c.toNat

theorem printable_of_all {s : List Char} (h : s.all (fun c => decide (0x20 ≤ c.toNat)) = true) :
    Printable s := by
  intro c hc
  exact of_decide_eq_true (List.all_eq_true.1 h c hc)

theorem printable_append {s t : List Char} (hs : Printable s) (ht : Printable t) :
    Printable (s ++ t) :=
  List.forall_mem_append.2 ⟨hs, ht⟩

theorem printable_cons {c : Char} {s : List Char} (hc : 0x20 ≤ c.toNat) (hs : Printable s) :
    Printable (c :: s) :=
  List.forall_mem_cons.2 ⟨hc, hs⟩

theorem printable_of_digits {ds : List Char} (h : ∀ d ∈ ds, d.isDigit = true) : Printable ds := by
  intro d hd
  have hlow : 48 ≤ d.toNat := (Char.isDigit_iff_toNat.1 (h d hd)).1
  omega

theorem printable_numberText {s : List Char} {n : Numeral} (h : NumberText s n) : Printable s := by
  have unsigned {s : List Char} {n : Bool → Numeral} (h : UnsignedText s n) : Printable s := by
    cases h with
    | parts hwhole hf he =>
      refine printable_append ?_ (printable_append ?_ ?_)
      · cases hwhole with
        | digits hds => exact printable_of_digits hds
      · cases hf with
        | none => exact List.forall_mem_nil _
        | digits hds => exact printable_cons (by decide) (printable_of_digits hds)
      · cases he with
        | none => exact List.forall_mem_nil _
        | unsigned hds => exact printable_cons (by decide) (printable_of_digits hds)
        | plus hds =>
          exact printable_cons (by decide) (printable_cons (by decide) (printable_of_digits hds))
        | minus hds =>
          exact printable_cons (by decide) (printable_cons (by decide) (printable_of_digits hds))
  cases h with
  | plain h => exact unsigned h
  | minus h => exact printable_cons (by decide) (unsigned h)

theorem printable_hexDigit {n : Nat} (h : n < 16) : 0x20 ≤ (hexDigit n).toNat := by
  have hall : ∀ n < 16, 0x20 ≤ (hexDigit n).toNat := by decide
  exact hall n h

theorem printable_of_escaped {c : Char} {written : List Char} (h : Escaped c written) :
    Printable written := by
  have hback : 0x20 ≤ '\\'.toNat := by decide
  cases h with
  | letter _ _ hlow => exact printable_cons hback (printable_cons hlow (List.forall_mem_nil _))
  | plain _ _ hlow => exact printable_cons hlow (List.forall_mem_nil _)
  | code hlow =>
    have hdigits : Printable [hexDigit (c.toNat / 16), hexDigit (c.toNat % 16)] :=
      printable_cons (printable_hexDigit (by omega))
        (printable_cons (printable_hexDigit (by omega)) (List.forall_mem_nil _))
    have hfront : Printable ['\\', 'u', '0', '0'] := printable_of_all rfl
    exact printable_append hfront hdigits

theorem printable_stringChars (s : List Char) : Printable (stringChars s) := by
  have hquote : 0x20 ≤ '"'.toNat := by decide
  refine printable_cons hquote (printable_append ?_ (printable_cons hquote (List.forall_mem_nil _)))
  intro d hd
  obtain ⟨c, -, hc⟩ := List.mem_flatMap.1 hd
  exact printable_of_escaped (escaped_escapeChar c) d hc

theorem printable_moreItems {vs : List Value} (h : ∀ v ∈ vs, Printable v.chars) :
    Printable (Value.moreItems vs) := by
  induction vs with
  | nil =>
    rw [Value.moreItems]
    exact printable_of_all rfl
  | cons v vs ih =>
    obtain ⟨hv, hvs⟩ := List.forall_mem_cons.1 h
    rw [Value.moreItems]
    exact printable_cons (by decide) (printable_append hv (ih hvs))

theorem printable_moreMembers {ms : List (String × Value)} (h : ∀ m ∈ ms, Printable m.2.chars) :
    Printable (Value.moreMembers ms) := by
  induction ms with
  | nil =>
    rw [Value.moreMembers]
    exact printable_of_all rfl
  | cons m ms ih =>
    obtain ⟨hv, hms⟩ := List.forall_mem_cons.1 h
    rw [Value.moreMembers]
    exact printable_cons (by decide) (printable_append (printable_stringChars _)
      (printable_cons (by decide) (printable_append hv (ih hms))))

/-- **The text of a value has no control characters**, whatever its strings hold. -/
theorem printable_chars (v : Value) : Printable v.chars := by
  have word : Printable ['n', 'u', 'l', 'l'] := printable_of_all rfl
  induction v using Value.induction with
  | null =>
    rw [Value.chars]
    exact word
  | bool b =>
    cases b <;> rw [Value.chars] <;> exact printable_of_all rfl
  | natural n =>
    rw [Value.chars]
    exact printable_of_digits isDigit_of_mem_toDigits
  | real x =>
    rw [Value.chars]
    split
    · rename_i hx
      exact printable_numberText (exists_numberText singleInJson single hx).choose_spec
    · exact word
  | string s =>
    rw [Value.chars]
    exact printable_stringChars s.toList
  | array vs ih =>
    cases vs with
    | nil =>
      rw [Value.chars]
      exact printable_of_all rfl
    | cons v vs =>
      obtain ⟨hv, hvs⟩ := List.forall_mem_cons.1 ih
      rw [Value.chars]
      exact printable_cons (by decide) (printable_append hv (printable_moreItems hvs))
  | object ms ih =>
    cases ms with
    | nil =>
      rw [Value.chars]
      exact printable_of_all rfl
    | cons m ms =>
      obtain ⟨hv, hms⟩ := List.forall_mem_cons.1 ih
      rw [Value.chars]
      exact printable_cons (by decide) (printable_append (printable_stringChars _)
        (printable_cons (by decide) (printable_append hv (printable_moreMembers hms))))

/-- **An object is written between braces.** -/
theorem exists_chars_object (ms : List (String × Value)) :
    ∃ s, (Value.object ms).chars = '\x7b' :: (s ++ ['\x7d']) := by
  have closing (ms : List (String × Value)) : ∃ s, Value.moreMembers ms = s ++ ['\x7d'] := by
    induction ms with
    | nil => exact ⟨[], by rw [Value.moreMembers, List.nil_append]⟩
    | cons m ms ih =>
      obtain ⟨s, hs⟩ := ih
      refine ⟨',' :: (stringChars m.1.toList ++ ':' :: (m.2.chars ++ s)), ?_⟩
      rw [Value.moreMembers, hs]
      simp
  cases ms with
  | nil => exact ⟨[], by rw [Value.chars, List.nil_append]⟩
  | cons m ms =>
    obtain ⟨s, hs⟩ := closing ms
    refine ⟨stringChars m.1.toList ++ ':' :: (m.2.chars ++ s), ?_⟩
    rw [Value.chars, hs]
    simp

end Gatehouse.Json
