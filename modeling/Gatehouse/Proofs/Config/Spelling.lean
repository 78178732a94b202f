import Mathlib.Data.List.Induction
import Mathlib.Data.List.TakeWhile
import Gatehouse.Config.Environment
import Gatehouse.Config.Reading
import Gatehouse.Proofs.Json.Numbers

/-!
# Values that keep their spelling

The value of a variable is taken for a truth value or a number if it looks like one. Where a text is
expected it is printed again, and that need not be how it was spelled.

* `toString_integer?_iff`: which whole numbers are spelled as they are printed;
* `Verbatim` says which values are, and `exists_text_ofVariable` that those are the ones that are passed
  on as they are;
* `verbatim_of_odd`: a value with a character that no number has is one of them, but for a few words.
-/

namespace Gatehouse.Number

open Gatehouse.Json.Reader (head?_toDigits isDigit_of_mem_toDigits)

/-! ## 1. Digits -/

/-- The number that digits stand for. -/
def digitsValue (s : List Char) : Nat := s.foldl (fun n c => n * 10 + (c.toNat - 0x30)) 0

theorem digits?_eq_some_iff {s : List Char} {n : Nat} :
    digits? s = some n ↔ s ≠ [] ∧ (∀ c ∈ s, c.isDigit = true) ∧ digitsValue s = n := by
  rw [digits?]
  split
  · rename_i h
    rw [Bool.or_eq_true, List.isEmpty_iff, Bool.not_eq_true', List.all_eq_false] at h
    refine iff_of_false nofun fun ⟨hne, hall, _⟩ => ?_
    rcases h with h | ⟨c, hc, hdigit⟩
    · exact hne h
    · exact hdigit (hall c hc)
  · rename_i h
    rw [Bool.or_eq_true, List.isEmpty_iff, Bool.not_eq_true', not_or, Bool.not_eq_false,
      List.all_eq_true] at h
    rw [Option.some.injEq, digitsValue]
    exact ⟨fun hvalue => ⟨h.1, h.2, hvalue⟩, fun hvalue => hvalue.2.2⟩

theorem digitChar_of_isDigit {c : Char} (h : c.isDigit = true) :
    Nat.digitChar (c.toNat - 0x30) = c ∧ c.toNat - 0x30 < 10 := by
  have hlow : 48 ≤ c.toNat := (Char.isDigit_iff_toNat.1 h).1
  have hhigh : c.toNat ≤ 57 := (Char.isDigit_iff_toNat.1 h).2
  refine ⟨Char.toNat_inj.1 ?_, by omega⟩
  rw [Nat.toNat_digitChar_of_lt_ten (by omega)]
  omega

/-- **Digits that count**: there is one, and the first is no zero. -/
structure Counting (s : List Char) : Prop where
  digits : ∀ c ∈ s, c.isDigit = true
  ne_nil : s ≠ []
  head : s.head? ≠ some '0'

theorem ne_zero_of_toDigits {s : List Char} {n : Nat} (h : Nat.toDigits 10 n = s)
    (hhead : s.head? ≠ some '0') : n ≠ 0 := by
  rintro rfl
  rw [Nat.toDigits_zero] at h
  exact hhead (by rw [← h]; rfl)

/-- **Digits that count are what their number is written with.** -/
theorem toDigits_digitsValue {s : List Char} (h : Counting s) :
    Nat.toDigits 10 (digitsValue s) = s := by
  induction s using List.reverseRecOn with
  | nil => exact absurd rfl h.ne_nil
  | append_singleton s c ih =>
    obtain ⟨hs, hc⟩ := List.forall_mem_append.1 h.digits
    obtain ⟨hchar, hsmall⟩ := digitChar_of_isDigit (hc c (List.mem_singleton_self c))
    have hvalue : digitsValue (s ++ [c]) = digitsValue s * 10 + (c.toNat - 0x30) := by
      rw [digitsValue, List.foldl_append]
      rfl
    rw [hvalue, Nat.toDigits_eq_if (by decide)]
    by_cases hempty : s = []
    · rw [hempty, digitsValue, List.foldl_nil, Nat.zero_mul, Nat.zero_add, if_pos hsmall, hchar,
        List.nil_append]
    · have hhead : s.head? ≠ some '0' := by
        obtain ⟨d, s, rfl⟩ := List.exists_cons_of_ne_nil hempty
        exact h.head
      have hfront := ih ⟨hs, hempty, hhead⟩
      have hpositive : digitsValue s ≠ 0 := ne_zero_of_toDigits hfront hhead
      -- The first digit of `s` is no zero, so that dividing by ten cuts off `c` alone.
      have hquotient : (digitsValue s * 10 + (c.toNat - 0x30)) / 10 = digitsValue s := by omega
      have hremainder : (digitsValue s * 10 + (c.toNat - 0x30)) % 10 = c.toNat - 0x30 := by omega
      rw [if_neg (by omega), hquotient, hremainder, hfront, hchar]

theorem digitsValue_ne_zero {s : List Char} (h : Counting s) : digitsValue s ≠ 0 :=
  ne_zero_of_toDigits (toDigits_digitsValue h) h.head

/-! ## 2. Whole numbers -/

/-- **A whole number as it is printed**: zero, or digits that count, perhaps behind a minus. -/
inductive PrintedWhole : List Char → Prop where
  | zero : PrintedWhole ['0']
  | positive {s : List Char} : Counting s → PrintedWhole s
  | negative {s : List Char} : Counting s → PrintedWhole ('-' :: s)

theorem toList_toString_natCast (n : Nat) : (toString (n : Int)).toList = Nat.toDigits 10 n :=
  Nat.toList_repr

theorem toList_toString_neg {n : Nat} (h : n ≠ 0) :
    (toString (-(n : Int))).toList = '-' :: Nat.toDigits 10 n := by
  obtain ⟨k, rfl⟩ := Nat.exists_eq_succ_of_ne_zero h
  have hminus : toString (-((k + 1 : Nat) : Int)) = "-" ++ toString (k + 1) := rfl
  have hdigits : (toString (k + 1)).toList = Nat.toDigits 10 (k + 1) := Nat.toList_repr
  rw [hminus, String.toList_append, hdigits]
  rfl

/-- What is printed for a whole number has that form. -/
theorem printedWhole_toString (n : Int) : PrintedWhole (toString n).toList := by
  have hcounting {k : Nat} (hk : k ≠ 0) : Counting (Nat.toDigits 10 k) :=
    ⟨isDigit_of_mem_toDigits, Nat.toDigits_ne_nil, head?_toDigits hk⟩
  obtain ⟨k, rfl | rfl⟩ := n.eq_nat_or_neg
  · rw [toList_toString_natCast]
    by_cases hk : k = 0
    · rw [hk, Nat.toDigits_zero]
      exact .zero
    · exact .positive (hcounting hk)
  · by_cases hk : k = 0
    · rw [hk]
      exact .zero
    · rw [toList_toString_neg hk]
      exact .negative (hcounting hk)

theorem readSign_of_counting {s : List Char} (h : Counting s) : readSign s = (false, s) := by
  unfold readSign
  split
  · exact absurd (h.digits '+' List.mem_cons_self) (by decide)
  · exact absurd (h.digits '-' List.mem_cons_self) (by decide)
  · rfl

theorem signed?_eq_some {negative : Bool} {k : Nat} {n : Int} (h : signed? negative k = some n) :
    n = if negative then -(k : Int) else k := by
  cases negative with
  | false => exact (Option.some.inj (Option.ite_none_right_eq_some.1 h).2).symm
  | true => exact (Option.some.inj (Option.ite_none_right_eq_some.1 h).2).symm

/-- A whole number has digits behind its sign. -/
theorem exists_of_integer? {text : String} {n : Int} (h : integer? text = some n) :
    ∃ k, digits? (readSign text.toList).2 = some k ∧
      n = if (readSign text.toList).1 then -(k : Int) else k := by
  obtain ⟨k, hdigits, hsigned⟩ := Option.bind_eq_some_iff.1 h
  exact ⟨k, hdigits, signed?_eq_some hsigned⟩

/-- **A whole number is spelled as it is printed** exactly if its text is of that form. -/
theorem toString_integer?_iff {text : String} {n : Int} (h : integer? text = some n) :
    toString n = text ↔ PrintedWhole text.toList := by
  constructor
  · rintro rfl
    exact printedWhole_toString n
  · intro hprinted
    obtain ⟨k, hdigits, rfl⟩ := exists_of_integer? h
    rw [← String.toList_inj]
    generalize text.toList = s at hprinted hdigits ⊢
    cases hprinted with
    | zero =>
      have hk : k = 0 := (Option.some.inj hdigits).symm
      rw [hk]
      rfl
    | positive hs =>
      rw [readSign_of_counting hs] at hdigits ⊢
      have hvalue : digitsValue s = k := (digits?_eq_some_iff.1 hdigits).2.2
      rw [if_neg Bool.false_ne_true, toList_toString_natCast, ← hvalue]
      exact toDigits_digitsValue hs
    | @negative s hs =>
      have hvalue : digitsValue s = k := (digits?_eq_some_iff.1 hdigits).2.2
      have hsign : readSign ('-' :: s) = (true, s) := rfl
      rw [hsign, if_pos rfl, ← hvalue, toList_toString_neg (digitsValue_ne_zero hs),
        toDigits_digitsValue hs]

/-! ## 3. Characters of numbers -/

/-- May the character stand in a number? -/
def isNumeral (c : Char) : Bool := c.isDigit || ['+', '-', '.', 'e', 'E'].contains c

theorem isNumeral_of_isDigit {c : Char} (h : c.isDigit = true) : isNumeral c = true := by
  rw [isNumeral, h, Bool.true_or]

theorem isNumeral_of_readSign {s : List Char} (h : ∀ c ∈ (readSign s).2, isNumeral c = true) :
    ∀ c ∈ s, isNumeral c = true := by
  unfold readSign at h
  split at h
  · exact List.forall_mem_cons.2 ⟨rfl, h⟩
  · exact List.forall_mem_cons.2 ⟨rfl, h⟩
  · exact h

theorem isNumeral_of_digits? {s : List Char} {n : Nat} (h : digits? s = some n) :
    ∀ c ∈ s, isNumeral c = true :=
  fun c hc => isNumeral_of_isDigit ((digits?_eq_some_iff.1 h).2.1 c hc)

theorem isNumeral_of_integer? {text : String} {n : Int} (h : integer? text = some n) :
    ∀ c ∈ text.toList, isNumeral c = true := by
  obtain ⟨k, hdigits, -⟩ := exists_of_integer? h
  exact isNumeral_of_readSign (isNumeral_of_digits? hdigits)

theorem isNumeral_of_exponent? {s : List Char} {e : Int} (h : exponent? s = some e) :
    ∀ c ∈ s, isNumeral c = true := by
  cases s with
  | nil => exact fun c hc => absurd hc List.not_mem_nil
  | cons c s =>
    obtain ⟨hletter, h⟩ := Option.ite_none_right_eq_some.1 h
    change Option.map _ ((digits? (readSign s).2).bind _) = some e at h
    obtain ⟨i, hi, -⟩ := Option.map_eq_some_iff.1 h
    obtain ⟨n, hdigits, -⟩ := Option.bind_eq_some_iff.1 hi
    refine List.forall_mem_cons.2 ⟨?_, isNumeral_of_readSign (isNumeral_of_digits? hdigits)⟩
    rw [Bool.or_eq_true, beq_iff_eq, beq_iff_eq] at hletter
    rcases hletter with rfl | rfl <;> rfl

/-- The digits behind a point, if there is one, and what follows them. -/
def fractionOf (s : List Char) : List Char × List Char :=
  match s with
  | '.' :: s => s.span Char.isDigit
  | s => ([], s)

theorem isNumeral_of_fractionOf {s : List Char} (h : ∀ c ∈ (fractionOf s).2, isNumeral c = true) :
    ∀ c ∈ s, isNumeral c = true := by
  unfold fractionOf at h
  split at h
  · rename_i s
    rw [List.span_eq_takeWhile_dropWhile] at h
    refine List.forall_mem_cons.2 ⟨rfl, ?_⟩
    rw [← List.takeWhile_append_dropWhile (p := Char.isDigit) (l := s)]
    refine List.forall_mem_append.2 ⟨fun c hc => ?_, h⟩
    exact isNumeral_of_isDigit (List.mem_takeWhile_imp hc)
  · exact h

theorem isNumeral_of_decimal? {negative : Bool} {s : List Char} {x : Binary}
    (h : decimal? negative s = some x) : ∀ c ∈ s, isNumeral c = true := by
  obtain ⟨e, he⟩ : ∃ e, exponent? (fractionOf (s.dropWhile Char.isDigit)).2 = some e := by
    rw [decimal?, List.span_eq_takeWhile_dropWhile] at h
    simp only at h
    split at h
    · rename_i n e hdigits hexponent
      exact ⟨e, hexponent⟩
    · exact nomatch h
  rw [← List.takeWhile_append_dropWhile (p := Char.isDigit) (l := s)]
  refine List.forall_mem_append.2 ⟨fun c hc => ?_, ?_⟩
  · exact isNumeral_of_isDigit (List.mem_takeWhile_imp hc)
  · exact isNumeral_of_fractionOf (isNumeral_of_exponent? he)

/-- The text is a word for an infinity or for no number, in letters of any case. -/
def IsLimitWord (s : List Char) : Prop :=
  String.ofList (s.map Char.toLower) ∈ ["inf", "infinity", "nan"]

instance (s : List Char) : Decidable (IsLimitWord s) := inferInstanceAs (Decidable (_ ∈ _))

/-- A number is a word behind its sign, or has characters of numbers only. -/
theorem limitWord_or_isNumeral_of_real? {text : String} {x : Binary} (h : real? text = some x) :
    IsLimitWord (readSign text.toList).2 ∨ ∀ c ∈ text.toList, isNumeral c = true := by
  rw [IsLimitWord]
  unfold real? at h
  simp only at h
  split at h
  · rename_i hword
    rw [Bool.or_eq_true, beq_iff_eq, beq_iff_eq] at hword
    left
    rcases hword with hword | hword <;> rw [hword] <;> decide
  · split at h
    · rename_i hword
      left
      rw [beq_iff_eq.1 hword]
      decide
    · exact .inr (isNumeral_of_readSign (isNumeral_of_decimal? h))

end Gatehouse.Number

namespace Gatehouse.Config

open Gatehouse.Number Gatehouse.Text

/-! ## 4. Values of variables -/

/-- The truth value that a value looks like. -/
def flag? (value : String) : Option Bool :=
  if lower value = "true" then some true
  else if lower value = "false" then some false
  else none

theorem ofVariable_of_flag {value : String} {b : Bool} (h : flag? value = some b) :
    Scalar.ofVariable value = .bool b := by
  rw [flag?] at h
  unfold Scalar.ofVariable
  split at h
  · rename_i htrue
    cases h
    simp [htrue]
  · rename_i htrue
    obtain ⟨hfalse, hb⟩ := Option.ite_none_right_eq_some.1 h
    cases hb
    simp [hfalse]

theorem ofVariable_of_no_flag {value : String} (h : flag? value = none) :
    Scalar.ofVariable value = match integer? value with
      | some n => .int n
      | none => match real? value with
        | some x => .real x
        | none => .text value := by
  have htrue : ¬ (lower value == "true") = true := by
    rw [beq_iff_eq]
    intro htrue
    rw [flag?, if_pos htrue] at h
    exact nomatch h
  have hfalse : ¬ (lower value == "false") = true := by
    rw [beq_iff_eq] at htrue ⊢
    intro hfalse
    rw [flag?, if_neg htrue, if_pos hfalse] at h
    exact nomatch h
  exact (if_neg htrue).trans (if_neg hfalse)

/-- **The value is spelled as it is printed**, if it looks like a truth value, or else like a whole
    number of 64 bits, or else like a number. -/
structure Verbatim (value : String) : Prop where
  flag : ∀ b, flag? value = some b → value = toString b
  whole : flag? value = none → ∀ n, integer? value = some n → PrintedWhole value.toList
  real : flag? value = none → integer? value = none → ∀ x, real? value = some x →
    plain.text double x = value

section

variable {value : String}

theorem verbatim_iff_of_flag {b : Bool} (h : flag? value = some b) :
    Verbatim value ↔ toString b = value := by
  refine ⟨fun hv => (hv.flag b h).symm, fun hb => ⟨fun c hc => ?_, fun hnone => ?_, fun hnone => ?_⟩⟩
  · rw [← hb, Option.some.inj (h.symm.trans hc)]
  · exact nomatch h.symm.trans hnone
  · exact nomatch h.symm.trans hnone

theorem verbatim_iff_of_whole {n : Int} (hflag : flag? value = none) (h : integer? value = some n) :
    Verbatim value ↔ toString n = value := by
  rw [toString_integer?_iff h]
  refine ⟨fun hv => hv.whole hflag n h, fun hn => ⟨fun b hb => ?_, fun _ _ _ => hn, fun _ hnone => ?_⟩⟩
  · exact nomatch hflag.symm.trans hb
  · exact nomatch h.symm.trans hnone

theorem verbatim_iff_of_real {x : Binary} (hflag : flag? value = none) (hwhole : integer? value = none)
    (h : real? value = some x) : Verbatim value ↔ plain.text double x = value := by
  refine ⟨fun hv => hv.real hflag hwhole x h, fun hx => ⟨fun b hb => ?_, fun _ n hn => ?_,
    fun _ _ y hy => ?_⟩⟩
  · exact nomatch hflag.symm.trans hb
  · exact nomatch hwhole.symm.trans hn
  · rw [← Option.some.inj (h.symm.trans hy), hx]

theorem verbatim_of_word (hflag : flag? value = none) (hwhole : integer? value = none)
    (hreal : real? value = none) : Verbatim value where
  flag _ h := nomatch hflag.symm.trans h
  whole _ _ h := nomatch hwhole.symm.trans h
  real _ _ _ h := nomatch hreal.symm.trans h

/-- **Where a text is expected, a value is passed on as it is** exactly if it is spelled as it is
    printed. Every value is passed on as some text. -/
theorem exists_text_ofVariable (value : String) : ∃ passed : String,
    (∀ origin, text (.scalar origin (.ofVariable value)) = .ok passed) ∧
      (passed = value ↔ Verbatim value) := by
  cases hflag : flag? value with
  | some b =>
    rw [ofVariable_of_flag hflag]
    exact ⟨toString b, fun _ => rfl, (verbatim_iff_of_flag hflag).symm⟩
  | none =>
    rw [ofVariable_of_no_flag hflag]
    cases hwhole : integer? value with
    | some n => exact ⟨toString n, fun _ => rfl, (verbatim_iff_of_whole hflag hwhole).symm⟩
    | none =>
      cases hreal : real? value with
      | some x =>
        exact ⟨plain.text double x, fun _ => rfl, (verbatim_iff_of_real hflag hwhole hreal).symm⟩
      | none => exact ⟨value, fun _ => rfl, iff_of_true rfl (verbatim_of_word hflag hwhole hreal)⟩

/-- **A value with a character that no number has** is passed on as it is, if it is none of the words
    for a truth value, for an infinity and for no number. -/
theorem verbatim_of_odd {c : Char} (hmem : c ∈ value.toList) (hodd : isNumeral c = false)
    (hflag : flag? value = none) (hword : ¬ IsLimitWord (readSign value.toList).2) :
    Verbatim value := by
  refine verbatim_of_word hflag ?_ ?_
  · cases hwhole : integer? value with
    | none => rfl
    | some n => exact absurd (isNumeral_of_integer? hwhole c hmem) (ne_true_of_eq_false hodd)
  · cases hreal : real? value with
    | none => rfl
    | some x =>
      rcases limitWord_or_isNumeral_of_real? hreal with h | h
      · exact absurd h hword
      · exact absurd (h c hmem) (ne_true_of_eq_false hodd)

example : Verbatim "sk-ant" := verbatim_of_odd (c := 's') (by decide) rfl (by decide +kernel) (by decide)

end

end Gatehouse.Config
