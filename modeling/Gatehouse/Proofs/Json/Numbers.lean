import Mathlib.Data.List.TakeDrop
import Gatehouse.Json.Reader
import Gatehouse.Number.Layout
import Gatehouse.Proofs.Number.Shortest

/-!
# Numbers that are written and read

* `NumberText` says how a number is written, part by part, and what it reads as; `readNumber_text`: a
  number is read to its end, as long as the text behind it does not go on with one;
* `numberText_toDigits`: a whole number reads as itself;
* `exists_numberText`: whatever a layout writes for a finite number reads as some number.
-/

namespace Gatehouse.Json.Reader

open Gatehouse.Number

/-! ## 1. Runs of digits -/

/-- The value of a digit. -/
def digitValue (c : Char) : Nat := c.toNat - 0x30

theorem digit?_of_isDigit {c : Char} (h : c.isDigit = true) :
    digit? (some c) = some (digitValue c) :=
  if_pos (Char.isDigit_iff_toNat.1 h)

theorem digit?_of_not_isDigit {c : Char} (h : c.isDigit = false) : digit? (some c) = none := by
  refine if_neg ?_
  intro hrange
  have hdigit : c.isDigit = true := Char.isDigit_iff_toNat.2 hrange
  rw [h] at hdigit
  cases hdigit

theorem digitValue_ne_zero {c : Char} (h : c.isDigit = true) (hc : c ≠ '0') : digitValue c ≠ 0 := by
  intro hvalue
  have hlow : 48 ≤ c.toNat := (Char.isDigit_iff_toNat.1 h).1
  have hvalue : c.toNat - 48 = 0 := hvalue
  refine hc (Char.toNat_inj.1 ?_)
  show c.toNat = 48
  omega

/-- The text does not start with a digit. -/
def NoDigit (rest : List Item) : Prop := ∀ c, rest.head? = some (some c) → c.isDigit = false

/-- **The text does not go on with a number.** -/
def Ended (rest : List Item) : Prop :=
  ∀ c, rest.head? = some (some c) → c.isDigit = false ∧ c ≠ '.' ∧ c ≠ 'e' ∧ c ≠ 'E'

theorem Ended.noDigit {rest : List Item} (h : Ended rest) : NoDigit rest := fun c hc => (h c hc).1

theorem ended_nil : Ended [] := nofun

theorem digitRun_of_noDigit {rest : List Item} (h : NoDigit rest) : digitRun rest = ([], rest) := by
  cases rest with
  | nil => rfl
  | cons i rest =>
    cases i with
    | none => rfl
    | some c =>
      have hc : (digit? (some c)).isSome = false := by
        rw [digit?_of_not_isDigit (h c rfl)]
        rfl
      simp only [digitRun, List.span_eq_takeWhile_dropWhile, List.takeWhile_cons, List.dropWhile_cons,
        hc, Bool.false_eq_true, if_false, List.filterMap_nil]

theorem digitRun_cons {c : Char} (h : c.isDigit = true) (s : List Item) :
    digitRun (some c :: s) = (digitValue c :: (digitRun s).1, (digitRun s).2) := by
  have hc : digit? (some c) = some (digitValue c) := digit?_of_isDigit h
  simp only [digitRun, List.span_eq_takeWhile_dropWhile, List.takeWhile_cons, List.dropWhile_cons,
    hc, Option.isSome_some, if_true, List.filterMap_cons]

/-- A run of digits is read as a whole. -/
theorem digitRun_append {ds : List Char} (h : ∀ c ∈ ds, c.isDigit = true) {rest : List Item}
    (hrest : NoDigit rest) : digitRun (ds.map some ++ rest) = (ds.map digitValue, rest) := by
  induction ds with
  | nil => exact digitRun_of_noDigit hrest
  | cons c ds ih =>
    obtain ⟨hc, hds⟩ := List.forall_mem_cons.1 h
    rw [List.map_cons, List.cons_append, digitRun_cons hc, ih hds, List.map_cons]

/-! ## 2. The parts of a number -/

/-- Digits before the point, and their values: no zero stands in front of other digits. -/
inductive WholeText : List Char → List Nat → Prop where
  | digits {c : Char} {ds : List Char} : (∀ d ∈ c :: ds, d.isDigit = true) → (c = '0' → ds = []) →
      WholeText (c :: ds) ((c :: ds).map digitValue)

/-- Digits behind a point and their values, or nothing. -/
inductive FractionText : List Char → Option (List Nat) → Prop where
  | none : FractionText [] none
  | digits {c : Char} {ds : List Char} : (∀ d ∈ c :: ds, d.isDigit = true) →
      FractionText ('.' :: c :: ds) (some ((c :: ds).map digitValue))

/-- An exponent, or nothing. -/
inductive ExponentText : List Char → Option (Bool × List Nat) → Prop where
  | none : ExponentText [] none
  | unsigned {c : Char} {ds : List Char} : (∀ d ∈ c :: ds, d.isDigit = true) →
      ExponentText ('e' :: c :: ds) (some (false, (c :: ds).map digitValue))
  | plus {c : Char} {ds : List Char} : (∀ d ∈ c :: ds, d.isDigit = true) →
      ExponentText ('e' :: '+' :: c :: ds) (some (false, (c :: ds).map digitValue))
  | minus {c : Char} {ds : List Char} : (∀ d ∈ c :: ds, d.isDigit = true) →
      ExponentText ('e' :: '-' :: c :: ds) (some (true, (c :: ds).map digitValue))

section

variable {s : List Char} {rest : List Item}

theorem readExponent_of_ended (h : Ended rest) : readExponent rest = some (none, rest) := by
  unfold readExponent
  split
  · exact absurd rfl (h 'e' rfl).2.2.1
  · exact absurd rfl (h 'E' rfl).2.2.2
  · rfl

theorem readSign_of_isDigit {c : Char} (h : c.isDigit = true) (rest : List Item) :
    readSign (some c :: rest) = (false, some c :: rest) := by
  unfold readSign
  split
  · rename_i heq
    cases heq
    exact absurd h (by decide)
  · rename_i heq
    cases heq
    exact absurd h (by decide)
  · rfl

theorem readExponent_text {e : Option (Bool × List Nat)} (h : ExponentText s e) (hrest : Ended rest) :
    readExponent (s.map some ++ rest) = some (e, rest) := by
  cases h with
  | none => exact readExponent_of_ended hrest
  | @unsigned c ds hds =>
    have hsign := readSign_of_isDigit (hds c List.mem_cons_self) (ds.map some ++ rest)
    have hrun := digitRun_append hds hrest.noDigit
    simp only [List.map_cons, List.cons_append] at hrun ⊢
    simp only [readExponent, hsign, hrun]
  | plus hds =>
    have hrun := digitRun_append hds hrest.noDigit
    simp only [List.map_cons, List.cons_append] at hrun ⊢
    simp only [readExponent, readSign, hrun]
  | minus hds =>
    have hrun := digitRun_append hds hrest.noDigit
    simp only [List.map_cons, List.cons_append] at hrun ⊢
    simp only [readExponent, readSign, hrun]

/-- An exponent, or what stands in its place, starts neither with a digit nor with a point. -/
theorem head?_exponentText {e : Option (Bool × List Nat)} (h : ExponentText s e) (hrest : Ended rest)
    {c : Char} (hc : (s.map some ++ rest).head? = some (some c)) : c.isDigit = false ∧ c ≠ '.' := by
  cases h with
  | none => exact ⟨(hrest c hc).1, (hrest c hc).2.1⟩
  | unsigned hds =>
    cases hc
    decide
  | plus hds =>
    cases hc
    decide
  | minus hds =>
    cases hc
    decide

theorem readFraction_text {f : Option (List Nat)} (h : FractionText s f) (hrest : NoDigit rest)
    (hpoint : rest.head? ≠ some (some '.')) :
    readFraction (s.map some ++ rest) = some (f, rest) := by
  cases h with
  | none =>
    rw [List.map_nil, List.nil_append]
    unfold readFraction
    split
    · exact absurd rfl hpoint
    · rfl
  | digits hds =>
    have hrun := digitRun_append hds hrest
    simp only [List.map_cons, List.cons_append] at hrun ⊢
    simp only [readFraction, hrun]

/-- A fraction, or what stands in its place, does not start with a digit. -/
theorem noDigit_fractionText {f : Option (List Nat)} (h : FractionText s f) (hrest : NoDigit rest) :
    NoDigit (s.map some ++ rest) := by
  cases h with
  | none => exact hrest
  | digits hds =>
    intro c hc
    cases hc
    rfl

end

/-! ## 3. Numbers -/

/-- How a number without its sign is written, and what it reads as with and without a minus. -/
inductive UnsignedText : List Char → (Bool → Numeral) → Prop where
  | parts {whole fraction exponent : List Char} {ds : List Nat} {f : Option (List Nat)}
      {e : Option (Bool × List Nat)} : WholeText whole ds → FractionText fraction f →
      ExponentText exponent e →
      UnsignedText (whole ++ (fraction ++ exponent)) (fun negative => numeralOf negative ds f e)

/-- **How a number is written**, and what it reads as. -/
inductive NumberText : List Char → Numeral → Prop where
  | plain {s : List Char} {n : Bool → Numeral} : UnsignedText s n → NumberText s (n false)
  | minus {s : List Char} {n : Bool → Numeral} : UnsignedText s n → NumberText ('-' :: s) (n true)

section

variable {c : Char} {s behindWhole behindFraction rest : List Item} {d : Nat} {ds : List Nat}
  {f : Option (List Nat)} {e : Option (Bool × List Nat)}
  (hwhole : digitRun (some c :: s) = (d :: ds, behindWhole)) (hzero : d = 0 → ds = [])
  (hfraction : readFraction behindWhole = some (f, behindFraction))
  (hexponent : readExponent behindFraction = some (e, rest))

include hwhole hzero hfraction hexponent

theorem readNumber_minus :
    readNumber (some '-' :: some c :: s) = some (numeralOf true (d :: ds) f e, rest) := by
  simp only [readNumber, hwhole]
  split
  · rename_i heq
    cases heq
  · rename_i heq
    cases heq
    exact absurd (hzero rfl) (List.cons_ne_nil _ _)
  · rename_i heq
    cases heq
    simp only [hfraction, hexponent]

theorem readNumber_plain (hc : c.isDigit = true) :
    readNumber (some c :: s) = some (numeralOf false (d :: ds) f e, rest) := by
  unfold readNumber
  split
  rename_i negative t hsign
  split at hsign
  · rename_i heq
    cases heq
    exact absurd hc (by decide)
  · cases hsign
    simp only [hwhole]
    split
    · rename_i heq
      cases heq
    · rename_i heq
      cases heq
      exact absurd (hzero rfl) (List.cons_ne_nil _ _)
    · rename_i heq
      cases heq
      simp only [hfraction, hexponent]

end

theorem readNumber_unsignedText {s : List Char} {n : Bool → Numeral} (h : UnsignedText s n)
    {rest : List Item} (hrest : Ended rest) :
    readNumber (s.map some ++ rest) = some (n false, rest) ∧
      readNumber (some '-' :: (s.map some ++ rest)) = some (n true, rest) := by
  cases h with
  | @parts whole fraction exponent _ f e hwhole hf he =>
    cases hwhole with
    | @digits c ds hds hzero =>
      have hdigit : c.isDigit = true := hds c List.mem_cons_self
      have hvalues : digitValue c = 0 → ds.map digitValue = [] := by
        intro hc
        rw [hzero (Decidable.byContradiction fun hne => digitValue_ne_zero hdigit hne hc)]
        rfl
      have hbehind : NoDigit (exponent.map some ++ rest) :=
        fun c hc => (head?_exponentText he hrest hc).1
      have hpoint : (exponent.map some ++ rest).head? ≠ some (some '.') :=
        fun hc => (head?_exponentText he hrest hc).2 rfl
      have hrun := digitRun_append hds (noDigit_fractionText hf hbehind)
      have hfraction := readFraction_text hf hbehind hpoint
      have hexponent := readExponent_text he hrest
      simp only [List.map_cons, List.map_append, List.cons_append, List.append_assoc] at hrun ⊢
      exact ⟨readNumber_plain hrun hvalues hfraction hexponent hdigit,
        readNumber_minus hrun hvalues hfraction hexponent⟩

/-- **A number that was written is read to its end.** -/
theorem readNumber_text {s : List Char} {n : Numeral} (h : NumberText s n) {rest : List Item}
    (hrest : Ended rest) : readNumber (s.map some ++ rest) = some (n, rest) := by
  cases h with
  | plain h => exact (readNumber_unsignedText h hrest).1
  | minus h => exact (readNumber_unsignedText h hrest).2

/-! ## 4. Whole numbers -/

theorem isDigit_of_mem_toDigits {n : Nat} : ∀ c ∈ Nat.toDigits 10 n, c.isDigit = true :=
  fun _ hc => Nat.isDigit_of_mem_toDigits (by decide) (by decide) hc

/-- Only zero is written with a zero at the start. -/
theorem head?_toDigits {n : Nat} (h : n ≠ 0) : (Nat.toDigits 10 n).head? ≠ some '0' := by
  induction n using Nat.strongRecOn with
  | ind n ih =>
    rw [Nat.toDigits_eq_if (by decide)]
    by_cases hn : n < 10
    · rw [if_pos hn]
      simpa using h
    · have hfront := ih (n / 10) (by omega) (by omega)
      rw [if_neg hn, List.head?_append]
      cases hs : (Nat.toDigits 10 (n / 10)).head? with
      | none => exact absurd (List.head?_eq_none_iff.1 hs) Nat.toDigits_ne_nil
      | some c => rwa [hs] at hfront

theorem wholeText_toDigits (n : Nat) :
    WholeText (Nat.toDigits 10 n) ((Nat.toDigits 10 n).map digitValue) := by
  have hdigits : ∀ c ∈ Nat.toDigits 10 n, c.isDigit = true := isDigit_of_mem_toDigits
  by_cases hn : n = 0
  · subst hn
    rw [Nat.toDigits_zero]
    exact .digits (List.all_eq_true.1 rfl) (fun _ => rfl)
  · have hhead := head?_toDigits hn
    cases hs : Nat.toDigits 10 n with
    | nil => exact absurd hs Nat.toDigits_ne_nil
    | cons c ds =>
      rw [hs] at hdigits hhead
      refine .digits hdigits ?_
      rintro rfl
      exact absurd rfl hhead

theorem le_foldl_digits (v : Nat) (ds : List Nat) : v ≤ ds.foldl (fun n d => n * 10 + d) v := by
  induction ds generalizing v with
  | nil => exact Nat.le_refl v
  | cons d ds ih =>
    rw [List.foldl_cons]
    exact Nat.le_trans (by omega) (ih (v * 10 + d))

/-- As long as the value fits, the whole part is the value of all digits. -/
theorem wholePart_eq {ds : List Nat} (h : digitsValue ds ≤ maxNatural) :
    wholePart ds = (digitsValue ds, 0) := by
  have hfold (step : Nat × Nat → Nat → Nat × Nat)
      (hstep : ∀ v d, v * 10 + d ≤ maxNatural → step (v, 0) d = (v * 10 + d, 0)) (v : Nat)
      (h : ds.foldl (fun n d => n * 10 + d) v ≤ maxNatural) :
      ds.foldl step (v, 0) = (ds.foldl (fun n d => n * 10 + d) v, 0) := by
    clear * - hstep h
    induction ds generalizing v with
    | nil => rfl
    | cons d ds ih =>
      have hd : v * 10 + d ≤ maxNatural := Nat.le_trans (le_foldl_digits _ ds) h
      rw [List.foldl_cons, hstep v d hd]
      exact ih (v * 10 + d) h
  exact hfold _ (fun v d hd => by simp [hd]) 0 h

theorem digitsValue_toDigits (n : Nat) : digitsValue ((Nat.toDigits 10 n).map digitValue) = n := by
  have hvalue : Nat.ofDigitChars 10 (Nat.toDigits 10 n) 0 = n := Nat.ofDigitChars_ten_toDigits
  rw [Nat.ofDigitChars_eq_foldl] at hvalue
  simp only [Nat.mul_comm 10] at hvalue
  rw [digitsValue, List.foldl_map]
  exact hvalue

/-- **A whole number reads as itself**, unless it is too large to be kept as one. -/
theorem numberText_toDigits {n : Nat} (h : n ≤ maxNatural) :
    NumberText (Nat.toDigits 10 n) (.natural n) := by
  have hvalue : wholePart ((Nat.toDigits 10 n).map digitValue) = (n, 0) := by
    rw [wholePart_eq (by rwa [digitsValue_toDigits]), digitsValue_toDigits]
  have hnumeral : numeralOf false ((Nat.toDigits 10 n).map digitValue) none none = .natural n := by
    simp [numeralOf, hvalue]
  have htext := NumberText.plain (.parts (wholeText_toDigits n) .none .none)
  rwa [hnumeral, List.append_nil, List.append_nil] at htext

/-! ## 5. Decimals -/

section

variable {ds : List Char} (hdigits : ∀ d ∈ ds, d.isDigit = true)

include hdigits

theorem wholeText_of_digits (hne : ds ≠ []) (hzero : ds.head? = some '0' → ds.length = 1) :
    WholeText ds (ds.map digitValue) := by
  cases ds with
  | nil => exact absurd rfl hne
  | cons c ds =>
    refine .digits hdigits ?_
    rintro rfl
    simpa using hzero rfl

variable (hne : ds ≠ [])

include hne

theorem fractionText_of_digits : FractionText ('.' :: ds) (some (ds.map digitValue)) := by
  cases ds with
  | nil => exact absurd rfl hne
  | cons c ds => exact .digits hdigits

theorem exponentText_plus : ExponentText ('e' :: '+' :: ds) (some (false, ds.map digitValue)) := by
  cases ds with
  | nil => exact absurd rfl hne
  | cons c ds => exact .plus hdigits

theorem exponentText_minus : ExponentText ('e' :: '-' :: ds) (some (true, ds.map digitValue)) := by
  cases ds with
  | nil => exact absurd rfl hne
  | cons c ds => exact .minus hdigits

end

theorem fractionText_zero : FractionText ['.', '0'] (some [0]) :=
  fractionText_of_digits (List.all_eq_true.1 rfl) (List.cons_ne_nil _ _)

theorem isDigit_of_mem_zeros {n : Nat} : ∀ d ∈ List.replicate n '0', d.isDigit = true := by
  intro d hd
  rw [List.eq_of_mem_replicate hd]
  rfl

theorem exists_exponentText (point : Int) :
    ∃ e, ExponentText ((if 0 < point then "e+" else "e") ++ toString (point - 1)).toList e := by
  have htext (n : Nat) : (toString n).toList = Nat.toDigits 10 n := Nat.toList_repr
  by_cases h : 0 < point
  · obtain ⟨n, hn⟩ : ∃ n : Nat, point - 1 = (n : Int) := ⟨(point - 1).toNat, by omega⟩
    have hexponent : ("e+" ++ toString (n : Int)).toList = 'e' :: '+' :: Nat.toDigits 10 n := by
      rw [String.toList_append, ← htext]
      rfl
    rw [if_pos h, hn, hexponent]
    exact ⟨_, exponentText_plus isDigit_of_mem_toDigits Nat.toDigits_ne_nil⟩
  · obtain ⟨n, hn⟩ : ∃ n : Nat, point - 1 = Int.negSucc n := ⟨(-point).toNat, by omega⟩
    have hexponent : ("e" ++ toString (Int.negSucc n)).toList =
        'e' :: '-' :: Nat.toDigits 10 (n + 1) := by
      have hminus : toString (Int.negSucc n) = "-" ++ toString (n + 1) := rfl
      rw [hminus, String.toList_append, String.toList_append, ← htext]
      rfl
    rw [if_neg h, hn, hexponent]
    exact ⟨_, exponentText_minus isDigit_of_mem_toDigits Nat.toDigits_ne_nil⟩

section

variable {ds : List Char} (hdigits : ∀ d ∈ ds, d.isDigit = true) (hne : ds ≠ [])

include hdigits hne

/-- All digits stand behind the point. -/
theorem exists_unsignedText_behind (k : Nat) :
    ∃ n, UnsignedText ('0' :: '.' :: (List.replicate k '0' ++ ds)) n := by
  have hall : ∀ d ∈ List.replicate k '0' ++ ds, d.isDigit = true :=
    List.forall_mem_append.2 ⟨isDigit_of_mem_zeros, hdigits⟩
  have hfraction := fractionText_of_digits hall (List.append_ne_nil_of_right_ne_nil _ hne)
  have htext := UnsignedText.parts (wholeText_toDigits 0) hfraction .none
  rw [List.append_nil] at htext
  exact ⟨_, htext⟩

variable (hhead : ds.head? ≠ some '0')

include hhead

/-- All digits stand before the point, which may be left out. -/
theorem exists_unsignedText_before (k : Nat) (keepsPoint : Bool) :
    ∃ n, UnsignedText (ds ++ List.replicate k '0' ++ (if keepsPoint then ['.', '0'] else [])) n := by
  have hall : ∀ d ∈ ds ++ List.replicate k '0', d.isDigit = true :=
    List.forall_mem_append.2 ⟨hdigits, isDigit_of_mem_zeros⟩
  obtain ⟨c, ds, rfl⟩ := List.exists_cons_of_ne_nil hne
  have hwhole := wholeText_of_digits hall (List.cons_ne_nil _ _) (fun h => absurd h hhead)
  cases keepsPoint with
  | true => exact ⟨_, .parts hwhole fractionText_zero .none⟩
  | false => exact ⟨_, .parts hwhole .none .none⟩

/-- The point stands among the digits. -/
theorem exists_unsignedText_among {k : Nat} (hk : 0 < k) (hlength : k < ds.length) :
    ∃ n, UnsignedText (ds.take k ++ '.' :: ds.drop k) n := by
  have hfront : ∀ d ∈ ds.take k, d.isDigit = true := fun d hd => hdigits d (List.mem_of_mem_take hd)
  have hback : ∀ d ∈ ds.drop k, d.isDigit = true := fun d hd => hdigits d (List.mem_of_mem_drop hd)
  have hwhole := wholeText_of_digits hfront (by simp [hne, Nat.ne_of_gt hk]) (by
    rw [List.head?_take, if_neg (Nat.ne_of_gt hk)]
    exact fun h => absurd h hhead)
  have hfraction := fractionText_of_digits hback (by simpa using hlength)
  have htext := UnsignedText.parts hwhole hfraction .none
  rw [List.append_nil] at htext
  exact ⟨_, htext⟩

end

/-- One digit stands before the point, and an exponent follows. -/
theorem exists_unsignedText_scaled {c : Char} {ds : List Char}
    (hdigits : ∀ d ∈ c :: ds, d.isDigit = true) {exponent : List Char} {e : Option (Bool × List Nat)}
    (he : ExponentText exponent e) :
    ∃ n, UnsignedText (c :: ((if ds = [] then [] else '.' :: ds) ++ exponent)) n := by
  obtain ⟨hc, hds⟩ := List.forall_mem_cons.1 hdigits
  have hwhole : WholeText [c] [digitValue c] := .digits (by simpa using hc) (fun _ => rfl)
  split
  · exact ⟨_, .parts hwhole .none he⟩
  · rename_i hne
    exact ⟨_, .parts hwhole (fractionText_of_digits hds hne) he⟩

/-- **A decimal is written as a number.** -/
theorem exists_unsignedText (l : Layout) {x : Decimal} (h : x.digits ≠ 0) :
    ∃ n, UnsignedText (l.digits x).toList n := by
  have hdigits : ∀ c ∈ Nat.toDigits 10 x.digits, c.isDigit = true := isDigit_of_mem_toDigits
  have hhead := head?_toDigits h
  have hne : Nat.toDigits 10 x.digits ≠ [] := Nat.toDigits_ne_nil
  unfold Layout.digits
  generalize Nat.toDigits 10 x.digits = ds at hdigits hhead hne ⊢
  obtain ⟨c, ds, rfl⟩ := List.exists_cons_of_ne_nil hne
  dsimp only
  refine iteInduction (motive := fun (s : String) => ∃ n, UnsignedText s.toList n)
    (fun _ => ?_) (fun _ => ?_)
  · split
    · simp only [String.toList_append, String.toList_ofList]
      exact exists_unsignedText_behind hdigits hne _
    · rename_i hpoint
      split
      · have hkeeps : (if l.keepsPoint then ".0" else "").toList =
            if l.keepsPoint then ['.', '0'] else [] := by
          cases l.keepsPoint <;> rfl
        simp only [String.toList_append, String.toList_ofList, hkeeps]
        exact exists_unsignedText_before hdigits hne hhead _ _
      · rename_i hlength
        have hlow : 0 < x.point.toNat := by omega
        have hhigh : x.point.toNat < (c :: ds).length := by omega
        simp only [String.toList_append, String.toList_ofList, List.append_assoc]
        exact exists_unsignedText_among hdigits hne hhead hlow hhigh
  · obtain ⟨e, he⟩ := exists_exponentText x.point
    have htext := exists_unsignedText_scaled hdigits he
    cases ds with
    | nil =>
      rw [String.toList_append, String.toList_ofList]
      exact htext
    | cons d ds =>
      rw [if_neg (List.cons_ne_nil d ds)] at htext
      rw [String.toList_append, String.toList_append, String.toList_append]
      simp only [String.toList_ofList]
      exact htext

/-- **Whatever a layout writes for a finite number reads as some number.** -/
theorem exists_numberText (l : Layout) (f : Format) {x : Binary} (h : x.isFinite = true) :
    ∃ n, NumberText (l.text f x).toList n := by
  cases x with
  | infinite _ => cases h
  | nan => cases h
  | finite negative m e =>
    obtain ⟨n, hn⟩ : ∃ n, UnsignedText (if m = 0 then (if l.keepsPoint then "0.0" else "0")
        else l.digits (f.shortest l.tie m e)).toList n := by
      split
      · cases l.keepsPoint with
        | true => exact ⟨_, .parts (wholeText_toDigits 0) fractionText_zero .none⟩
        | false => exact ⟨_, .parts (wholeText_toDigits 0) .none .none⟩
      · rename_i hm
        exact exists_unsignedText l (shortest_ne_zero f l.tie hm e)
    rw [Layout.text, String.toList_append]
    cases negative with
    | true => exact ⟨_, .minus hn⟩
    | false => exact ⟨_, .plain hn⟩

end Gatehouse.Json.Reader
