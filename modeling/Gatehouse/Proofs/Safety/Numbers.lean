import Gatehouse.Proofs.Safety.Classes

/-!
# Numbers as personal data

Telephone numbers, social security numbers and student numbers, group by group:

* `reads_phone_iff`, `reads_ssn_iff` and `StudentNumber.of_reads` say what is read for each of them;
* all three end where a word ends (`not_word_after`, `word_at_end`), and the last two also start where
  one starts (`not_word_before`, `word_at_start`);
* `digitRun` counts the digits in a row that end a text; telephone numbers have at most three of them
  anywhere but at their end (`LocalNumber.digitRun_le`), where they have four.
-/

namespace Gatehouse.Safety.PersonalData

open Gatehouse.Text
open Gatehouse.Pattern

/-! ## 1. Groups of digits -/

theorem isWord_eq_false_of_isSeparator {c : Char} (h : isSeparator c = true) :
    isWord c = false := by
  simp only [isSeparator, Bool.or_eq_true, beq_iff_eq] at h
  rcases h with (rfl | rfl) | h
  · decide
  · decide
  · exact isWord_eq_false_of_isBlank h

theorem isDigit_eq_false_of_not_word {c : Char} (h : isWord c = false) : isDigit c = false := by
  rw [← Bool.not_eq_true]
  intro hd
  rw [isWord_of_isDigit hd] at h
  cases h

/-- `n` decimal digits. -/
def IsGroup (n : Nat) (g : List Char) : Prop := g.length = n ∧ ∀ x ∈ g, isDigit x = true

theorem IsGroup.exists_cons {n : Nat} {g : List Char} (h : IsGroup (n + 1) g) :
    ∃ x g', g = x :: g' ∧ isDigit x = true ∧ IsGroup n g' := by
  obtain ⟨hlen, hg⟩ := h
  cases g with
  | nil => cases hlen
  | cons x g =>
    exact ⟨x, g, rfl, hg x List.mem_cons_self, Nat.succ.inj hlen,
      fun y hy => hg y (List.mem_cons_of_mem x hy)⟩

/-- A group starts with a word character. -/
theorem IsGroup.head?_any_isWord {n : Nat} {g : List Char} (h : IsGroup (n + 1) g)
    (a : List Char) : (g ++ a).head?.any isWord = true := by
  obtain ⟨x, g, rfl, hx, -⟩ := h.exists_cons
  simpa using isWord_of_isDigit hx

/-- A group ends with a word character. -/
theorem IsGroup.lastOf_any_isWord {n : Nat} {g : List Char} (h : IsGroup (n + 1) g)
    (b : Option Char) : (lastOf b g).any isWord = true := by
  induction n generalizing b g with
  | zero =>
    obtain ⟨x, g, rfl, hx, hlen, -⟩ := h.exists_cons
    rw [List.length_eq_zero_iff.1 hlen]
    exact isWord_of_isDigit hx
  | succ n ih =>
    obtain ⟨x, g, rfl, -, hg⟩ := h.exists_cons
    rw [lastOf_cons]
    exact ih hg (some x)

theorem reads_group_iff {n : Nat} {b : Option Char} {w a : List Char} :
    (digits n).Reads b w a ↔ IsGroup n w := reads_digits

/-! ## 2. What is read -/

/-- The first group of a telephone number: in parentheses, or at a word boundary. -/
def areaPattern : Pattern :=
  either (all [exactly "(", digits 3, exactly ")", optional (one isBlank)])
    (all [boundary, digits 3, one isSeparator])

/-- The parts of a telephone number between the country code and the word boundary at the end. -/
def localParts : List Pattern := [areaPattern, digits 3, one isSeparator, digits 4]

/-- The country code, if there is one. -/
def countryPattern : Pattern :=
  optional (all [optional (exactly "+"), exactly "1", optional (one isSeparator)])

theorem phonePattern_eq : phone.pattern = all (countryPattern :: (localParts ++ [boundary])) := rfl

/-- The first group of a telephone number: in parentheses, or where no word goes on. -/
inductive Area (b : Option Char) : List Char → Prop where
  | enclosed {g blank : List Char} : IsGroup 3 g →
      (blank = [] ∨ ∃ x, blank = [x] ∧ isBlank x = true) → Area b ('(' :: (g ++ ')' :: blank))
  | free {g : List Char} {s : Char} : b.any isWord = false → IsGroup 3 g →
      isSeparator s = true → Area b (g ++ [s])

/-- A telephone number without the country code, behind `b`. -/
inductive LocalNumber (b : Option Char) : List Char → Prop where
  | mk {area g h : List Char} {s : Char} : Area b area → IsGroup 3 g → isSeparator s = true →
      IsGroup 4 h → LocalNumber b (area ++ (g ++ s :: h))

/-- A separator that may be left out. -/
inductive Joint : List Char → Prop where
  | none : Joint []
  | some {s : Char} : isSeparator s = true → Joint [s]

/-- A country code, or nothing. -/
inductive CountryCode : List Char → Prop where
  | absent : CountryCode []
  | short {joint : List Char} : Joint joint → CountryCode ('1' :: joint)
  | long {joint : List Char} : Joint joint → CountryCode ('+' :: '1' :: joint)

theorem reads_joint_iff {b : Option Char} {w a : List Char} :
    (optional (one isSeparator)).Reads b w a ↔ Joint w := by
  rw [reads_optional]
  constructor
  · intro h
    rcases h with ⟨s, rfl, hs⟩ | rfl
    · exact .some hs
    · exact .none
  · intro h
    rcases h with - | hs
    · exact .inr rfl
    · exact .inl ⟨_, rfl, hs⟩

/-- A word boundary in front of a word character. -/
theorem reads_boundary_before_word {b : Option Char} {w a : List Char}
    (ha : a.head?.any isWord = true) :
    boundary.Reads b w a ↔ w = [] ∧ b.any isWord = false := by
  simp [Reads, isWordBoundary, ha]

/-- A word boundary behind a word character. -/
theorem reads_boundary_behind_word {b : Option Char} (hb : b.any isWord = true) {w a : List Char} :
    boundary.Reads b w a ↔ w = [] ∧ a.head?.any isWord = false := by
  simp [Reads, isWordBoundary, hb]

theorem reads_area_iff {b : Option Char} {w a : List Char} :
    areaPattern.Reads b w a ↔ Area b w := by
  constructor
  · intro h
    rcases h with ⟨_, _, rfl, ho, g, _, rfl, hg, _, _, rfl, hc, blank, _, rfl, hblank, rfl⟩ |
        ⟨_, _, rfl, hb, g, _, rfl, hg, _, _, rfl, ⟨s, rfl, hs⟩, rfl⟩
    · rw [reads_exactly.1 ho, reads_exactly.1 hc, List.append_nil]
      refine .enclosed (reads_group_iff.1 hg) ?_
      rcases reads_optional.1 hblank with ⟨x, rfl, hx⟩ | rfl
      · exact .inr ⟨x, rfl, hx⟩
      · exact .inl rfl
    · have hgroup := reads_group_iff.1 hg
      rw [List.append_assoc, reads_boundary_before_word (hgroup.head?_any_isWord _)] at hb
      obtain ⟨rfl, hb⟩ := hb
      exact .free hb hgroup hs
  · intro h
    rcases h with ⟨hg, hblank⟩ | ⟨hb, hg, hs⟩
    · rename_i g blank
      refine .inl ⟨['('], _, rfl, reads_exactly.2 rfl, g, _, rfl, reads_group_iff.2 hg, [')'], blank,
        rfl, reads_exactly.2 rfl, blank, [], by simp, reads_optional.2 ?_, rfl⟩
      rcases hblank with rfl | ⟨x, rfl, hx⟩
      · exact .inr rfl
      · exact .inl ⟨x, rfl, hx⟩
    · rename_i g s
      refine .inr ⟨[], g ++ [s], rfl, ?_, g, [s], rfl, reads_group_iff.2 hg, [s], [], rfl,
        ⟨s, rfl, hs⟩, rfl⟩
      rw [List.append_assoc, reads_boundary_before_word (hg.head?_any_isWord _)]
      exact ⟨rfl, hb⟩

theorem reads_localNumber_iff {b : Option Char} {w a : List Char} :
    (all localParts).Reads b w a ↔ LocalNumber b w := by
  constructor
  · intro h
    obtain ⟨area, _, rfl, harea, g, _, rfl, hg, _, _, rfl, ⟨s, rfl, hs⟩, h, _, rfl, hh, rfl⟩ := h
    rw [List.append_nil]
    exact .mk (reads_area_iff.1 harea) (reads_group_iff.1 hg) hs (reads_group_iff.1 hh)
  · intro h
    obtain ⟨harea, hg, hs, hh⟩ := h
    rename_i area g h s
    exact ⟨area, _, rfl, reads_area_iff.2 harea, g, _, rfl, reads_group_iff.2 hg, [s], h, rfl,
      ⟨s, rfl, hs⟩, h, [], (List.append_nil h).symm, reads_group_iff.2 hh, rfl⟩

theorem LocalNumber.lastOf_any_isWord {b : Option Char} {x : List Char} (h : LocalNumber b x) :
    (lastOf b x).any isWord = true := by
  cases h with
  | mk _ _ _ hh =>
    rw [lastOf_append, lastOf_append, lastOf_cons]
    exact hh.lastOf_any_isWord _

/-- **What is read as a telephone number**: a country code or nothing, and a local number that ends
    where no word goes on. -/
theorem reads_phone_iff {b : Option Char} {w a : List Char} :
    phone.pattern.Reads b w a ↔ ∃ k x, w = k ++ x ∧ CountryCode k ∧ LocalNumber (lastOf b k) x ∧
      a.head?.any isWord = false := by
  constructor
  · intro h
    rw [phonePattern_eq] at h
    obtain ⟨k, v, rfl, hk, hv⟩ := reads_all_cons.1 h
    obtain ⟨x, _, rfl, hx, _, _, rfl, hend, rfl⟩ := reads_all_append.1 hv
    have hlocal := reads_localNumber_iff.1 hx
    obtain ⟨rfl, ha⟩ := (reads_boundary_behind_word hlocal.lastOf_any_isWord).1 hend
    refine ⟨k, x, by simp, ?_, hlocal, ha⟩
    rcases reads_optional.1 hk with ⟨_, _, rfl, hp, _, _, rfl, h₁, joint, _, rfl, hj, rfl⟩ | rfl
    · rw [reads_exactly.1 h₁, List.append_nil]
      have hjoint := reads_joint_iff.1 hj
      rcases reads_optional.1 hp with hp | hp
      · rw [reads_exactly.1 hp]
        exact .long hjoint
      · rw [hp]
        exact .short hjoint
    · exact .absent
  · intro h
    obtain ⟨k, x, rfl, hk, hx, ha⟩ := h
    rw [phonePattern_eq]
    refine reads_all_cons.2 ⟨k, x, rfl, reads_optional.2 ?_, ?_⟩
    · cases hk with
      | absent => exact .inr rfl
      | @short joint hj =>
        exact .inl ⟨[], _, rfl, reads_optional.2 (.inr rfl), ['1'], joint, rfl,
          reads_exactly.2 rfl, joint, [], by simp, reads_joint_iff.2 hj, rfl⟩
      | @long joint hj =>
        exact .inl ⟨['+'], _, rfl, reads_optional.2 (.inl (reads_exactly.2 rfl)), ['1'], joint, rfl,
          reads_exactly.2 rfl, joint, [], by simp, reads_joint_iff.2 hj, rfl⟩
    · refine reads_all_append.2 ⟨x, [], by simp, reads_localNumber_iff.2 hx, [], [], rfl, ?_, rfl⟩
      exact (reads_boundary_behind_word hx.lastOf_any_isWord).2 ⟨rfl, ha⟩

/-- Three, two and four digits with hyphens between them. -/
inductive SocialNumber : List Char → Prop where
  | mk {g h k : List Char} : IsGroup 3 g → IsGroup 2 h → IsGroup 4 k →
      SocialNumber (g ++ '-' :: (h ++ '-' :: k))

theorem reads_ssn {b : Option Char} {w a : List Char} (h : ssn.pattern.Reads b w a) :
    b.any isWord = false ∧ SocialNumber w ∧ a.head?.any isWord = false := by
  obtain ⟨_, _, rfl, hb, g, _, rfl, hg, _, _, rfl, h₁, g₂, _, rfl, hg₂, _, _, rfl, h₂, g₄, _, rfl,
    hg₄, _, _, rfl, hend, rfl⟩ := h
  have hgroup := reads_group_iff.1 hg
  have hlast := reads_group_iff.1 hg₄
  simp only [List.append_assoc] at hb
  obtain ⟨rfl, hbefore⟩ := (reads_boundary_before_word (hgroup.head?_any_isWord _)).1 hb
  obtain ⟨rfl, ha⟩ := (reads_boundary_behind_word (hlast.lastOf_any_isWord _)).1 hend
  rw [reads_exactly.1 h₁, reads_exactly.1 h₂]
  have hnumber := SocialNumber.mk hgroup (reads_group_iff.1 hg₂) hlast
  exact ⟨hbefore, by simpa using hnumber, ha⟩

/-- A text that starts with a word character and ends with five digits or more. -/
inductive StudentNumber : List Char → Prop where
  | mk {x : Char} {w g : List Char} {n : Nat} : isWord x = true → IsGroup (n + 5) g →
      StudentNumber (x :: (w ++ g))

theorem isWord_of_foldCase_eq_s {x : Char} (h : foldCase x = 's') : isWord x = true := by
  unfold foldCase at h
  split at h
  · rename_i hx
    rw [Bool.and_eq_true, decide_eq_true_eq, decide_eq_true_eq] at hx
    have hlow : x.toNat < 0x80 := by omega
    simp [isWord, hlow, isAsciiLetter, hx]
  · split at h
    · rename_i hx
      rw [beq_iff_eq.1 hx]
      decide +kernel
    · split at h
      · exact absurd h (by decide)
      · rw [h]
        decide

theorem reads_studentId {b : Option Char} {w a : List Char} (h : studentId.pattern.Reads b w a) :
    b.any isWord = false ∧ StudentNumber w ∧ a.head?.any isWord = false := by
  obtain ⟨_, _, rfl, hb, s, _, rfl, hs, bl, _, rfl, -, col, _, rfl, -, bl₂, _, rfl, -, g, _, rfl,
    hg, _, _, rfl, hend, rfl⟩ := h
  obtain ⟨x, s, rfl, hx⟩ : ∃ x s', s = x :: s' ∧ isWord x = true := by
    obtain ⟨p, hp, hr⟩ := (reads_any (by simp)).1 hs
    obtain ⟨t, ht, rfl⟩ := List.mem_map.1 hp
    have hfold := reads_word.1 hr
    cases s with
    | nil =>
      simp only [List.mem_cons, List.not_mem_nil, or_false] at ht
      rcases ht with rfl | rfl <;> cases hfold
    | cons x s =>
      refine ⟨x, s, rfl, isWord_of_foldCase_eq_s ?_⟩
      simp only [List.mem_cons, List.not_mem_nil, or_false] at ht
      rcases ht with rfl | rfl <;> exact (List.cons.inj hfold).1
  obtain ⟨rfl, hbefore⟩ := (reads_boundary_before_word (by simpa using hx)).1 hb
  obtain ⟨n, hn⟩ := Nat.exists_eq_add_of_le' hg.1
  have hgroup : IsGroup (n + 5) g := ⟨hn, hg.2.2⟩
  obtain ⟨rfl, ha⟩ := (reads_boundary_behind_word (hgroup.lastOf_any_isWord _)).1 hend
  have hnumber := StudentNumber.mk (w := s ++ (bl ++ (col ++ bl₂))) hx hgroup
  exact ⟨hbefore, by simpa using hnumber, ha⟩

/-! ## 3. Where words start and end -/

section Ends

variable {c : PersonalData} {b : Option Char} {w a : List Char}

/-- No word goes on behind a number. -/
theorem not_word_after (hc : c ≠ .email) (h : c.pattern.Reads b w a) :
    a.head?.any isWord = false := by
  cases c with
  | email => exact absurd rfl hc
  | phone =>
    obtain ⟨-, -, -, -, -, ha⟩ := reads_phone_iff.1 h
    exact ha
  | ssn => exact (reads_ssn h).2.2
  | studentId => exact (reads_studentId h).2.2

/-- A number ends with a word character. -/
theorem word_at_end (hc : c ≠ .email) (h : c.pattern.Reads b w a) :
    (lastOf b w).any isWord = true := by
  cases c with
  | email => exact absurd rfl hc
  | phone =>
    obtain ⟨k, x, rfl, -, hx, -⟩ := reads_phone_iff.1 h
    rw [lastOf_append]
    exact hx.lastOf_any_isWord
  | ssn =>
    obtain ⟨-, ⟨-, -, hk⟩, -⟩ := reads_ssn h
    simp only [lastOf_append, lastOf_cons]
    exact hk.lastOf_any_isWord _
  | studentId =>
    obtain ⟨-, ⟨-, hg⟩, -⟩ := reads_studentId h
    rw [lastOf_cons, lastOf_append]
    exact hg.lastOf_any_isWord _

theorem ne_email (hc : c = .ssn ∨ c = .studentId) : c ≠ .email := by
  rcases hc with rfl | rfl <;> decide

theorem eq_phone_or (hc : c ≠ .email) : c = .phone ∨ c = .ssn ∨ c = .studentId := by
  cases c with
  | email => exact absurd rfl hc
  | phone => exact .inl rfl
  | ssn => exact .inr (.inl rfl)
  | studentId => exact .inr (.inr rfl)

/-- No word goes on in front of a social security or student number. -/
theorem not_word_before (hc : c = .ssn ∨ c = .studentId) (h : c.pattern.Reads b w a) :
    b.any isWord = false := by
  rcases hc with rfl | rfl
  · exact (reads_ssn h).1
  · exact (reads_studentId h).1

/-- A social security or student number starts with a word character. -/
theorem word_at_start (hc : c = .ssn ∨ c = .studentId) (h : c.pattern.Reads b w a)
    (a' : List Char) : (w ++ a').head?.any isWord = true := by
  rcases hc with rfl | rfl
  · obtain ⟨-, ⟨hg, -, -⟩, -⟩ := reads_ssn h
    rw [List.append_assoc]
    exact hg.head?_any_isWord _
  · obtain ⟨-, ⟨hx, -⟩, -⟩ := reads_studentId h
    simpa using hx

theorem LocalNumber.of_not_word {b' : Option Char} {x : List Char} (h : LocalNumber b x)
    (hb' : b'.any isWord = false) : LocalNumber b' x := by
  obtain ⟨harea, hg, hs, hh⟩ := h
  refine .mk ?_ hg hs hh
  cases harea with
  | enclosed hg hblank => exact .enclosed hg hblank
  | free _ hg hs => exact .free hb' hg hs

/-- A telephone number that does not start with a word character may stand behind anything. -/
theorem reads_phone_of_not_word_at_start (h : phone.pattern.Reads b w a)
    (hw : w.head?.any isWord = false) (b' : Option Char) : phone.pattern.Reads b' w a := by
  obtain ⟨k, x, rfl, hk, hx, ha⟩ := reads_phone_iff.1 h
  refine reads_phone_iff.2 ⟨k, x, rfl, hk, ?_, ha⟩
  cases hk with
  | short hj => exact hx
  | long hj => exact hx
  | absent =>
    obtain ⟨harea, hg, hs, hh⟩ := hx
    refine .mk ?_ hg hs hh
    cases harea with
    | enclosed hg hblank => exact .enclosed hg hblank
    | free _ hg _ =>
      simp only [List.nil_append, List.append_assoc] at hw
      rw [hg.head?_any_isWord] at hw
      cases hw

end Ends

/-! ## 4. Digits in a row -/

/-- How many digits in a row end the text, if `n` of them stand in front of it. -/
def digitRun : Nat → List Char → Nat
  | n, [] => n
  | n, x :: w => digitRun (if isDigit x then n + 1 else 0) w

@[simp] theorem digitRun_nil (n : Nat) : digitRun n [] = n := rfl

theorem digitRun_append (n : Nat) (u v : List Char) :
    digitRun n (u ++ v) = digitRun (digitRun n u) v := by
  induction u generalizing n with
  | nil => rfl
  | cons x u ih => exact ih _

/-- Another character ends the digits in a row. -/
theorem digitRun_cons {x : Char} (hx : isDigit x = false) (n : Nat) (w : List Char) :
    digitRun n (x :: w) = digitRun 0 w := by
  rw [digitRun, hx]
  rfl

theorem digitRun_group {k : Nat} {g : List Char} (h : IsGroup k g) (n : Nat) :
    digitRun n g = n + k := by
  induction k generalizing n g with
  | zero =>
    rw [List.length_eq_zero_iff.1 h.1]
    rfl
  | succ k ih =>
    obtain ⟨x, g, rfl, hx, hg⟩ := h.exists_cons
    rw [digitRun, if_pos hx, ih hg]
    omega

theorem digitRun_eq_zero {w : List Char} (h : (lastOf none w).any isWord = false) :
    digitRun 0 w = 0 := by
  rcases List.eq_nil_or_concat w with rfl | ⟨w, x, rfl⟩
  · rfl
  · rw [List.concat_eq_append] at h ⊢
    rw [lastOf_concat] at h
    rw [digitRun_append, digitRun_cons (isDigit_eq_false_of_not_word h)]
    rfl

/-- Before each of its characters the text has at most `m` digits in a row, if `n` stand in front
    of it. -/
def RunsWithin (m : Nat) : Nat → List Char → Prop
  | _, [] => True
  | n, x :: w => n ≤ m ∧ RunsWithin m (if isDigit x then n + 1 else 0) w

theorem runsWithin_append {m n : Nat} {u v : List Char} :
    RunsWithin m n (u ++ v) ↔ RunsWithin m n u ∧ RunsWithin m (digitRun n u) v := by
  induction u generalizing n with
  | nil => exact (and_iff_right trivial).symm
  | cons x u ih => exact (and_congr_right fun _ => ih).trans and_assoc.symm

theorem runsWithin_cons {m n : Nat} {x : Char} {w : List Char} (hx : isDigit x = false) :
    RunsWithin m n (x :: w) ↔ n ≤ m ∧ RunsWithin m 0 w := by
  rw [RunsWithin, hx]
  rfl

theorem runsWithin_group {m n k : Nat} {g : List Char} (h : IsGroup k g) (hn : n + k ≤ m + 1) :
    RunsWithin m n g := by
  induction k generalizing n g with
  | zero =>
    rw [List.length_eq_zero_iff.1 h.1]
    trivial
  | succ k ih =>
    obtain ⟨x, g, rfl, hx, hg⟩ := h.exists_cons
    rw [RunsWithin, if_pos hx]
    exact ⟨by omega, ih hg (by omega)⟩

theorem RunsWithin.digitRun_le {m n : Nat} {u v : List Char} {y : Char}
    (h : RunsWithin m n (u ++ y :: v)) : digitRun n u ≤ m := (runsWithin_append.1 h).2.1

theorem Area.digitRun_eq {b : Option Char} {area : List Char} (h : Area b area) (n : Nat) :
    digitRun n area = 0 := by
  have nonword : ∀ {x}, isWord x = false → ∀ n, digitRun n [x] = 0 := fun hx n => by
    rw [digitRun_cons (isDigit_eq_false_of_not_word hx), digitRun_nil]
  cases h with
  | @enclosed g blank _ hblank =>
    rw [← List.cons_append, digitRun_append, digitRun_cons (by decide)]
    rcases hblank with rfl | ⟨x, rfl, hx⟩
    · rfl
    · exact nonword (isWord_eq_false_of_isBlank hx) 0
  | free _ _ hs =>
    rw [digitRun_append]
    exact nonword (isWord_eq_false_of_isSeparator hs) _

theorem isDigit_eq_false_of_isSeparator {s : Char} (h : isSeparator s = true) :
    isDigit s = false :=
  isDigit_eq_false_of_not_word (isWord_eq_false_of_isSeparator h)

/-- **A local number ends with four digits in a row**, whatever is in front of it. -/
theorem LocalNumber.digitRun_eq {b : Option Char} {x : List Char} (h : LocalNumber b x) (n : Nat) :
    digitRun n x = 4 := by
  obtain ⟨-, -, hs, hk⟩ := h
  rw [digitRun_append, digitRun_append, digitRun_cons (isDigit_eq_false_of_isSeparator hs),
    digitRun_group hk]

/-- **Elsewhere a local number has at most three digits in a row**: behind its first character, and
    before it if that is a digit. -/
theorem LocalNumber.digitRun_le {l u v : List Char} {y : Char}
    (h : LocalNumber (lastOf none l) (u ++ y :: v)) (hy : u ≠ [] ∨ isDigit y = true) :
    digitRun 0 (l ++ u) ≤ 3 := by
  generalize hx : u ++ y :: v = x at h
  obtain ⟨harea, hg, hs, hk⟩ := h
  rename_i area g k s
  have htail : RunsWithin 3 0 (g ++ s :: k) := by
    rw [runsWithin_append, runsWithin_cons (isDigit_eq_false_of_isSeparator hs), digitRun_group hg]
    exact ⟨runsWithin_group hg (by omega), by omega, runsWithin_group hk (by omega)⟩
  rw [digitRun_append]
  cases harea with
  | free hb hd hs' =>
    rw [digitRun_eq_zero hb]
    refine RunsWithin.digitRun_le (y := y) (v := v) ?_
    rw [hx, List.append_assoc, runsWithin_append]
    refine ⟨runsWithin_group hd (by omega), ?_⟩
    rw [digitRun_group hd, List.singleton_append,
      runsWithin_cons (isDigit_eq_false_of_isSeparator hs')]
    exact ⟨by omega, htail⟩
  | @enclosed d blank hd hblank =>
    cases u with
    | nil =>
      obtain rfl : y = '(' := (List.cons.inj hx).1
      exact absurd hy (by decide)
    | cons z u =>
      obtain rfl : z = '(' := (List.cons.inj hx).1
      have hu : u ++ y :: v = d ++ ')' :: blank ++ (g ++ s :: k) := (List.cons.inj hx).2
      rw [digitRun_cons (by decide)]
      refine RunsWithin.digitRun_le (y := y) (v := v) ?_
      rw [hu, List.append_assoc, runsWithin_append, digitRun_group hd, List.cons_append,
        runsWithin_cons (by decide)]
      refine ⟨runsWithin_group hd (by omega), by omega, ?_⟩
      rcases hblank with rfl | ⟨b, rfl, hb⟩
      · exact htail
      · rw [List.singleton_append,
          runsWithin_cons (isDigit_eq_false_of_not_word (isWord_eq_false_of_isBlank hb))]
        exact ⟨by omega, htail⟩

theorem Joint.not_digit {j : List Char} (h : Joint j) {x : Char} (hx : x ∈ j) :
    isDigit x = false := by
  cases h with
  | none => cases hx
  | some hs =>
    rw [List.mem_singleton.1 hx]
    exact isDigit_eq_false_of_isSeparator hs

/-- In front of the digit of a country code only a plus sign can stand. -/
theorem digitRun_le_of_countryCode {u v : List Char} {y : Char} (l : List Char)
    (h : CountryCode (u ++ y :: v)) (hu : u ≠ []) (hy : isDigit y = true) :
    digitRun 0 (l ++ u) ≤ 3 := by
  obtain ⟨z, u, rfl⟩ := List.exists_cons_of_ne_nil hu
  have apart : ∀ {j}, Joint j → y ∉ j := fun hj hm => by
    rw [hj.not_digit hm] at hy
    cases hy
  generalize hk : z :: u ++ y :: v = k at h
  cases h with
  | absent => cases hk
  | short hj =>
    obtain ⟨-, rfl⟩ := List.cons.inj hk
    exact absurd (by simp) (apart hj)
  | long hj =>
    obtain ⟨rfl, hrest⟩ := List.cons.inj hk
    cases u with
    | nil =>
      rw [digitRun_append, digitRun_cons (by decide)]
      exact Nat.zero_le 3
    | cons z u =>
      obtain ⟨-, rfl⟩ := List.cons.inj hrest
      exact absurd (by simp) (apart hj)

/-- Inside a telephone number at most three digits in a row stand in front of another one. -/
theorem digitRun_le_of_reads_phone {l u v a : List Char} {y : Char}
    (h : phone.pattern.Reads (lastOf none l) (u ++ y :: v) a) (hu : u ≠ [])
    (hy : isDigit y = true) : digitRun 0 (l ++ u) ≤ 3 := by
  obtain ⟨k, x, hw, hk, hx, -⟩ := reads_phone_iff.1 h
  rcases List.append_eq_append_iff.1 hw with ⟨k', rfl, hk'⟩ | ⟨u', rfl, rfl⟩
  · cases k' with
    | nil =>
      obtain rfl : y :: v = x := hk'
      rw [List.append_nil] at hx
      rw [← List.append_nil (l ++ u)]
      refine LocalNumber.digitRun_le (v := v) (y := y) ?_ (.inr hy)
      rwa [lastOf_append]
    | cons z k' =>
      obtain ⟨rfl, -⟩ := List.cons.inj hk'
      exact digitRun_le_of_countryCode l hk hu hy
  · rw [← lastOf_append] at hx
    rw [← List.append_assoc]
    exact hx.digitRun_le (.inr hy)

/-- A number ends with four digits in a row or more. -/
theorem four_le_digitRun {c : PersonalData} (hc : c ≠ .email) {b : Option Char} {w a : List Char}
    (h : c.pattern.Reads b w a) (n : Nat) : 4 ≤ digitRun n w := by
  cases c with
  | email => exact absurd rfl hc
  | phone =>
    obtain ⟨k, x, rfl, -, hx, -⟩ := reads_phone_iff.1 h
    rw [digitRun_append, hx.digitRun_eq]
  | ssn =>
    obtain ⟨-, ⟨-, -, hk⟩, -⟩ := reads_ssn h
    rw [digitRun_append, digitRun_cons (by decide), digitRun_append, digitRun_cons (by decide),
      digitRun_group hk]
  | studentId =>
    obtain ⟨-, ⟨-, hg⟩, -⟩ := reads_studentId h
    rw [← List.cons_append, digitRun_append, digitRun_group hg]
    omega

end Gatehouse.Safety.PersonalData
