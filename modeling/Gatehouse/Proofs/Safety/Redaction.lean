import Gatehouse.Proofs.Safety.Numbers

/-!
# What redaction leaves

The classes are replaced one after the other, and a placeholder is not part of words, so that a
replacement can make a word boundary where there was none.

* `runTogether` is the one shape where this matters: a telephone number that runs into the country
  code of the next one. It ends where a word goes on and is no telephone number; once the next one is
  replaced, it is;
* `occursIn_redact_iff`: what occurs in a redacted text is a telephone number, and it does exactly if
  numbers run together in the text without its mail addresses;
* `check_redact_eq_allowed_iff`, `redact_redact_eq_iff`: so say the check and a second redaction.
-/

namespace Gatehouse.Safety.PersonalData

open Gatehouse.Text
open Gatehouse.Pattern

/-! ## 1. Numbers that run together -/

/-- A local telephone number, and behind it, with nothing between them, a telephone number that starts
    with the country code `1`. -/
def runTogether : Pattern :=
  all [all localParts, exactly "1", optional (one isSeparator), all localParts, boundary]

/-- **Telephone numbers run together** in the text that is left once mail addresses are replaced. -/
def RunsTogether (text : String) : Prop :=
  runTogether.occursIn (redactClass .email text.toList) = true

instance (text : String) : Decidable (RunsTogether text) := instDecidableEqBool _ _

theorem reads_runTogether_iff {b : Option Char} {w a : List Char} :
    runTogether.Reads b w a ↔ ∃ x j y, w = x ++ '1' :: (j ++ y) ∧ LocalNumber b x ∧ Joint j ∧
      LocalNumber (lastOf (some '1') j) y ∧ a.head?.any isWord = false := by
  constructor
  · intro h
    obtain ⟨x, _, rfl, hx, _, _, rfl, h₁, j, _, rfl, hj, y, _, rfl, hy, _, _, rfl, hend, rfl⟩ := h
    obtain rfl := reads_exactly.1 h₁
    have hlocal := reads_localNumber_iff.1 hy
    obtain ⟨rfl, ha⟩ := (reads_boundary_behind_word hlocal.lastOf_any_isWord).1 hend
    exact ⟨x, j, y, by simp, reads_localNumber_iff.1 hx, reads_joint_iff.1 hj, hlocal, ha⟩
  · intro h
    obtain ⟨x, j, y, rfl, hx, hj, hy, ha⟩ := h
    refine ⟨x, '1' :: (j ++ y), rfl, reads_localNumber_iff.2 hx, ['1'], j ++ y, rfl,
      reads_exactly.2 rfl, j, y, rfl, reads_joint_iff.2 hj, y, [], by simp,
      reads_localNumber_iff.2 hy, [], [], rfl, ?_, rfl⟩
    exact (reads_boundary_behind_word hy.lastOf_any_isWord).2 ⟨rfl, ha⟩

/-! ## 2. The first of two numbers stays -/

/-- A local telephone number stands in the text in front of a placeholder. -/
def Leftover (text : List Char) : Prop :=
  ∃ l x r, text = l ++ (x ++ '[' :: r) ∧ LocalNumber (lastOf none l) x

theorem LocalNumber.ne_nil {b : Option Char} {x : List Char} (h : LocalNumber b x) : x ≠ [] := by
  obtain ⟨-, -, -, -⟩ := h
  simp

/-- A local number stays one if what is replaced is in front of it. -/
theorem LocalNumber.of_plain {d : PersonalData} {s : List Segment} {x : List Char}
    (h : LocalNumber (lastOf none (plain s)) x) :
    LocalNumber (lastOf none (filled d.placeholder.toList s)) x := by
  rcases lastOf_filled d.bracketed_placeholder none s with heq | ⟨s', w, -, hclose⟩
  · rwa [heq]
  · rw [hclose]
    exact h.of_not_word (by decide)

/-- A number that ends in a local number ends with it. -/
theorem LocalNumber.eq_nil_of_reads {c : PersonalData} (hc : c ≠ .email) {k w a l u v : List Char}
    (hx : LocalNumber (lastOf none l) (u ++ v)) (hr : c.pattern.Reads (lastOf none k) w a)
    (hu : u ≠ []) (hkw : k ++ w = l ++ u) : v = [] := by
  cases v with
  | nil => rfl
  | cons y v =>
    have hle := hx.digitRun_le (.inl hu)
    rw [← hkw, digitRun_append] at hle
    have hge := four_le_digitRun hc hr (digitRun 0 k)
    omega

/-- A local number ends with no social security or student number. -/
theorem LocalNumber.ne_of_reads {c : PersonalData} (hc : c = .ssn ∨ c = .studentId)
    {k w a l x : List Char} (hx : LocalNumber (lastOf none l) x)
    (hr : c.pattern.Reads (lastOf none k) w a) : k ++ w ≠ l ++ x := by
  intro hkw
  rcases hc with rfl | rfl
  · -- the group in front of the last separator has two digits in the one and three in the other
    obtain ⟨-, ⟨-, hh, hg⟩, -⟩ := reads_ssn hr
    obtain ⟨harea, hg', hs, hk⟩ := hx
    rename_i g₃ g₂ g₄ area g₃' g₄' s
    have hsplit : (k ++ (g₃ ++ '-' :: g₂)) ++ ('-' :: g₄) = (l ++ (area ++ g₃')) ++ (s :: g₄') := by
      simpa using hkw
    have hlen : ('-' :: g₄).length = (s :: g₄').length := by
      rw [List.length_cons, List.length_cons, hg.1, hk.1]
    have hrun := congrArg (digitRun 0) (List.append_inj' hsplit hlen).1
    rw [digitRun_append, digitRun_append, digitRun_cons (by decide), digitRun_group hh,
      digitRun_append, digitRun_append, harea.digitRun_eq, digitRun_group hg'] at hrun
    omega
  · obtain ⟨-, ⟨-, hg⟩, -⟩ := reads_studentId hr
    have hrun := congrArg (digitRun 0) hkw
    rw [← List.cons_append, digitRun_append, digitRun_append, digitRun_group hg, digitRun_append,
      hx.digitRun_eq] at hrun
    omega

/-- **The first of two numbers that run together stays when the second is replaced.** -/
theorem leftover_of_runTogether {text : List Char} (h : runTogether.occursIn text = true) :
    Leftover (redactClass .phone text) := by
  obtain ⟨l, _, r, ht, hr⟩ := occursIn_iff.1 h
  obtain ⟨x, j, y, rfl, hx, hj, hy, ha⟩ := reads_runTogether_iff.1 hr
  have hcut := phone.cut_pattern text
  have hplain : plain (phone.pattern.segments text) = l ++ (x ++ '1' :: (j ++ y ++ r)) := by
    rw [plain_segments, ht]
    simp
  obtain ⟨s, m, hpieces, rfl, hm⟩ := hcut.exists_kept_of_apart hplain hx.ne_nil
    (by
      rintro k w a u v hw rfl hu hkw rfl
      obtain rfl := hx.eq_nil_of_reads (by decide) hw hu hkw
      have hafter := not_word_after (by decide) hw
      revert hafter
      simp only [List.nil_append, List.head?_cons, Option.any_some]
      decide)
    (by
      intro k u v a hw hu hv hku hva
      obtain ⟨z, v, rfl⟩ := List.exists_cons_of_ne_nil hv
      obtain rfl : z = '1' := (List.cons.inj hva).1
      have hle := digitRun_le_of_reads_phone hw hu (by decide)
      rw [hku, digitRun_append, hx.digitRun_eq] at hle
      omega)
  rw [hpieces] at hcut
  rw [redactClass_eq, hpieces]
  cases m with
  | nil => cases hm
  | cons piece m =>
    cases piece with
    | kept z =>
      -- the second number would have been read here
      rw [plain_kept] at hm
      have hfails := hcut.failsAt
      rw [hm] at hfails
      refine absurd (reads_phone_iff.2 ⟨'1' :: j, y, rfl, .short hj, hy, ha⟩)
        (hfails ('1' :: j ++ y) r (by simp))
    | found v =>
      obtain ⟨f, hf⟩ : ∃ f, phone.placeholder.toList = '[' :: f := ⟨_, rfl⟩
      refine ⟨filled phone.placeholder.toList s, x, f ++ filled phone.placeholder.toList m, ?_,
        hx.of_plain⟩
      simp [hf]

/-- What is left stays when social security and student numbers are replaced. -/
theorem Leftover.redactClass {c : PersonalData} (hc : c = .ssn ∨ c = .studentId)
    {text : List Char} (h : Leftover text) : Leftover (redactClass c text) := by
  obtain ⟨l, x, r, rfl, hx⟩ := h
  have hcut := c.cut_pattern (l ++ (x ++ '[' :: r))
  obtain ⟨s, m, hpieces, rfl, hm⟩ := hcut.exists_kept_of_apart (plain_segments ..) hx.ne_nil
    (by
      rintro k w a u v hw rfl hu hkw -
      obtain rfl := hx.eq_nil_of_reads (ne_email hc) hw hu hkw
      rw [List.append_nil] at hx
      exact hx.ne_of_reads hc hw hkw)
    (by
      intro k u v a hw _ hv _ hva
      obtain ⟨z, v, rfl⟩ := List.exists_cons_of_ne_nil hv
      obtain rfl : z = '[' := (List.cons.inj hva).1
      exact hw.not_mem c.avoids_open (by simp))
  rw [hpieces] at hcut
  rw [redactClass_eq, hpieces]
  cases m with
  | nil => cases hm
  | cons piece m =>
    cases piece with
    | kept z =>
      obtain rfl : z = '[' := (List.cons.inj hm).1
      refine ⟨filled c.placeholder.toList s, x, filled c.placeholder.toList m, ?_, hx.of_plain⟩
      simp
    | found v =>
      obtain ⟨z, v, rfl⟩ := List.exists_cons_of_ne_nil hcut.found_ne_nil
      obtain rfl : z = '[' := (List.cons.inj hm).1
      exact absurd (by simp) (hcut.reads_found.not_mem c.avoids_open)

theorem Leftover.occursIn {text : List Char} (h : Leftover text) :
    phone.pattern.occursIn text = true := by
  obtain ⟨l, x, r, rfl, hx⟩ := h
  refine occursIn_iff.2 ⟨l, x, '[' :: r, rfl, reads_phone_iff.2 ⟨[], x, rfl, .absent, hx, ?_⟩⟩
  rw [List.head?_cons]
  decide

/-! ## 3. Nothing else stays -/

section Neighbours

variable {c d : PersonalData} {text w a : List Char} {s m : List Segment}

/-- Behind a replaced number a number is read as it was before. -/
theorem reads_behind_plain (hc : c ≠ .email) (hd : d ≠ .email)
    (hpieces : d.pattern.segments text = s ++ w.map .kept ++ m)
    (hr : c.pattern.Reads (lastOf none (filled d.placeholder.toList s)) w a) :
    c.pattern.Reads (lastOf none (plain s)) w a := by
  rcases lastOf_filled d.bracketed_placeholder none s with heq | ⟨s, v, rfl, -⟩
  · rwa [← heq]
  -- no word goes on behind the replaced number, so that this one does not start with a word character
  have hcut := d.cut_pattern text
  rw [hpieces, List.append_assoc, List.append_assoc] at hcut
  have hafter := not_word_after hd hcut.reads_found
  obtain ⟨x, w, rfl⟩ := List.exists_cons_of_ne_nil (hr.ne_nil c.takes_pattern)
  replace hafter : isWord x = false := hafter
  rcases eq_phone_or hc with rfl | hguarded
  · exact reads_phone_of_not_word_at_start hr hafter _
  · have hstart := word_at_start hguarded hr []
    rw [List.append_nil, List.head?_cons, Option.any_some, hafter] at hstart
    cases hstart

/-- A number that stands in front of a replaced social security or student number was read there. -/
theorem reads_before_plain (hc : c ≠ .email) (hd : d = .ssn ∨ d = .studentId)
    (hpieces : d.pattern.segments text = s ++ w.map .kept ++ m)
    (hr : c.pattern.Reads (lastOf none (plain s)) w (filled d.placeholder.toList m)) :
    c.pattern.Reads (lastOf none (plain s)) w (plain m) := by
  rcases head?_filled d.bracketed_placeholder m with heq | ⟨v, m, rfl, -⟩
  · exact hr.of_surroundings rfl (by rw [heq])
  · have hcut := d.cut_pattern text
    rw [hpieces] at hcut
    have hbefore := not_word_before hd hcut.reads_found
    rw [plain_append, plain_map_kept, lastOf_append, word_at_end hc hr] at hbefore
    cases hbefore

end Neighbours

/-- **A number in a text without social security or student numbers was there before** they were
    replaced. -/
theorem exists_kept_of_occursIn {c d : PersonalData} (hc : c ≠ .email)
    (hd : d = .ssn ∨ d = .studentId) {text : List Char}
    (h : c.pattern.occursIn (redactClass d text) = true) :
    ∃ s w m, d.pattern.segments text = s ++ w.map .kept ++ m ∧ w ≠ [] ∧
      c.pattern.Reads (lastOf none (plain s)) w (plain m) := by
  obtain ⟨l, w, a, ht, hr⟩ := occursIn_iff.1 h
  obtain ⟨s, m, hpieces, rfl, rfl⟩ := exists_kept_of_redactClass ht hr
  exact ⟨s, w, m, hpieces, hr.ne_nil c.takes_pattern,
    reads_before_plain hc hd hpieces (reads_behind_plain hc (ne_email hd) hpieces hr)⟩

theorem occursIn_of_redactClass {c d : PersonalData} (hc : c ≠ .email)
    (hd : d = .ssn ∨ d = .studentId) {text : List Char}
    (h : c.pattern.occursIn (redactClass d text) = true) : c.pattern.occursIn text = true := by
  obtain ⟨s, w, m, hpieces, -, hr⟩ := exists_kept_of_occursIn hc hd h
  refine occursIn_iff.2 ⟨plain s, w, plain m, ?_, hr⟩
  rw [← plain_segments d.pattern text, hpieces]
  simp

theorem not_occursIn_redactClass_self {c : PersonalData} (hc : c = .ssn ∨ c = .studentId)
    (text : List Char) : c.pattern.occursIn (redactClass c text) ≠ true := by
  intro h
  obtain ⟨s, w, m, hpieces, hw, hr⟩ := exists_kept_of_occursIn (ne_email hc) hc h
  have hcut := c.cut_pattern text
  rw [hpieces] at hcut
  exact hcut.not_reads_kept hw hr

/-- A mail address needs no word boundary, so that no replacement makes one. -/
theorem email_occursIn_of_redactClass {d : PersonalData} {text : List Char}
    (h : email.pattern.occursIn (redactClass d text) = true) :
    email.pattern.occursIn text = true := by
  have hplain := occursIn_plain_of_filled (by decide +kernel) d.bracketed_placeholder
    email.avoids_open email.avoids_close (needsBeyond_placeholder .email d) h
  rwa [plain_segments] at hplain

theorem email_not_occursIn_redactClass (text : List Char) :
    email.pattern.occursIn (redactClass .email text) ≠ true := by
  intro h
  obtain ⟨l, w, a, ht, hr⟩ := occursIn_iff.1 h
  obtain ⟨s, m, hpieces, -, -⟩ := exists_kept_of_redactClass ht hr
  have hcut := email.cut_pattern text
  rw [hpieces] at hcut
  exact hcut.not_reads_kept (hr.ne_nil email.takes_pattern) (hr.of_isFree (by decide +kernel) _ _)

/-- **A telephone number that is left when telephone numbers are replaced ran into the next one.** -/
theorem runTogether_of_phone_occursIn {text : List Char}
    (h : phone.pattern.occursIn (redactClass .phone text) = true) :
    runTogether.occursIn text = true := by
  obtain ⟨l, w, a, ht, hr⟩ := occursIn_iff.1 h
  obtain ⟨s, m, hpieces, rfl, rfl⟩ := exists_kept_of_redactClass ht hr
  have hw := hr.ne_nil phone.takes_pattern
  have hr := reads_behind_plain (by decide) (by decide) hpieces hr
  have hcut := phone.cut_pattern text
  rw [hpieces] at hcut
  have hplain := hcut.not_reads_kept hw
  have hsame : (plain m).head?.any isWord = true := by
    rw [← Bool.not_eq_false]
    intro hm
    exact hplain (hr.of_surroundings rfl (by rw [not_word_after (by decide) hr, hm]))
  rcases head?_filled phone.bracketed_placeholder m with heq | ⟨v, m, rfl, -⟩
  · rw [← heq, not_word_after (by decide) hr] at hsame
    cases hsame
  · have hv := hcut.reads_found
    rw [plain_append, plain_map_kept, lastOf_append] at hv
    obtain ⟨k, x, rfl, hk, hx, ha⟩ := reads_phone_iff.1 hv
    obtain ⟨k', x', rfl, -, hx', -⟩ := reads_phone_iff.1 hr
    cases hk with
    | @short j hj =>
      refine occursIn_iff.2 ⟨plain s ++ k', x' ++ '1' :: (j ++ x), plain m, ?_,
        reads_runTogether_iff.2 ⟨x', j, x, rfl, ?_, hj, hx, ha⟩⟩
      · rw [← plain_segments phone.pattern text, hpieces]
        simp
      · rwa [lastOf_append]
    | long hj => exact absurd (show isWord '+' = true from hsame) (by decide)
    | absent =>
      obtain ⟨harea, -, -, -⟩ := hx
      cases harea with
      | enclosed hg hblank => exact absurd (show isWord '(' = true from hsame) (by decide)
      | free hb _ _ =>
        rw [lastOf_nil, word_at_end (by decide) hr] at hb
        cases hb

/-! ## 4. What occurs in a redacted text -/

/-- **What occurs in a redacted text**: a telephone number, if numbers ran together, and nothing
    else. -/
theorem occursIn_redact_iff (text : String) (c : PersonalData) :
    c.pattern.occursIn (redact text).toList = true ↔ c = .phone ∧ RunsTogether text := by
  rw [toList_redact]
  constructor
  · intro h
    cases c with
    | email =>
      have hemail := email_occursIn_of_redactClass (email_occursIn_of_redactClass
        (email_occursIn_of_redactClass h))
      exact absurd hemail (email_not_occursIn_redactClass text.toList)
    | phone =>
      have hssn := occursIn_of_redactClass (by decide) (.inr rfl) h
      have hphone := occursIn_of_redactClass (by decide) (.inl rfl) hssn
      exact ⟨rfl, runTogether_of_phone_occursIn hphone⟩
    | ssn =>
      have hssn := occursIn_of_redactClass (by decide) (.inr rfl) h
      exact absurd hssn (not_occursIn_redactClass_self (.inl rfl) _)
    | studentId => exact absurd h (not_occursIn_redactClass_self (.inr rfl) _)
  · intro h
    obtain ⟨rfl, h⟩ := h
    exact (((leftover_of_runTogether h).redactClass (.inl rfl)).redactClass (.inr rfl)).occursIn

theorem occurrences_redact_eq_zero_iff (text : String) :
    (∀ c, occurrences (redact text) c = 0) ↔ ¬ RunsTogether text := by
  simp only [occurrences_eq_zero_iff, ← Bool.not_eq_true, occursIn_redact_iff]
  constructor
  · exact fun h hrun => h .phone ⟨rfl, hrun⟩
  · exact fun h c hc => h hc.2

/-- **A redacted text passes exactly if no numbers ran together.** -/
theorem check_redact_eq_allowed_iff (text : String) :
    check .output (redact text) = .allowed ↔ ¬ RunsTogether text := by
  rw [check_output_eq_allowed_iff, occurrences_redact_eq_zero_iff]

/-- A second redaction changes nothing exactly if no numbers ran together. -/
theorem redact_redact_eq_iff (text : String) :
    redact (redact text) = redact text ↔ ¬ RunsTogether text := by
  rw [redact_eq_self_iff, occurrences_redact_eq_zero_iff]

/-- In a text without personal data no numbers run together. -/
theorem not_runsTogether_of_occurrences_eq_zero {text : String}
    (h : ∀ c, occurrences text c = 0) : ¬ RunsTogether text := by
  rw [← occurrences_redact_eq_zero_iff, (redact_eq_self_iff text).2 h]
  exact h

end Gatehouse.Safety.PersonalData
