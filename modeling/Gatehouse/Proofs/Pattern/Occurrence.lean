import Gatehouse.Pattern.Search
import Gatehouse.Proofs.Pattern.Reading

/-!
# Where a pattern occurs

* `reads_of_first?`, `failsAt_iff_first?_eq_none`: the best match is a word that is read, and there is
  none only where nothing is read;
* `rest_of_first?_many`: an eager repetition takes all there is;
* `FailsAt.barren`: after a failed attempt the places that a search skips would fail too;
* `occursIn_iff`: a pattern occurs in a text exactly if it reads some word of it where it stands;
* `Inner.occursIn_append_iff`: where it occurs in two texts put together, if it only looks at the
  words it reads;
* `occursIn_padded`: what occurs in a text occurs in the padded text, if the padding is no part of words
  where it meets the text.
-/

namespace Gatehouse.Pattern

open Gatehouse.Text

/-! ## 1. The best match -/

/-- The pattern reads no word from the start of the text on. -/
def FailsAt (p : Pattern) (before : Option Char) (text : List Char) : Prop :=
  ∀ w a, text = w ++ a → ¬ p.Reads before w a

theorem failsAt_iff_first?_eq_none {p : Pattern} {b : Option Char} {k : Nat} {text : List Char} :
    p.first? ⟨b, k, text⟩ = none ↔ p.FailsAt b text := by
  rw [← Option.not_isSome_iff_eq_none, first?_isSome_iff]
  constructor
  · rintro h w a rfl hr
    exact h ⟨_, hr.spans k⟩
  · rintro h ⟨d, hs⟩
    obtain ⟨w, ht, -, hr⟩ := spans_iff_reads.1 hs
    exact h w d.rest ht hr

/-- The best match is one. -/
theorem reads_of_first? {p : Pattern} {b : Option Char} {k : Nat} {text : List Char} {d : Cursor}
    (h : p.first? ⟨b, k, text⟩ = some d) :
    ∃ w, text = w ++ d.rest ∧ d = ⟨lastOf b w, k + w.length, d.rest⟩ ∧ p.Reads b w d.rest := by
  rw [first?_eq_head?] at h
  exact spans_iff_reads.1 ((mem_ends_iff p _ d).1 (List.mem_of_mem_head? h))

/-- The best match of two patterns ends where a best match of the second one ends. -/
theorem exists_first?_of_seq {p q : Pattern} {c d : Cursor} (h : (seq p q).first? c = some d) :
    ∃ e, q.first? e = some d := by
  rw [first?, run, run_eq_findSome?] at h
  obtain ⟨e, -, he⟩ := List.exists_of_findSome?_eq_some h
  exact ⟨e, he⟩

/-- The first of the places that an unbounded repetition reaches is the last one. -/
theorem rest_of_head?_repeats {kind : Char → Bool} {least : Nat} {before : Option Char} {k : Nat}
    {rest : List Char} {found : List Cursor} {d : Cursor}
    (h : (repeats kind least none before k rest found).head? = some d) :
    d.rest.head?.any kind = false ∨ (0 < least ∧ found.head? = some d) := by
  induction rest generalizing least before k found with
  | nil =>
    rw [repeats] at h
    cases least with
    | zero =>
      obtain rfl := Option.some.inj h
      exact .inl rfl
    | succ least => exact .inr ⟨Nat.succ_pos least, h⟩
  | cons x rest ih =>
    rw [repeats] at h
    by_cases hx : kind x = true
    · rw [if_pos (by rw [hx]; rfl)] at h
      rcases ih h with h | ⟨hl, h⟩
      · exact .inl h
      · rw [if_neg (by omega)] at h
        exact .inr ⟨by omega, h⟩
    · rw [if_neg (by simp [hx])] at h
      cases least with
      | zero =>
        obtain rfl := Option.some.inj h
        exact .inl (by simpa using hx)
      | succ least => exact .inr ⟨Nat.succ_pos least, h⟩

/-- Behind the best match of an eager repetition no further character of the kind stands. -/
theorem rest_of_first?_many {kind : Char → Bool} {least : Nat} {c d : Cursor}
    (h : (many kind least none true).first? c = some d) : d.rest.head?.any kind = false := by
  rw [first?_eq_head?] at h
  rcases rest_of_head?_repeats h with h | ⟨-, h⟩
  · exact h
  · cases h

/-! ## 2. Places that are skipped -/

/-- Nothing is read from any place of the text on that only characters of the kind lead to and that
    a character of the kind stands at. -/
def Barren (p : Pattern) (kind : Char → Bool) (before : Option Char) (text : List Char) : Prop :=
  ∀ u y a, text = u ++ y :: a → (∀ x ∈ u, kind x = true) → kind y = true →
    p.FailsAt (lastOf before u) (y :: a)

theorem barren_noKind (p : Pattern) (b : Option Char) (text : List Char) :
    p.Barren noKind b text := by
  intro u y a _ _ hy
  cases hy

theorem Barren.failsAt {p : Pattern} {kind : Char → Bool} {b : Option Char} {x : Char}
    {rest : List Char} (h : p.Barren kind b (x :: rest)) (hx : kind x = true) :
    p.FailsAt b (x :: rest) :=
  h [] x rest rfl (by simp) hx

theorem Barren.tail {p : Pattern} {kind : Char → Bool} {b : Option Char} {x : Char}
    {rest : List Char} (h : p.Barren kind b (x :: rest)) (hx : kind x = true) :
    p.Barren kind (some x) rest := by
  rintro u y a rfl hu hy
  refine h (x :: u) y a rfl ?_ hy
  intro z hz
  rcases List.mem_cons.1 hz with rfl | hz
  · exact hx
  · exact hu z hz

/-- **After a failed attempt the places that are skipped would fail too**: a word read from one of
    them could be reached from the failed place. -/
theorem FailsAt.barren {p : Pattern} {b : Option Char} {x : Char} {rest : List Char}
    (h : p.FailsAt b (x :: rest)) : p.Barren (p.barrenAfter x) (some x) rest := by
  unfold barrenAfter
  split
  · -- a repetition of at least one character: it could have started at the failed place
    rename_i kind eager q
    by_cases hx : kind x = true
    · rw [if_pos hx]
      rintro u y a rfl hu hy w r hw ⟨s, v, rfl, ⟨hl, -, hs⟩, hv⟩
      have hne : s ≠ [] := by rintro rfl; simp at hl
      refine h (x :: (u ++ s) ++ v) r ?_ ⟨x :: (u ++ s), v, rfl, ⟨?_, ?_, ?_⟩, ?_⟩
      · rw [hw]; simp
      · simp
      · simp [Room]
      · intro z hz
        rcases List.mem_cons.1 hz with rfl | hz
        · exact hx
        · exact (List.mem_append.1 hz).elim (hu z) (hs z)
      · rw [lastOf_cons, lastOf_append, lastOf_of_ne_nil _ (lastOf (some x) u) hne]
        exact hv
    · rw [if_neg hx]
      exact barren_noKind _ _ _
  · -- one character and a repetition: the repetition could have gone over the skipped places
    rename_i first kind eager q
    by_cases hx : first x = true
    · rw [if_pos hx]
      rintro u y a rfl hu hy w r hw ⟨s, v, rfl, ⟨z, rfl, hz⟩, s', v', rfl, ⟨-, -, hs⟩, hv⟩
      obtain ⟨rfl, ha⟩ : y = z ∧ a = s' ++ v' ++ r := by simpa using hw
      refine h ([x] ++ ((u ++ y :: s') ++ v')) r ?_
        ⟨[x], (u ++ y :: s') ++ v', rfl, ⟨x, rfl, hx⟩, u ++ y :: s', v', rfl, ⟨?_, ?_, ?_⟩, ?_⟩
      · rw [ha]; simp
      · simp
      · simp [Room]
      · intro z hz
        rcases List.mem_append.1 hz with hz | hz
        · exact hu z hz
        · rcases List.mem_cons.1 hz with rfl | hz
          · exact hy
          · exact hs z hz
      · rw [lastOf_append]
        exact hv
    · rw [if_neg hx]
      exact barren_noKind _ _ _
  · exact barren_noKind _ _ _

/-! ## 3. Occurrence -/

theorem occursFrom_eq_false_iff {p : Pattern} {kind : Char → Bool} {b : Option Char}
    {text : List Char} (h : p.Barren kind b text) : p.occursFrom kind b text = false ↔
      ∀ l t, text = l ++ t → p.FailsAt (lastOf b l) t := by
  induction text generalizing kind b with
  | nil =>
    have hfirst : (p.run ⟨b, 0, []⟩ some).isSome = false ↔ p.FailsAt b [] := by
      rw [← failsAt_iff_first?_eq_none (k := 0), first?, Option.isSome_eq_false_iff,
        Option.isNone_iff_eq_none]
    rw [occursFrom, hfirst]
    constructor
    · intro hf l t hlt
      obtain ⟨rfl, rfl⟩ := List.append_eq_nil_iff.1 hlt.symm
      exact hf
    · exact fun hf => hf [] [] rfl
  | cons x rest ih =>
    have hcons : (∀ l t, x :: rest = l ++ t → p.FailsAt (lastOf b l) t) ↔
        p.FailsAt b (x :: rest) ∧ ∀ l t, rest = l ++ t → p.FailsAt (lastOf (some x) l) t := by
      constructor
      · intro hf
        exact ⟨hf [] _ rfl, fun l t hlt => hf (x :: l) t (by rw [hlt]; rfl)⟩
      · rintro ⟨hx, hf⟩ l t hlt
        cases l with
        | nil => obtain rfl : x :: rest = t := hlt; exact hx
        | cons y l =>
          rw [List.cons_append, List.cons.injEq] at hlt
          obtain ⟨rfl, rfl⟩ := hlt
          exact hf l t rfl
    rw [hcons, occursFrom]
    by_cases hx : kind x = true
    · rw [if_pos hx, ih (h.tail hx)]
      exact (and_iff_right (h.failsAt hx)).symm
    · rw [if_neg hx]
      cases hr : p.run ⟨b, 0, x :: rest⟩ some with
      | some d =>
        have : ¬ p.FailsAt b (x :: rest) := by
          rw [← failsAt_iff_first?_eq_none (k := 0), first?, hr]
          simp
        simp [this]
      | none =>
        have hf : p.FailsAt b (x :: rest) := failsAt_iff_first?_eq_none.1 hr
        rw [ih hf.barren]
        exact (and_iff_right hf).symm

/-- **A pattern occurs in a text exactly if it reads a word of it where the word stands.** -/
theorem occursIn_iff {p : Pattern} {text : List Char} :
    p.occursIn text = true ↔ ∃ l w a, text = l ++ (w ++ a) ∧ p.Reads (lastOf none l) w a := by
  have h := occursFrom_eq_false_iff (barren_noKind p none text)
  rw [← Bool.not_eq_false, occursIn, h]
  constructor
  · intro hn
    simp only [FailsAt, not_forall, not_not] at hn
    obtain ⟨l, t, rfl, w, a, rfl, hr⟩ := hn
    exact ⟨l, w, a, rfl, hr⟩
  · rintro ⟨l, w, a, rfl, hr⟩ hf
    exact hf l (w ++ a) rfl w a rfl hr

/-! ## 4. Texts put together -/

/-- **The pattern only looks at the words it reads**, and not at what stands around them. -/
def Inner (p : Pattern) : Prop :=
  ∀ ⦃b b' : Option Char⦄ ⦃w a a' : List Char⦄, p.Reads b w a → p.Reads b' w a'

theorem inner_of_isFree {p : Pattern} (hp : p.isFree = true) : p.Inner :=
  fun _ b' _ _ a' h => h.of_isFree hp b' a'

/-- A word that is read somewhere in the text is enough. -/
theorem Inner.occursIn_of_reads {p : Pattern} (hp : p.Inner) {b : Option Char} {w c : List Char}
    (h : p.Reads b w c) (l a : List Char) : p.occursIn (l ++ (w ++ a)) = true :=
  occursIn_iff.2 ⟨l, w, a, rfl, hp h⟩

/-- What occurs in a part of a text occurs in the text. -/
theorem Inner.occursIn_of_part {p : Pattern} (hp : p.Inner) {s : List Char}
    (h : p.occursIn s = true) (l r : List Char) : p.occursIn (l ++ s ++ r) = true := by
  obtain ⟨l', w, a, rfl, hr⟩ := occursIn_iff.1 h
  have hocc := hp.occursIn_of_reads hr (l ++ l') (a ++ r)
  simpa using hocc

/-- **Where a pattern occurs in two texts put together**: in one of them, or across the place where
    they meet. -/
theorem Inner.occursIn_append_iff {p : Pattern} (hp : p.Inner) {s t : List Char} :
    p.occursIn (s ++ t) = true ↔ p.occursIn s = true ∨ p.occursIn t = true ∨
      ∃ l u v a, s = l ++ u ∧ t = v ++ a ∧ u ≠ [] ∧ v ≠ [] ∧ p.Reads none (u ++ v) [] := by
  constructor
  · intro h
    obtain ⟨l, w, a, heq, hr⟩ := occursIn_iff.1 h
    rcases List.append_eq_append_iff.1 heq with ⟨l', rfl, rfl⟩ | ⟨u, rfl, hw⟩
    · -- the word begins behind the place
      exact .inr (.inl (hp.occursIn_of_reads hr l' a))
    · rcases List.append_eq_append_iff.1 hw with ⟨a', rfl, rfl⟩ | ⟨v, rfl, rfl⟩
      · -- the word ends in front of the place
        exact .inl (hp.occursIn_of_reads hr l a')
      · by_cases hu : u = []
        · subst hu
          exact .inr (.inl (hp.occursIn_of_reads hr [] a))
        · by_cases hv : v = []
          · subst hv
            have hocc := hp.occursIn_of_reads hr l []
            exact .inl (by simpa using hocc)
          · exact .inr (.inr ⟨l, u, v, a, rfl, rfl, hu, hv, hp hr⟩)
  · intro h
    rcases h with h | h | ⟨l, u, v, a, rfl, rfl, -, -, hr⟩
    · have hocc := hp.occursIn_of_part h [] t
      exact hocc
    · have hocc := hp.occursIn_of_part h s []
      rwa [List.append_nil] at hocc
    · have hocc := hp.occursIn_of_reads hr l a
      simpa using hocc

/-! ## 5. Padded texts -/

section Padded

variable {before after : List Char}

/-- The text is empty or ends with a character that is no part of words. -/
def EndsApart (text : List Char) : Prop := text.getLast?.any isWord = false

/-- The text is empty or starts with a character that is no part of words. -/
def StartsApart (text : List Char) : Prop := text.head?.any isWord = false

instance (text : List Char) : Decidable (EndsApart text) := instDecidableEqBool _ _

instance (text : List Char) : Decidable (StartsApart text) := instDecidableEqBool _ _

theorem lastOf_none (text : List Char) : lastOf none text = text.getLast? := by
  cases text with
  | nil => rfl
  | cons x text => exact (getLast?_cons_eq_lastOf none x text).symm

/-- A place in the text is behind a word in the padded text exactly if it is in the text. -/
theorem lastOf_padded (hbefore : EndsApart before) (l : List Char) :
    (lastOf none (before ++ l)).any isWord = (lastOf none l).any isWord := by
  rw [lastOf_append]
  cases l with
  | nil =>
    rw [lastOf_nil, lastOf_nil, lastOf_none]
    exact hbefore
  | cons x l => rfl

/-- And so it is with a place in front of a word. -/
theorem head?_padded (hafter : StartsApart after) (a : List Char) :
    (a ++ after).head?.any isWord = a.head?.any isWord := by
  cases a with
  | nil => exact hafter
  | cons x a => rfl

/-- **What occurs in a text occurs in the padded text.** -/
theorem occursIn_padded {p : Pattern} (hbefore : EndsApart before) (hafter : StartsApart after)
    {text : List Char} (h : p.occursIn text = true) :
    p.occursIn (before ++ text ++ after) = true := by
  obtain ⟨l, w, a, rfl, hr⟩ := occursIn_iff.1 h
  have hpadded : p.Reads (lastOf none (before ++ l)) w (a ++ after) :=
    hr.of_surroundings (lastOf_padded hbefore l).symm (head?_padded hafter a).symm
  refine occursIn_iff.2 ⟨before ++ l, w, a ++ after, ?_, hpadded⟩
  simp

end Padded

end Gatehouse.Pattern
