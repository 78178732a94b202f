import Mathlib.Data.List.Forall2
import Gatehouse.Pattern.Basic

/-!
# What a pattern reads

`Pattern.Spans` speaks about places. Here a match is a word between the character before it and the
text after it:

* `Pattern.Reads` says which words a pattern reads, by recursion on the pattern;
* `spans_iff_reads`: a match leads from one place to another exactly if the pattern reads the word
  between them;
* `Pattern.isFree`, `Pattern.avoids` and `Pattern.needsBeyond` are tests of a pattern that say
  something about every word it reads: that what surrounds the word does not matter, that a character
  is not in it, that some character of it is not from a given list.
-/

namespace Gatehouse.Pattern

open Gatehouse.Text

/-! ## 1. Words in their surroundings -/

/-- The character before the place behind the word, if `before` is the one in front of it. -/
def lastOf (before : Option Char) : List Char → Option Char
  | [] => before
  | x :: word => lastOf (some x) word

@[simp] theorem lastOf_nil (b : Option Char) : lastOf b [] = b := rfl

@[simp] theorem lastOf_cons (b : Option Char) (x : Char) (w : List Char) :
    lastOf b (x :: w) = lastOf (some x) w := rfl

theorem lastOf_append (b : Option Char) (u v : List Char) :
    lastOf b (u ++ v) = lastOf (lastOf b u) v := by
  induction u generalizing b with
  | nil => rfl
  | cons x u ih => exact ih (some x)

@[simp] theorem lastOf_concat (b : Option Char) (w : List Char) (x : Char) :
    lastOf b (w ++ [x]) = some x := by
  rw [lastOf_append]
  rfl

/-- Behind a word that is not empty it does not matter what is in front of it. -/
theorem lastOf_of_ne_nil (b b' : Option Char) {w : List Char} (h : w ≠ []) :
    lastOf b w = lastOf b' w := by
  cases w with
  | nil => exact absurd rfl h
  | cons x w => rfl

theorem getLast?_cons_eq_lastOf (b : Option Char) (x : Char) (w : List Char) :
    (x :: w).getLast? = lastOf b (x :: w) := by
  induction w generalizing x b with
  | nil => rfl
  | cons y w ih =>
    rw [List.getLast?_cons_cons, ih (some x)]
    rfl

/-- **The words a pattern reads**, between the character before the word and the text after it. -/
def Reads : Pattern → (before : Option Char) → (word after : List Char) → Prop
  | .nothing, _, w, _ => w = []
  | .one kind, _, w, _ => ∃ x, w = [x] ∧ kind x = true
  | .boundary, b, w, a => w = [] ∧ isWordBoundary b a.head? = true
  | .seq p q, b, w, a => ∃ u v, w = u ++ v ∧ p.Reads b u (v ++ a) ∧ q.Reads (lastOf b u) v a
  | .either p q, b, w, a => p.Reads b w a ∨ q.Reads b w a
  | .many kind least most _, _, w, _ =>
    least ≤ w.length ∧ Room most w.length ∧ ∀ x ∈ w, kind x = true

theorem steps_iff {kind : Char → Bool} {n k : Nat} {b : Option Char} {text : List Char}
    {d : Cursor} : Steps kind n ⟨b, k, text⟩ d ↔
      ∃ w, text = w ++ d.rest ∧ w.length = n ∧ d = ⟨lastOf b w, k + n, d.rest⟩ ∧
        ∀ x ∈ w, kind x = true := by
  induction n generalizing b k text with
  | zero =>
    rw [steps_zero_iff]
    constructor
    · rintro rfl
      exact ⟨[], rfl, rfl, rfl, by simp⟩
    · intro h
      obtain ⟨w, ht, hn, hd, -⟩ := h
      obtain rfl := List.length_eq_zero_iff.1 hn
      rw [hd, ht]
      rfl
  | succ n ih =>
    constructor
    · intro h
      cases h with
      | succ hk h =>
        obtain ⟨w, ht, hn, hd, hw⟩ := ih.1 h
        refine ⟨_ :: w, by rw [ht]; rfl, by rw [← hn]; rfl, ?_, ?_⟩
        · rw [hd]
          simp only [lastOf_cons, Nat.add_assoc, Nat.add_comm 1]
        · intro x hx
          rcases List.mem_cons.1 hx with rfl | hx
          · exact hk
          · exact hw x hx
    · intro h
      obtain ⟨w, ht, hn, hd, hw⟩ := h
      cases w with
      | nil => simp at hn
      | cons x w =>
        subst ht
        refine .succ (hw x List.mem_cons_self) (ih.2 ⟨w, rfl, by simpa using hn, ?_, ?_⟩)
        · rw [hd]
          simp only [lastOf_cons, Nat.add_assoc, Nat.add_comm 1]
        · exact fun y hy => hw y (List.mem_cons_of_mem _ hy)

/-- A word that a pattern reads is a match. -/
theorem Reads.spans {p : Pattern} {b : Option Char} {w a : List Char} (k : Nat)
    (h : p.Reads b w a) : Spans p ⟨b, k, w ++ a⟩ ⟨lastOf b w, k + w.length, a⟩ := by
  induction p generalizing b w a k with
  | nothing => obtain rfl := h; exact .nothing _
  | one kind => obtain ⟨x, rfl, hx⟩ := h; exact .one hx
  | boundary => obtain ⟨rfl, hb⟩ := h; exact .boundary hb
  | seq p q ihp ihq =>
    obtain ⟨u, v, rfl, hu, hv⟩ := h
    have hu := ihp k hu
    have hv := ihq (k + u.length) hv
    rw [List.append_assoc, lastOf_append, List.length_append, ← Nat.add_assoc]
    exact .seq hu hv
  | either p q ihp ihq =>
    rcases h with h | h
    · exact .left (ihp k h)
    · exact .right (ihq k h)
  | many kind least most eager =>
    obtain ⟨hl, hr, hw⟩ := h
    exact .many hl hr (steps_iff.2 ⟨w, rfl, rfl, rfl, hw⟩)

/-- **A match leads from one place to another exactly if the pattern reads the word between them.** -/
theorem spans_iff_reads {p : Pattern} {b : Option Char} {k : Nat} {text : List Char} {d : Cursor} :
    Spans p ⟨b, k, text⟩ d ↔
      ∃ w, text = w ++ d.rest ∧ d = ⟨lastOf b w, k + w.length, d.rest⟩ ∧ p.Reads b w d.rest := by
  constructor
  · intro h
    generalize hc : (⟨b, k, text⟩ : Cursor) = c at h
    induction h generalizing b k text with
    | nothing c => subst hc; exact ⟨[], rfl, rfl, rfl⟩
    | one hx => cases hc; exact ⟨[_], rfl, rfl, _, rfl, hx⟩
    | boundary hb => subst hc; exact ⟨[], rfl, rfl, rfl, hb⟩
    | seq h₁ h₂ ih₁ ih₂ =>
      obtain ⟨u, hu, hd, hp⟩ := ih₁ hc
      obtain ⟨v, hv, he, hq⟩ := ih₂ hd.symm
      rw [hv] at hu hp
      refine ⟨u ++ v, by rw [hu, List.append_assoc], ?_, u, v, rfl, hp, hq⟩
      rw [he, lastOf_append, List.length_append, Nat.add_assoc]
    | left h ih =>
      obtain ⟨w, hw, hd, hp⟩ := ih hc
      exact ⟨w, hw, hd, .inl hp⟩
    | right h ih =>
      obtain ⟨w, hw, hd, hp⟩ := ih hc
      exact ⟨w, hw, hd, .inr hp⟩
    | many hl hr hs =>
      subst hc
      obtain ⟨w, hw, rfl, hd, hk⟩ := steps_iff.1 hs
      exact ⟨w, hw, hd, hl, hr, hk⟩
  · intro h
    obtain ⟨w, rfl, hd, h⟩ := h
    rw [hd]
    exact h.spans k

/-! ## 2. What the shorthands read -/

@[simp] theorem reads_all_nil {b : Option Char} {w a : List Char} :
    (all []).Reads b w a ↔ w = [] := Iff.rfl

theorem reads_all_cons {p : Pattern} {ps : List Pattern} {b : Option Char} {w a : List Char} :
    (all (p :: ps)).Reads b w a ↔
      ∃ u v, w = u ++ v ∧ p.Reads b u (v ++ a) ∧ (all ps).Reads (lastOf b u) v a := Iff.rfl

theorem reads_all_append {ps qs : List Pattern} {b : Option Char} {w a : List Char} :
    (all (ps ++ qs)).Reads b w a ↔
      ∃ u v, w = u ++ v ∧ (all ps).Reads b u (v ++ a) ∧ (all qs).Reads (lastOf b u) v a := by
  induction ps generalizing b w with
  | nil =>
    constructor
    · intro h
      exact ⟨[], w, rfl, rfl, h⟩
    · intro h
      obtain ⟨_, v, rfl, rfl, hv⟩ := h
      exact hv
  | cons p ps ih =>
    rw [List.cons_append, reads_all_cons]
    constructor
    · intro h
      obtain ⟨u, v, rfl, hu, hv⟩ := h
      obtain ⟨v₁, v₂, rfl, h₁, h₂⟩ := ih.1 hv
      refine ⟨u ++ v₁, v₂, (List.append_assoc ..).symm, ⟨u, v₁, rfl, ?_, h₁⟩, ?_⟩
      · rwa [List.append_assoc] at hu
      · rwa [lastOf_append]
    · intro h
      obtain ⟨_, v, rfl, ⟨u₁, u₂, rfl, h₁, h₂⟩, hv⟩ := h
      refine ⟨u₁, u₂ ++ v, List.append_assoc .., ?_, ih.2 ⟨u₂, v, rfl, h₂, ?_⟩⟩
      · rwa [List.append_assoc]
      · rwa [← lastOf_append]

theorem reads_any {ps : List Pattern} (hps : ps ≠ []) {b : Option Char} {w a : List Char} :
    (any ps).Reads b w a ↔ ∃ p ∈ ps, p.Reads b w a := by
  induction ps with
  | nil => exact absurd rfl hps
  | cons p ps ih =>
    cases ps with
    | nil => simp [any]
    | cons q ps =>
      show p.Reads b w a ∨ (any (q :: ps)).Reads b w a ↔ _
      rw [ih (List.cons_ne_nil q ps)]
      simp only [List.mem_cons, exists_eq_or_imp]

theorem reads_optional {p : Pattern} {b : Option Char} {w a : List Char} :
    (optional p).Reads b w a ↔ p.Reads b w a ∨ w = [] := Iff.rfl

theorem reads_many {kind : Char → Bool} {least : Nat} {eager : Bool} {b : Option Char}
    {w a : List Char} : (many kind least none eager).Reads b w a ↔
      least ≤ w.length ∧ ∀ x ∈ w, kind x = true := by
  simp [Reads, Room]

theorem reads_digits {n : Nat} {b : Option Char} {w a : List Char} :
    (digits n).Reads b w a ↔ w.length = n ∧ ∀ x ∈ w, isDigit x = true := by
  simp only [digits, Reads, Room, Option.some.injEq, forall_eq']
  constructor
  · intro h
    obtain ⟨h₁, h₂, h⟩ := h
    exact ⟨Nat.le_antisymm h₂ h₁, h⟩
  · intro h
    obtain ⟨h₁, h⟩ := h
    exact ⟨Nat.le_of_eq h₁.symm, Nat.le_of_eq h₁, h⟩

/-- One character after the other: each of the word is of the kind at its place. -/
theorem reads_ones {kind : Char → Char → Bool} {cs : List Char} {b : Option Char}
    {w a : List Char} : (all (cs.map (fun c => one (kind c)))).Reads b w a ↔
      List.Forall₂ (fun c x => kind c x = true) cs w := by
  induction cs generalizing b w with
  | nil => simp
  | cons c cs ih =>
    rw [List.map_cons, reads_all_cons, List.forall₂_cons_left_iff]
    constructor
    · intro h
      obtain ⟨_, v, rfl, ⟨x, rfl, hx⟩, hv⟩ := h
      exact ⟨x, v, hx, ih.1 hv, rfl⟩
    · intro h
      obtain ⟨x, v, hx, hv, rfl⟩ := h
      exact ⟨[x], v, rfl, ⟨x, rfl, hx⟩, ih.2 hv⟩

theorem reads_exactly {s : String} {b : Option Char} {w a : List Char} :
    (exactly s).Reads b w a ↔ w = s.toList := by
  rw [exactly, reads_ones]
  simp only [beq_iff_eq]
  rw [← List.forall₂_eq_eq_eq]
  constructor <;> exact fun h => List.Forall₂.flip h

theorem reads_word {s : String} {b : Option Char} {w a : List Char} :
    (word s).Reads b w a ↔ w.map foldCase = s.toList := by
  rw [word, reads_ones]
  simp only [beq_iff_eq]
  rw [← List.forall₂_eq_eq_eq, List.forall₂_map_left_iff]
  constructor <;> exact fun h => List.Forall₂.flip h

/-! ## 3. Tests that hold for every word read -/

/-- Is the pattern without word boundaries? -/
def isFree : Pattern → Bool
  | .nothing | .one _ | .many .. => true
  | .boundary => false
  | .seq p q | .either p q => p.isFree && q.isFree

/-- Is the character of no kind that the pattern asks for? -/
def avoids (x : Char) : Pattern → Bool
  | .nothing | .boundary => true
  | .one kind | .many kind .. => !kind x
  | .seq p q | .either p q => p.avoids x && q.avoids x

/-- Does the pattern ask for a character of a kind that none of the given characters is of? -/
def needsBeyond (cs : List Char) : Pattern → Bool
  | .nothing | .boundary => false
  | .one kind => cs.all (fun c => !kind c)
  | .many kind least .. => decide (0 < least) && cs.all (fun c => !kind c)
  | .seq p q => p.needsBeyond cs || q.needsBeyond cs
  | .either p q => p.needsBeyond cs && q.needsBeyond cs

/-- Without word boundaries it does not matter what surrounds the word. -/
theorem Reads.of_isFree {p : Pattern} (hp : p.isFree = true) {b : Option Char} {w a : List Char}
    (h : p.Reads b w a) (b' : Option Char) (a' : List Char) : p.Reads b' w a' := by
  induction p generalizing b w a b' a' with
  | nothing => exact h
  | one kind => exact h
  | boundary => simp [isFree] at hp
  | seq p q ihp ihq =>
    simp only [isFree, Bool.and_eq_true] at hp
    obtain ⟨u, v, rfl, hu, hv⟩ := h
    exact ⟨u, v, rfl, ihp hp.1 hu b' (v ++ a'), ihq hp.2 hv (lastOf b' u) a'⟩
  | either p q ihp ihq =>
    simp only [isFree, Bool.and_eq_true] at hp
    exact h.imp (fun h => ihp hp.1 h b' a') (fun h => ihq hp.2 h b' a')
  | many kind least most eager => exact h

/-- What surrounds a word matters only as far as it is part of words or not. -/
theorem Reads.of_surroundings {p : Pattern} {b b' : Option Char} {w a a' : List Char}
    (hb : b.any isWord = b'.any isWord) (ha : a.head?.any isWord = a'.head?.any isWord)
    (h : p.Reads b w a) : p.Reads b' w a' := by
  induction p generalizing b b' w a a' with
  | nothing => exact h
  | one kind => exact h
  | boundary =>
    obtain ⟨rfl, h⟩ := h
    refine ⟨rfl, ?_⟩
    rw [isWordBoundary, ← hb, ← ha]
    exact h
  | seq p q ihp ihq =>
    obtain ⟨u, v, rfl, hu, hv⟩ := h
    refine ⟨u, v, rfl, ihp hb ?_ hu, ihq ?_ ha hv⟩
    · cases v with
      | nil => exact ha
      | cons x v => rfl
    · cases u with
      | nil => exact hb
      | cons x u => rw [lastOf_cons, lastOf_cons]
  | either p q ihp ihq => exact h.imp (ihp hb ha) (ihq hb ha)
  | many kind least most eager => exact h

/-- A character of no kind asked for is in no word read. -/
theorem Reads.not_mem {p : Pattern} {x : Char} (hp : p.avoids x = true) {b : Option Char}
    {w a : List Char} (h : p.Reads b w a) : x ∉ w := by
  have apart : ∀ kind : Char → Bool, (!kind x) = true → ∀ y, kind y = true → x ≠ y := by
    rintro kind hx y hy rfl
    simp [hy] at hx
  induction p generalizing b w a with
  | nothing => obtain rfl := h; simp
  | one kind =>
    obtain ⟨y, rfl, hy⟩ := h
    exact fun hm => apart kind hp y hy (List.mem_singleton.1 hm)
  | boundary => obtain ⟨rfl, -⟩ := h; simp
  | seq p q ihp ihq =>
    simp only [avoids, Bool.and_eq_true] at hp
    obtain ⟨u, v, rfl, hu, hv⟩ := h
    rw [List.mem_append, not_or]
    exact ⟨ihp hp.1 hu, ihq hp.2 hv⟩
  | either p q ihp ihq =>
    simp only [avoids, Bool.and_eq_true] at hp
    exact h.elim (ihp hp.1) (ihq hp.2)
  | many kind least most eager =>
    exact fun hm => apart kind hp x (h.2.2 x hm) rfl

/-- Where a character is asked for that the given ones are not, every word read has one. -/
theorem Reads.exists_not_mem {p : Pattern} {cs : List Char} (hp : p.needsBeyond cs = true)
    {b : Option Char} {w a : List Char} (h : p.Reads b w a) : ∃ x ∈ w, x ∉ cs := by
  have apart : ∀ kind : Char → Bool, (cs.all fun c => !kind c) = true → ∀ y, kind y = true →
      y ∉ cs := by
    intro kind hcs y hy hm
    have := List.all_eq_true.1 hcs y hm
    simp [hy] at this
  induction p generalizing b w a with
  | nothing => simp [needsBeyond] at hp
  | one kind =>
    obtain ⟨y, rfl, hy⟩ := h
    exact ⟨y, List.mem_singleton_self y, apart kind hp y hy⟩
  | boundary => simp [needsBeyond] at hp
  | seq p q ihp ihq =>
    simp only [needsBeyond, Bool.or_eq_true] at hp
    obtain ⟨u, v, rfl, hu, hv⟩ := h
    rcases hp with hp | hp
    · obtain ⟨x, hx, hc⟩ := ihp hp hu
      exact ⟨x, List.mem_append_left v hx, hc⟩
    · obtain ⟨x, hx, hc⟩ := ihq hp hv
      exact ⟨x, List.mem_append_right u hx, hc⟩
  | either p q ihp ihq =>
    simp only [needsBeyond, Bool.and_eq_true] at hp
    exact h.elim (ihp hp.1) (ihq hp.2)
  | many kind least most eager =>
    simp only [needsBeyond, Bool.and_eq_true, decide_eq_true_eq] at hp
    cases w with
    | nil => exact absurd (Nat.lt_of_lt_of_le hp.1 h.1) (Nat.lt_irrefl 0)
    | cons x w => exact ⟨x, List.mem_cons_self, apart kind hp.2 x (h.2.2 x List.mem_cons_self)⟩

/-- A pattern that asks for any character at all reads no empty word. -/
theorem Reads.ne_nil {p : Pattern} (hp : p.needsBeyond [] = true) {b : Option Char}
    {w a : List Char} (h : p.Reads b w a) : w ≠ [] := by
  obtain ⟨x, hx, -⟩ := h.exists_not_mem hp
  exact List.ne_nil_of_mem hx

end Gatehouse.Pattern
