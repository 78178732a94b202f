import Mathlib.Data.List.Induction
import Gatehouse.Proofs.Pattern.Occurrence

/-!
# What a search finds

* `Cut` says what the pieces are that a text is cut into: a match is the best one at its place, and
  no match starts at a character that is kept (`cut_segments`);
* `PlaceIn`: a place in the text lies between two pieces or inside a match;
* `count_eq_zero_iff`: nothing is found exactly if the pattern does not occur;
* `Cut.exists_kept_of_apart`: a word that no match ends in or goes across is kept.
-/

namespace Gatehouse.Pattern

open Gatehouse.Text

/-! ## 1. The pieces of a searched text -/

/-- The text of the pieces. -/
def plain (pieces : List Segment) : List Char := pieces.flatMap Segment.chars

@[simp] theorem plain_nil : plain [] = [] := rfl

@[simp] theorem plain_kept (x : Char) (pieces : List Segment) :
    plain (.kept x :: pieces) = x :: plain pieces := rfl

@[simp] theorem plain_found (w : List Char) (pieces : List Segment) :
    plain (.found w :: pieces) = w ++ plain pieces := rfl

@[simp] theorem plain_append (s t : List Segment) : plain (s ++ t) = plain s ++ plain t :=
  List.flatMap_append

@[simp] theorem plain_map_kept (w : List Char) : plain (w.map .kept) = w := by
  induction w with
  | nil => rfl
  | cons x w ih => rw [List.map_cons, plain_kept, ih]

/-- **The pieces are those that a search leaves**: a match is not empty and is the best one at its
    place, and no match starts at a character that is kept. -/
inductive Cut (p : Pattern) : Option Char → List Segment → Prop where
  | nil (b : Option Char) : Cut p b []
  | kept {b : Option Char} {x : Char} {pieces : List Segment} :
      p.FailsAt b (x :: plain pieces) → Cut p (some x) pieces → Cut p b (.kept x :: pieces)
  | found {b : Option Char} {w : List Char} {pieces : List Segment} : w ≠ [] →
      p.first? ⟨b, 0, w ++ plain pieces⟩ = some ⟨lastOf b w, w.length, plain pieces⟩ →
      Cut p (lastOf b w) pieces → Cut p b (.found w :: pieces)

theorem plain_segmentsFrom (p : Pattern) (kind : Char → Bool) (b : Option Char)
    (text : List Char) : plain (p.segmentsFrom kind b [] text) = text :=
  flatMap_chars_segmentsFrom p kind b text

theorem segmentsFrom_singleton (p : Pattern) (kind : Char → Bool) (b : Option Char)
    (piece : Segment) (text : List Char) :
    p.segmentsFrom kind b [piece] text = piece :: p.segmentsFrom kind b [] text := by
  rw [segmentsFrom_eq]
  rfl

/-- A pattern that reads no empty word cuts every text in this way. -/
theorem cut_segmentsFrom {p : Pattern} (hp : p.needsBeyond [] = true) {kind : Char → Bool}
    {b : Option Char} {text : List Char} (h : p.Barren kind b text) :
    p.Cut b (p.segmentsFrom kind b [] text) := by
  induction hn : text.length using Nat.strongRecOn generalizing kind b text with
  | ind n ih =>
    cases text with
    | nil =>
      rw [segmentsFrom]
      exact .nil b
    | cons x rest =>
      have hrest : rest.length < n := by rw [← hn]; exact Nat.lt_succ_self _
      unfold segmentsFrom
      by_cases hx : kind x = true
      · rw [if_pos hx, segmentsFrom_singleton]
        refine .kept ?_ (ih _ hrest (h.tail hx) rfl)
        rw [plain_segmentsFrom]
        exact h.failsAt hx
      · rw [if_neg hx]
        cases hd : p.first? ⟨b, 0, x :: rest⟩ with
        | none =>
          have hf : p.FailsAt b (x :: rest) := failsAt_iff_first?_eq_none.1 hd
          simp only [Option.map_none]
          rw [segmentsFrom_singleton]
          refine .kept ?_ (ih _ hrest hf.barren rfl)
          rw [plain_segmentsFrom]
          exact hf
        | some d =>
          obtain ⟨w, ht, hdw, hr⟩ := reads_of_first? hd
          cases w with
          | nil => exact absurd rfl (hr.ne_nil hp)
          | cons y w =>
            obtain ⟨rfl, hrw⟩ : x = y ∧ rest = w ++ d.rest := by simpa using ht
            have htaken : d.taken = w.length + 1 := by rw [hdw]; simp
            have hlen : d.rest.length < n := by
              rw [← hn, hrw, List.length_cons, List.length_append]
              omega
            simp only [Option.map_some, htaken]
            rw [segmentsFrom_singleton, hrw, List.take_left, List.drop_left,
              getLast?_cons_eq_lastOf b]
            refine .found (List.cons_ne_nil x w) ?_ (ih _ hlen (barren_noKind _ _ _) rfl)
            rw [plain_segmentsFrom, List.cons_append, ← hrw, hd, hdw]
            simp

theorem cut_segments {p : Pattern} (hp : p.needsBeyond [] = true) (text : List Char) :
    p.Cut none (p.segments text) :=
  cut_segmentsFrom hp (barren_noKind p none text)

theorem plain_segments (p : Pattern) (text : List Char) : plain (p.segments text) = text :=
  plain_segmentsFrom p noKind none text

/-- What is behind some of the pieces is cut in the same way. -/
theorem Cut.of_append {p : Pattern} {b : Option Char} {s t : List Segment} (h : p.Cut b (s ++ t)) :
    p.Cut (lastOf b (plain s)) t := by
  induction s generalizing b with
  | nil => exact h
  | cons piece s ih =>
    cases h with
    | kept _ h => exact ih h
    | @found _ w _ _ _ h =>
      rw [plain_found, lastOf_append]
      exact ih h

/-- Where a character is kept nothing is read. -/
theorem Cut.failsAt {p : Pattern} {b : Option Char} {s t : List Segment} {x : Char}
    (h : p.Cut b (s ++ .kept x :: t)) : p.FailsAt (lastOf b (plain s)) (x :: plain t) := by
  cases h.of_append with
  | kept hf _ => exact hf

theorem Cut.first?_found {p : Pattern} {b : Option Char} {s t : List Segment} {w : List Char}
    (h : p.Cut b (s ++ .found w :: t)) : p.first? ⟨lastOf b (plain s), 0, w ++ plain t⟩ =
      some ⟨lastOf (lastOf b (plain s)) w, w.length, plain t⟩ := by
  cases h.of_append with
  | found _ hd _ => exact hd

/-- What is found is read where it stands. -/
theorem Cut.reads_found {p : Pattern} {b : Option Char} {s t : List Segment} {w : List Char}
    (h : p.Cut b (s ++ .found w :: t)) : p.Reads (lastOf b (plain s)) w (plain t) := by
  obtain ⟨u, hu, -, hr⟩ := reads_of_first? h.first?_found
  obtain rfl : w = u := List.append_cancel_right hu
  exact hr

theorem Cut.found_ne_nil {p : Pattern} {b : Option Char} {s t : List Segment} {w : List Char}
    (h : p.Cut b (s ++ .found w :: t)) : w ≠ [] := by
  cases h.of_append with
  | found hw _ _ => exact hw

/-- A word that consists of kept characters is not read. -/
theorem Cut.not_reads_kept {p : Pattern} {b : Option Char} {s t : List Segment} {w : List Char}
    (h : p.Cut b (s ++ w.map .kept ++ t)) (hw : w ≠ []) :
    ¬ p.Reads (lastOf b (plain s)) w (plain t) := by
  cases w with
  | nil => exact absurd rfl hw
  | cons x w =>
    rw [List.append_assoc] at h
    exact h.failsAt (x :: w) (plain t) (by simp)

/-- A place in the text of the pieces, by the text before it and behind it: it lies between two
    pieces or inside a match. -/
inductive PlaceIn : List Segment → (before after : List Char) → Prop where
  | between (s t : List Segment) : PlaceIn (s ++ t) (plain s) (plain t)
  | inside (s : List Segment) {u v : List Char} (t : List Segment) : u ≠ [] → v ≠ [] →
      PlaceIn (s ++ .found (u ++ v) :: t) (plain s ++ u) (v ++ plain t)

theorem PlaceIn.cons {pieces : List Segment} {l r : List Char} (piece : Segment)
    (h : PlaceIn pieces l r) : PlaceIn (piece :: pieces) (piece.chars ++ l) r := by
  cases h with
  | between s t => exact .between (piece :: s) t
  | inside s t hu hv =>
    rw [← List.append_assoc]
    exact .inside (piece :: s) t hu hv

/-- Every place in the text is one of these. -/
theorem placeIn_of_plain_eq {pieces : List Segment} {l r : List Char}
    (h : plain pieces = l ++ r) : PlaceIn pieces l r := by
  induction pieces generalizing l with
  | nil =>
    obtain ⟨rfl, rfl⟩ := List.append_eq_nil_iff.1 h.symm
    exact .between [] []
  | cons piece pieces ih =>
    have h : piece.chars ++ plain pieces = l ++ r := h
    rcases List.append_eq_append_iff.1 h with ⟨l, rfl, h⟩ | ⟨v, hc, rfl⟩
    · rw [List.append_assoc] at h
      exact (ih (List.append_cancel_left h)).cons piece
    · rcases List.eq_nil_or_concat l with rfl | ⟨l, z, rfl⟩
      · rw [List.nil_append] at hc
        rw [← hc]
        exact .between [] (piece :: pieces)
      · cases v with
        | nil =>
          rw [List.append_nil] at hc
          rw [← hc, List.nil_append, ← List.append_nil piece.chars]
          exact (ih rfl).cons piece
        | cons y v =>
          cases piece with
          | kept x =>
            have hlen := congrArg List.length hc
            simp only [Segment.chars, List.length_append, List.length_cons, List.length_concat,
              List.length_nil] at hlen
            omega
          | found w =>
            obtain rfl : w = _ := hc
            exact .inside [] pieces (by simp) (List.cons_ne_nil y v)
/-! ## 2. Counting what is found -/

/-- Is the piece a match? -/
def Segment.isFound : Segment → Bool
  | .found _ => true
  | .kept _ => false

theorem count_eq (p : Pattern) (text : List Char) :
    p.count text = (p.segments text).countP Segment.isFound := by
  unfold count
  congr 1

/-- Pieces without a match are the characters of their text. -/
theorem eq_map_kept {pieces : List Segment} (h : pieces.countP Segment.isFound = 0) :
    pieces = (plain pieces).map .kept := by
  induction pieces with
  | nil => rfl
  | cons piece pieces ih =>
    cases piece with
    | kept x =>
      rw [List.countP_cons_of_neg (by simp [Segment.isFound])] at h
      rw [plain_kept, List.map_cons, ← ih h]
    | found w =>
      rw [List.countP_cons_of_pos rfl] at h
      exact absurd h (Nat.succ_ne_zero _)

/-- **Nothing is found exactly if the pattern does not occur.** -/
theorem count_eq_zero_iff {p : Pattern} (hp : p.needsBeyond [] = true) {text : List Char} :
    p.count text = 0 ↔ p.occursIn text = false := by
  have hcut := cut_segments hp text
  rw [count_eq, ← Bool.not_eq_true, occursIn_iff]
  constructor
  · rintro h ⟨l, w, a, ht, hr⟩
    have hpieces := eq_map_kept h
    rw [plain_segments] at hpieces
    rw [hpieces, ht, List.map_append, List.map_append, ← List.append_assoc] at hcut
    refine hcut.not_reads_kept (hr.ne_nil hp) ?_
    rwa [plain_map_kept, plain_map_kept]
  · intro h
    rw [List.countP_eq_zero]
    rintro (x | w) hm
    · simp [Segment.isFound]
    · obtain ⟨s, t, hst⟩ := List.append_of_mem hm
      rw [hst] at hcut
      refine absurd ⟨plain s, w, plain t, ?_, hcut.reads_found⟩ h
      rw [← plain_segments p text, hst, plain_append, plain_found]

/-- Pieces are the characters of their text if no match ends with one of them. -/
theorem Cut.eq_map_kept {p : Pattern} {s m t : List Segment} (h : p.Cut none (s ++ (m ++ t)))
    (hends : ∀ w a u v, p.Reads (lastOf none (plain s ++ u)) w a → plain m = u ++ w ++ v →
      w ≠ [] → a = v ++ plain t → False) : m = (plain m).map .kept := by
  refine Pattern.eq_map_kept (List.countP_eq_zero.2 ?_)
  rintro (y | w) hm
  · simp [Segment.isFound]
  · obtain ⟨m₁, m₂, rfl⟩ := List.append_of_mem hm
    have h : p.Cut none ((s ++ m₁) ++ .found w :: (m₂ ++ t)) := by simpa using h
    have hr := h.reads_found
    rw [plain_append] at hr
    exact (hends w _ (plain m₁) (plain m₂) hr (by simp) h.found_ne_nil (by simp)).elim

/-- **A word that no match ends in or goes across is kept.** -/
theorem Cut.exists_kept_of_apart {p : Pattern} {pieces : List Segment} {l x r : List Char}
    (h : p.Cut none pieces) (ht : plain pieces = l ++ (x ++ r)) (hx : x ≠ [])
    (hends : ∀ k w a u v, p.Reads (lastOf none k) w a → x = u ++ v → u ≠ [] → k ++ w = l ++ u →
      a = v ++ r → False)
    (hacross : ∀ k u v a, p.Reads (lastOf none k) (u ++ v) a → u ≠ [] → v ≠ [] → k ++ u = l ++ x →
      v ++ a = r → False) :
    ∃ s t, pieces = s ++ x.map .kept ++ t ∧ plain s = l ∧ plain t = r := by
  generalize hxr : x ++ r = xr at ht
  cases placeIn_of_plain_eq ht with
  | between s m =>
    cases placeIn_of_plain_eq hxr.symm with
    | between m t =>
      refine ⟨s, t, ?_, rfl, rfl⟩
      rw [← h.eq_map_kept, List.append_assoc]
      rintro w a u v hr hm hw ha
      refine hends _ w a (u ++ w) v hr hm (by simp [hw]) ?_ ha
      rw [List.append_assoc]
    | @inside m u v t hu hv =>
      rw [← List.append_assoc] at h
      refine (hacross _ u v _ h.reads_found hu hv ?_ rfl).elim
      rw [plain_append, List.append_assoc]
  | @inside s u v t hu hv =>
    have hr := h.reads_found
    rcases List.append_eq_append_iff.1 hxr with ⟨v', rfl, rfl⟩ | ⟨v', rfl, hv'⟩
    · -- the match goes on behind the word, or ends with it
      cases v' with
      | nil =>
        rw [List.append_nil] at hr
        refine (hends _ _ _ x [] hr (by simp) hx ?_ rfl).elim
        rw [List.append_assoc]
      | cons y v' =>
        rw [← List.append_assoc] at hr
        refine (hacross _ (u ++ x) (y :: v') _ hr (by simp [hu]) (by simp) ?_ rfl).elim
        rw [List.append_assoc]
    · exact (hends _ _ _ v v' hr rfl hv (by rw [List.append_assoc]) hv').elim

end Gatehouse.Pattern
