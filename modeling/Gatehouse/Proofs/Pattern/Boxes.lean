import Mathlib.Data.List.Infix
import Gatehouse.Proofs.Pattern.Filling

/-!
# Words in boxes

A word in square brackets that holds no bracket inside is a box. Fillings are boxes, and a text may
hold boxes of its own.

* `timesIn` counts the places where a word stands in a text; boxes never overlap, so that for them it
  is the number of times they can be cut out of it;
* `Cut.exists_kept_of_start`: where no match has room in a word, the word is kept;
* `Cut.timesIn_filled`: a replacement adds its own box as often as something is found, and changes the
  number of no other box.
-/

namespace Gatehouse.Pattern

open Gatehouse.Text

/-! ## 1. How often a word stands in a text -/

/-- The number of places where the word stands in the text. -/
def timesIn (word text : List Char) : Nat := text.tails.countP (fun t => word.isPrefixOf t)

section Times

variable {word : List Char}

theorem timesIn_cons_of_start {x : Char} {text : List Char} (h : word <+: x :: text) :
    timesIn word (x :: text) = timesIn word text + 1 := by
  unfold timesIn
  rw [List.tails_cons, List.countP_cons_of_pos (List.isPrefixOf_iff_prefix.2 h)]

theorem timesIn_cons_of_not_start {x : Char} {text : List Char} (h : ¬ word <+: x :: text) :
    timesIn word (x :: text) = timesIn word text := by
  unfold timesIn
  rw [List.tails_cons, List.countP_cons_of_neg (fun hp => h (List.isPrefixOf_iff_prefix.1 hp))]

/-- A word stands nowhere among characters of which none starts it. -/
theorem timesIn_append {o : Char} {rest : List Char} {u : List Char} (hu : o ∉ u)
    (text : List Char) : timesIn (o :: rest) (u ++ text) = timesIn (o :: rest) text := by
  induction u with
  | nil => rfl
  | cons x u ih =>
    rw [List.mem_cons, not_or] at hu
    have hstart : ¬ (o :: rest) <+: x :: (u ++ text) := fun hp => hu.1 (List.cons_prefix_cons.1 hp).1
    rw [List.cons_append, timesIn_cons_of_not_start hstart, ih hu.2]

end Times

/-! ## 2. Boxes -/

/-- **A box**: a word in square brackets, with no bracket inside. -/
def Boxed (f : List Char) : Prop :=
  ∃ inside, f = '[' :: (inside ++ [']']) ∧ '[' ∉ inside ∧ ']' ∉ inside

theorem Boxed.bracketed {f : List Char} (h : Boxed f) : Bracketed f := by
  obtain ⟨inside, rfl, -, -⟩ := h
  exact ⟨rfl, by rw [← List.cons_append, List.getLast?_concat]⟩

/-- What stands in front of the first of some character is told from what follows it. -/
theorem append_first_inj {c : Char} {u v r t : List Char} (hu : c ∉ u) (hv : c ∉ v)
    (h : u ++ c :: r = v ++ c :: t) : u = v ∧ r = t := by
  rcases List.append_eq_append_iff.1 h with ⟨w, rfl, hw⟩ | ⟨w, rfl, hw⟩
  · cases w with
    | nil => exact ⟨(List.append_nil u).symm, (List.cons.inj hw).2⟩
    | cons x w =>
      obtain ⟨rfl, -⟩ := List.cons.inj hw
      exact absurd (by simp) hv
  · cases w with
    | nil => exact ⟨List.append_nil v, (List.cons.inj hw).2.symm⟩
    | cons x w =>
      obtain ⟨rfl, -⟩ := List.cons.inj hw
      exact absurd (by simp) hu

/-- A text that starts with one box starts with no other. -/
theorem Boxed.prefix_append_iff {w f : List Char} (hw : Boxed w) (hf : Boxed f) (text : List Char) :
    w <+: f ++ text ↔ w = f := by
  constructor
  · rintro ⟨rest, h⟩
    obtain ⟨u, rfl, -, hu⟩ := hw
    obtain ⟨v, rfl, -, hv⟩ := hf
    have htail : u ++ ']' :: rest = v ++ ']' :: text := by simpa using h
    rw [(append_first_inj hu hv htail).1]
  · rintro rfl
    exact List.prefix_append w text

/-- In front of a text a box stands once, and no other box does. -/
theorem timesIn_boxed_append {w f : List Char} (hw : Boxed w) (hf : Boxed f) (text : List Char) :
    timesIn w (f ++ text) = timesIn w text + if w = f then 1 else 0 := by
  have hstart := hw.prefix_append_iff hf text
  obtain ⟨u, rfl, -, -⟩ := hw
  obtain ⟨v, rfl, hv, -⟩ := hf
  have hopen : '[' ∉ v ++ [']'] := by
    rw [List.mem_append, not_or]
    exact ⟨hv, by decide⟩
  have hbehind : timesIn ('[' :: (u ++ [']'])) (v ++ [']'] ++ text) =
      timesIn ('[' :: (u ++ [']'])) text := timesIn_append hopen text
  rw [List.cons_append] at hstart ⊢
  by_cases h : '[' :: (u ++ [']']) = '[' :: (v ++ [']'])
  · rw [if_pos h, timesIn_cons_of_start (hstart.2 h), hbehind]
  · rw [if_neg h, timesIn_cons_of_not_start (fun hp => h (hstart.1 hp)), hbehind, Nat.add_zero]

/-! ## 3. Boxes in a text that is searched -/

section Searched

variable {p : Pattern} {b : Option Char} {pieces : List Segment}

/-- **A word in which no match has room is kept** where it starts the text: it closes with a character
    that no match holds, and the rest of it is not enough for one. -/
theorem Cut.exists_kept_of_start {g x r : List Char} {z : Char} (hz : p.avoids z = true)
    (hg : p.needsBeyond g = true) (hx : ∀ y ∈ x, y ∈ g) (h : p.Cut b pieces)
    (ht : plain pieces = x ++ z :: r) :
    ∃ t, pieces = (x ++ [z]).map .kept ++ t ∧ plain t = r := by
  induction x generalizing b pieces with
  | nil =>
    cases pieces with
    | nil => cases ht
    | cons piece pieces =>
      cases piece with
      | kept y =>
        obtain ⟨rfl, hr⟩ := List.cons.inj ht
        exact ⟨pieces, rfl, hr⟩
      | found w =>
        have hr := Cut.reads_found (s := []) h
        have hne := Cut.found_ne_nil (s := []) h
        obtain ⟨y, w, rfl⟩ := List.exists_cons_of_ne_nil hne
        obtain rfl : y = z := (List.cons.inj ht).1
        exact absurd List.mem_cons_self (hr.not_mem hz)
  | cons y x ih =>
    have hx' : ∀ y ∈ x, y ∈ g := (List.forall_mem_cons.1 hx).2
    cases pieces with
    | nil => cases ht
    | cons piece pieces =>
      cases piece with
      | kept y' =>
        obtain ⟨rfl, hrest⟩ := List.cons.inj ht
        cases h with
        | kept _ h =>
          obtain ⟨t, rfl, hr⟩ := ih hx' h hrest
          exact ⟨t, rfl, hr⟩
      | found w =>
        have hr := Cut.reads_found (s := []) h
        obtain ⟨c, hc, hcg⟩ := hr.exists_not_mem hg
        rcases List.append_eq_append_iff.1 ht with ⟨v, hv, -⟩ | ⟨v, rfl, hv⟩
        · -- the match would lie inside the word
          have hmem : c ∈ y :: x := by rw [hv]; exact List.mem_append_left v hc
          exact absurd (hx c hmem) hcg
        · cases v with
          | nil =>
            rw [List.append_nil] at hc
            exact absurd (hx c hc) hcg
          | cons z' v =>
            -- or reach the character that closes it
            obtain ⟨rfl, -⟩ := List.cons.inj hv
            exact absurd (by simp) (hr.not_mem hz)

variable {w f : List Char}

/-- A box is kept, as a whole, if no match has room in it. -/
theorem Cut.exists_kept_of_boxed (hw : Boxed w) (hc : p.avoids ']' = true)
    (hn : p.needsBeyond w = true) {r : List Char} (h : p.Cut b pieces)
    (ht : plain pieces = w ++ r) : ∃ t, pieces = w.map .kept ++ t ∧ plain t = r := by
  obtain ⟨u, rfl, -, -⟩ := hw
  have hclosed : plain pieces = ('[' :: u) ++ ']' :: r := by simpa using ht
  have hin : ∀ y ∈ '[' :: u, y ∈ '[' :: (u ++ [']']) := fun y hy => List.mem_append_left [']'] hy
  exact h.exists_kept_of_start hc hn hin hclosed

/-- Behind a bracket that is kept a box goes on in the filled text exactly if it did before. -/
theorem Cut.prefix_filled_iff (hw : Boxed w) (hf : Boxed f) (hc : p.avoids ']' = true)
    (hn : p.needsBeyond w = true) {x : Char} (h : p.Cut (some x) pieces) :
    w <+: x :: filled f pieces ↔ w <+: x :: plain pieces := by
  obtain ⟨u, rfl, hu, -⟩ := hw
  have hinside : ∀ y ∈ u, y ∈ '[' :: (u ++ [']']) := fun y hy => by simp [hy]
  have hopen : '[' ∉ u ++ [']'] := by
    rw [List.mem_append, not_or]
    exact ⟨hu, by decide⟩
  constructor
  · rintro ⟨r, hr⟩
    obtain ⟨rfl, htail⟩ := List.cons.inj hr
    obtain ⟨t, rfl, -⟩ := filled_eq_append_of_start hf.bracketed.opens hopen htail.symm
    rw [plain_append, plain_map_kept]
    exact List.prefix_append ('[' :: (u ++ [']'])) (plain t)
  · rintro ⟨r, hr⟩
    obtain ⟨rfl, -⟩ := List.cons.inj hr
    have hplain : plain pieces = u ++ ']' :: r := by simpa using hr.symm
    obtain ⟨t, rfl, -⟩ := h.exists_kept_of_start hc hn hinside hplain
    rw [filled_append, filled_map_kept]
    exact List.prefix_append ('[' :: (u ++ [']'])) (filled f t)

/-- **A replacement adds its own box as often as something is found**, and changes the number of no
    other box. -/
theorem Cut.timesIn_filled (hw : Boxed w) (hf : Boxed f) (ho : p.avoids '[' = true)
    (hc : p.avoids ']' = true) (hn : p.needsBeyond w = true) (h : p.Cut b pieces) :
    timesIn w (filled f pieces) =
      timesIn w (plain pieces) + if w = f then pieces.countP Segment.isFound else 0 := by
  induction pieces generalizing b with
  | nil => simp
  | cons piece pieces ih =>
    cases piece with
    | kept x =>
      cases h with
      | kept _ h =>
        have hsame := h.prefix_filled_iff hw hf hc hn
        rw [filled_kept, plain_kept, List.countP_cons_of_neg (by simp [Segment.isFound])]
        by_cases hstart : w <+: x :: plain pieces
        · rw [timesIn_cons_of_start hstart, timesIn_cons_of_start (hsame.2 hstart), ih h]
          omega
        · rw [timesIn_cons_of_not_start hstart,
            timesIn_cons_of_not_start (fun hp => hstart (hsame.1 hp)), ih h]
    | found v =>
      have hopen : '[' ∉ v := (Cut.reads_found (s := []) h).not_mem ho
      have hbehind : timesIn w (v ++ plain pieces) = timesIn w (plain pieces) := by
        obtain ⟨u, rfl, -⟩ := id hw
        exact timesIn_append hopen (plain pieces)
      cases h with
      | found _ _ h =>
        rw [filled_found, plain_found, timesIn_boxed_append hw hf, hbehind, ih h,
          List.countP_cons_of_pos rfl]
        split <;> omega

end Searched

end Gatehouse.Pattern
