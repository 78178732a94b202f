import Gatehouse.Proofs.Pattern.Pieces

/-!
# Texts whose characters are folded together

A pattern asks for kinds of characters, and some characters are of the same kinds: small letters and
capitals, or all blanks. A folding writes one of them for the others.

* `Folding`: which characters are moved, and where to; what is part of words stays so;
* `Pattern.blindTo` is the test that a pattern makes no difference between a character and what it is
  moved to;
* `ends_folded`, `segmentsFrom_folded`: such a pattern has the same matches in a text and in the folded
  text, in the same order, and a search finds the same pieces;
* `count_eq_of_folded`, `occursIn_eq_of_folded`: two texts that are folded to one are all the same to
  it; `reads_folded_iff` says so of a single match.
-/

namespace Gatehouse.Pattern

open Gatehouse.Text

/-! ## 1. Foldings -/

/-- **Characters that are written as others.** -/
structure Folding where
  fold : Char → Char
  /-- The characters that are moved. -/
  moved : List Char
  fold_of_not_mem : ∀ x, x ∉ moved → fold x = x
  all_isWord : moved.all (fun x => isWord (fold x) == isWord x) = true

namespace Folding

variable (f : Folding)

/-- Is no character taken out of the kind or into it? -/
def keeps (kind : Char → Bool) : Bool := f.moved.all (fun x => kind (f.fold x) == kind x)

variable {f}

/-- What agrees on the characters that are moved agrees on all. -/
theorem eq_of_moved {α : Type} [DecidableEq α] {g : Char → α}
    (h : f.moved.all (fun x => g (f.fold x) == g x) = true) (x : Char) : g (f.fold x) = g x := by
  by_cases hx : x ∈ f.moved
  · exact beq_iff_eq.1 (List.all_eq_true.1 h x hx)
  · rw [f.fold_of_not_mem x hx]

theorem keeps_iff {kind : Char → Bool} :
    f.keeps kind = true ↔ ∀ x, kind (f.fold x) = kind x := by
  constructor
  · intro h
    exact eq_of_moved h
  · intro h
    unfold keeps
    rw [List.all_eq_true]
    exact fun x _ => beq_iff_eq.2 (h x)

theorem keeps_noKind : f.keeps noKind = true := keeps_iff.2 fun _ => rfl

theorem any_isWord_fold (x : Option Char) : (x.map f.fold).any isWord = x.any isWord := by
  cases x with
  | none => rfl
  | some x => exact eq_of_moved f.all_isWord x

/-- A folding moves no word boundary. -/
theorem isWordBoundary_fold (x y : Option Char) :
    isWordBoundary (x.map f.fold) (y.map f.fold) = isWordBoundary x y := by
  unfold isWordBoundary
  rw [any_isWord_fold, any_isWord_fold]

end Folding

/-- **Does the pattern make no difference between a character and what it is moved to?** -/
def blindTo (f : Folding) : Pattern → Bool
  | .nothing | .boundary => true
  | .one kind | .many kind .. => f.keeps kind
  | .seq p q | .either p q => p.blindTo f && q.blindTo f

/-! ## 2. Matches -/

section Blind

variable {f : Folding}

theorem lastOf_folded (b : Option Char) (w : List Char) :
    lastOf (b.map f.fold) (w.map f.fold) = (lastOf b w).map f.fold := by
  induction w generalizing b with
  | nil => rfl
  | cons x w ih => exact ih (some x)

/-- Behind two texts that are folded to one stand characters that are. -/
theorem lastOf_of_folded {s t : List Char} (h : s.map f.fold = t.map f.fold) (b : Option Char) :
    (lastOf b s).map f.fold = (lastOf b t).map f.fold := by
  rw [← lastOf_folded, ← lastOf_folded, h]

/-- The same place in the folded text. -/
def Folding.place (f : Folding) (c : Cursor) : Cursor :=
  ⟨c.before.map f.fold, c.taken, c.rest.map f.fold⟩

theorem repeats_folded {kind : Char → Bool} (hk : f.keeps kind = true) (least : Nat)
    (most : Option Nat) (b : Option Char) (taken : Nat) (text : List Char) (found : List Cursor) :
    repeats kind least most (b.map f.fold) taken (text.map f.fold) (found.map f.place) =
      (repeats kind least most b taken text found).map f.place := by
  -- what is found before the text is gone through goes along as it is
  have hfound : ∀ (b : Option Char) (taken : Nat) (text : List Char) (found : List Cursor),
      (if least = 0 then ⟨b.map f.fold, taken, text.map f.fold⟩ :: found.map f.place
        else found.map f.place) =
      (if least = 0 then ⟨b, taken, text⟩ :: found else found).map f.place := by
    intro b taken text found
    split <;> rfl
  induction text generalizing least most b taken found with
  | nil => exact hfound b taken [] found
  | cons x text ih =>
    rw [List.map_cons, repeats, repeats, Folding.keeps_iff.1 hk x]
    have hhere := hfound b taken (x :: text) found
    rw [List.map_cons] at hhere
    by_cases hgo : (!exhausted most && kind x) = true
    · rw [if_pos hgo, if_pos hgo, hhere]
      refine ih (least - 1) (lessOne most) (some x) (taken + 1) _ ?_
      intro b taken text found
      split <;> rfl
    · rw [if_neg hgo, if_neg hgo, hhere]

theorem manyEnds_folded {kind : Char → Bool} (hk : f.keeps kind = true) (least : Nat)
    (most : Option Nat) (eager : Bool) (c : Cursor) :
    manyEnds kind least most eager (f.place c) =
      (manyEnds kind least most eager c).map f.place := by
  have h := repeats_folded hk least most c.before c.taken c.rest []
  rw [List.map_nil] at h
  cases eager with
  | true => exact h
  | false =>
    show (repeats ..).reverse = ((repeats ..).reverse).map f.place
    rw [List.map_reverse, ← h]
    rfl

/-- **The ends of the matches in a folded text** are those in the text, and in the same order. -/
theorem ends_folded {p : Pattern} (hp : p.blindTo f = true) (c : Cursor) :
    p.ends (f.place c) = (p.ends c).map f.place := by
  induction p generalizing c with
  | nothing => rfl
  | one kind =>
    obtain ⟨b, taken, text⟩ := c
    cases text with
    | nil => rfl
    | cons x text =>
      have hkind : kind (f.fold x) = kind x := Folding.keeps_iff.1 hp x
      show (if kind (f.fold x) = true then _ else _) = List.map f.place (if kind x = true then _ else _)
      rw [hkind]
      split <;> rfl
  | boundary =>
    have hhead : (f.place c).rest.head? = c.rest.head?.map f.fold := List.head?_map
    show (if isWordBoundary (c.before.map f.fold) (f.place c).rest.head? = true then _ else _) = _
    rw [hhead, Folding.isWordBoundary_fold, ends]
    split <;> rfl
  | seq p q ihp ihq =>
    obtain ⟨hp, hq⟩ := Bool.and_eq_true_iff.1 hp
    show (p.ends (f.place c)).flatMap q.ends = ((p.ends c).flatMap q.ends).map f.place
    rw [ihp hp, List.flatMap_map, List.map_flatMap]
    congr 1
    funext d
    exact ihq hq d
  | either p q ihp ihq =>
    obtain ⟨hp, hq⟩ := Bool.and_eq_true_iff.1 hp
    show p.ends (f.place c) ++ q.ends (f.place c) = (p.ends c ++ q.ends c).map f.place
    rw [ihp hp, ihq hq, List.map_append]
  | many kind least most eager => exact manyEnds_folded hp least most eager c

theorem first?_folded {p : Pattern} (hp : p.blindTo f = true) (c : Cursor) :
    p.first? (f.place c) = (p.first? c).map f.place := by
  rw [first?_eq_head?, first?_eq_head?, ends_folded hp, List.head?_map]

theorem reads_iff_mem_ends {p : Pattern} {b : Option Char} {w a : List Char} :
    p.Reads b w a ↔ (⟨lastOf b w, w.length, a⟩ : Cursor) ∈ p.ends ⟨b, 0, w ++ a⟩ := by
  rw [mem_ends_iff, spans_iff_reads]
  constructor
  · intro h
    exact ⟨w, rfl, by rw [Nat.zero_add], h⟩
  · intro h
    obtain ⟨v, hv, -, hr⟩ := h
    obtain rfl : w = v := List.append_cancel_right hv
    exact hr

/-- **A word is read in the folded text exactly if it was read before.** -/
theorem reads_folded_iff {p : Pattern} (hp : p.blindTo f = true) {b : Option Char}
    {w a : List Char} : p.Reads (b.map f.fold) (w.map f.fold) (a.map f.fold) ↔ p.Reads b w a := by
  have hplace : (⟨b.map f.fold, 0, w.map f.fold ++ a.map f.fold⟩ : Cursor) =
      f.place ⟨b, 0, w ++ a⟩ := by
    rw [Folding.place, List.map_append]
  rw [reads_iff_mem_ends, hplace, ends_folded hp, List.mem_map, reads_iff_mem_ends]
  constructor
  · intro h
    obtain ⟨d, hd, heq⟩ := h
    -- the place is told by the number of characters taken
    obtain ⟨v, hv, hdv, -⟩ := spans_iff_reads.1 ((mem_ends_iff p _ d).1 hd)
    have htaken : d.taken = w.length := by
      have h := congrArg Cursor.taken heq
      rwa [List.length_map] at h
    have hlen : v.length = w.length := by
      rw [hdv] at htaken
      simpa using htaken
    obtain ⟨rfl, hrest⟩ := List.append_inj hv hlen.symm
    have hd' : d = ⟨lastOf b w, w.length, a⟩ := by
      rw [hdv, ← hrest, Nat.zero_add]
    rwa [hd'] at hd
  · intro h
    refine ⟨_, h, ?_⟩
    rw [Folding.place, ← lastOf_folded, List.length_map]

/-- Two words that are folded to one, in surroundings that are, are read alike. -/
theorem reads_iff_of_folded {p : Pattern} (hp : p.blindTo f = true) {b b' : Option Char}
    {w w' a a' : List Char} (hb : b.map f.fold = b'.map f.fold) (hw : w.map f.fold = w'.map f.fold)
    (ha : a.map f.fold = a'.map f.fold) : p.Reads b w a ↔ p.Reads b' w' a' := by
  rw [← reads_folded_iff hp, hb, hw, ha, reads_folded_iff hp]

/-! ## 3. Searches -/

/-- The same piece of the folded text. -/
def Folding.piece (f : Folding) : Segment → Segment
  | .kept x => .kept (f.fold x)
  | .found w => .found (w.map f.fold)

theorem barrenAfter_folded {p : Pattern} (hp : p.blindTo f = true) (x : Char) :
    p.barrenAfter (f.fold x) = p.barrenAfter x ∧ f.keeps (p.barrenAfter x) = true := by
  unfold barrenAfter
  split
  · obtain ⟨hk, -⟩ := Bool.and_eq_true_iff.1 hp
    rw [Folding.keeps_iff.1 hk x]
    split
    · exact ⟨rfl, hk⟩
    · exact ⟨rfl, Folding.keeps_noKind⟩
  · obtain ⟨hfirst, hrest⟩ := Bool.and_eq_true_iff.1 hp
    obtain ⟨hk, -⟩ := Bool.and_eq_true_iff.1 hrest
    rw [Folding.keeps_iff.1 hfirst x]
    split
    · exact ⟨rfl, hk⟩
    · exact ⟨rfl, Folding.keeps_noKind⟩
  · exact ⟨rfl, Folding.keeps_noKind⟩

/-- **A search of the folded text finds the same pieces.** -/
theorem segmentsFrom_folded {p : Pattern} (hp : p.blindTo f = true) {kind : Char → Bool}
    (hk : f.keeps kind = true) (b : Option Char) (text : List Char) :
    p.segmentsFrom kind (b.map f.fold) [] (text.map f.fold) =
      (p.segmentsFrom kind b [] text).map f.piece := by
  induction hn : text.length using Nat.strongRecOn generalizing kind b text with
  | ind n ih =>
    cases text with
    | nil => simp [segmentsFrom]
    | cons x rest =>
      have hrest : rest.length < n := by rw [← hn]; exact Nat.lt_succ_self _
      -- behind a piece the search goes on in a shorter text
      have hgoes : ∀ {kind : Char → Bool} (b : Option Char) (piece : Segment) (text : List Char),
          f.keeps kind = true → text.length < n →
          p.segmentsFrom kind (b.map f.fold) [f.piece piece] (text.map f.fold) =
            (p.segmentsFrom kind b [piece] text).map f.piece := by
        intro kind b piece text hk htext
        rw [segmentsFrom_singleton, segmentsFrom_singleton, ih _ htext hk b text rfl]
        rfl
      rw [List.map_cons]
      unfold segmentsFrom
      rw [Folding.keeps_iff.1 hk x]
      by_cases hx : kind x = true
      · rw [if_pos hx, if_pos hx]
        exact hgoes (some x) (.kept x) rest hk hrest
      · have hfirst : p.first? ⟨b.map f.fold, 0, f.fold x :: rest.map f.fold⟩ =
            (p.first? ⟨b, 0, x :: rest⟩).map f.place := first?_folded hp ⟨b, 0, x :: rest⟩
        have htaken : Cursor.taken ∘ f.place = Cursor.taken := rfl
        obtain ⟨hbarren, hkeeps⟩ := barrenAfter_folded hp x
        rw [if_neg hx, if_neg hx, hfirst, Option.map_map, htaken, hbarren]
        have hkept := hgoes (some x) (.kept x) rest hkeeps hrest
        cases hm : (p.first? ⟨b, 0, x :: rest⟩).map Cursor.taken with
        | none => exact hkept
        | some m =>
          cases m with
          | zero => exact hkept
          | succ m =>
            have hdrop : (rest.drop m).length < n := by
              rw [List.length_drop]
              omega
            have hfound := hgoes (x :: rest.take m).getLast? (.found (x :: rest.take m))
              (rest.drop m) Folding.keeps_noKind hdrop
            rw [← List.getLast?_map, List.map_drop] at hfound
            show p.segmentsFrom noKind (f.fold x :: (rest.map f.fold).take m).getLast?
              [.found (f.fold x :: (rest.map f.fold).take m)] ((rest.map f.fold).drop m) = _
            rw [← List.map_take]
            exact hfound

theorem count_folded {p : Pattern} (hp : p.blindTo f = true) (text : List Char) :
    p.count (text.map f.fold) = p.count text := by
  have h := segmentsFrom_folded hp Folding.keeps_noKind none text
  have hfound : Segment.isFound ∘ f.piece = Segment.isFound := by
    funext piece
    cases piece <;> rfl
  rw [count_eq, count_eq, segments, segments]
  rw [Option.map_none] at h
  rw [h, List.countP_map, hfound]

/-- **Two texts that are folded to one hold equally many matches.** -/
theorem count_eq_of_folded {p : Pattern} (hp : p.blindTo f = true) {s t : List Char}
    (h : s.map f.fold = t.map f.fold) : p.count s = p.count t := by
  rw [← count_folded hp s, h, count_folded hp t]

/-- And they hold the same of the patterns, if all of those are blind to the folding and take a
    character at least. -/
theorem occursIn_eq_of_folded {ps : List Pattern}
    (hps : ps.all (fun p => p.blindTo f && p.needsBeyond []) = true) {p : Pattern} (hp : p ∈ ps)
    {s t : List Char} (h : s.map f.fold = t.map f.fold) : p.occursIn s = p.occursIn t := by
  obtain ⟨hblind, htakes⟩ := Bool.and_eq_true_iff.1 (List.all_eq_true.1 hps p hp)
  have hfalse : p.occursIn s = false ↔ p.occursIn t = false := by
    rw [← count_eq_zero_iff htakes, ← count_eq_zero_iff htakes, count_eq_of_folded hblind h]
  cases ht : p.occursIn t with
  | false => exact hfalse.2 ht
  | true =>
    rw [← Bool.not_eq_false, hfalse, ht]
    decide

end Blind

end Gatehouse.Pattern
