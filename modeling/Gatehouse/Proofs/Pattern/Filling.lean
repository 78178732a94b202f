import Gatehouse.Proofs.Pattern.Pieces

/-!
# Another text in the place of the matches

`filled` is the text of the pieces with a filling in the place of every match.

* `filled_eq_append_cons`, `exists_kept_of_filled`: what the filling does not hold was kept, and can
  be found again in the pieces;
* `lastOf_filled`, `head?_filled`: the neighbours of a place are what they were, or brackets;
* `occursIn_plain_of_filled`: patterns that make nothing of a filling occurred before.
-/

namespace Gatehouse.Pattern

/-! ## 1. What is kept -/

/-- The text of the pieces with `filling` in the place of every match. -/
def filled (filling : List Char) (pieces : List Segment) : List Char :=
  pieces.flatMap (fun s => match s with | .found _ => filling | .kept c => [c])

section Filled

variable {f : List Char}

theorem replaceAll_eq (p : Pattern) (f text : List Char) :
    p.replaceAll f text = filled f (p.segments text) := rfl

@[simp] theorem filled_nil : filled f [] = [] := rfl

@[simp] theorem filled_kept (x : Char) (pieces : List Segment) :
    filled f (.kept x :: pieces) = x :: filled f pieces := rfl

@[simp] theorem filled_found (w : List Char) (pieces : List Segment) :
    filled f (.found w :: pieces) = f ++ filled f pieces := rfl

@[simp] theorem filled_append (s t : List Segment) :
    filled f (s ++ t) = filled f s ++ filled f t :=
  List.flatMap_append

@[simp] theorem filled_map_kept (w : List Char) : filled f (w.map .kept) = w := by
  induction w with
  | nil => rfl
  | cons x w ih => rw [List.map_cons, filled_kept, ih]

/-- Where nothing is found nothing is replaced. -/
theorem replaceAll_eq_self {p : Pattern} {text : List Char} (h : p.count text = 0) :
    p.replaceAll f text = text := by
  rw [count_eq] at h
  rw [replaceAll_eq, eq_map_kept h, filled_map_kept, plain_segments]

/-- Of a character that no match holds, each replacement adds what its filling holds. -/
theorem Cut.count_filled {p : Pattern} {x : Char} (hx : p.avoids x = true) {b : Option Char}
    {pieces : List Segment} (h : p.Cut b pieces) : (filled f pieces).count x =
      (plain pieces).count x + pieces.countP Segment.isFound * f.count x := by
  induction pieces generalizing b with
  | nil => simp
  | cons piece pieces ih =>
    cases piece with
    | kept y =>
      cases h with
      | kept _ h =>
        rw [filled_kept, plain_kept, List.count_cons, List.count_cons, ih h,
          List.countP_cons_of_neg (by simp [Segment.isFound])]
        omega
    | found w =>
      have hr := Cut.reads_found (s := []) h
      cases h with
      | found _ _ h =>
        rw [filled_found, plain_found, List.count_append, List.count_append, ih h,
          List.countP_cons_of_pos rfl, List.count_eq_zero_of_not_mem (hr.not_mem hx),
          Nat.add_mul]
        omega

/-- A character that no match holds stays. -/
theorem Cut.mem_filled {p : Pattern} {x : Char} (hx : p.avoids x = true) {s m t : List Segment}
    (h : p.Cut none (s ++ (m ++ t))) (hm : x ∈ plain m) : x ∈ filled f m := by
  obtain ⟨piece, hpiece, hmem⟩ := List.mem_flatMap.1 hm
  obtain ⟨m₁, m₂, rfl⟩ := List.append_of_mem hpiece
  cases piece with
  | kept y =>
    obtain rfl : x = y := List.mem_singleton.1 hmem
    simp
  | found w =>
    have h : p.Cut none ((s ++ m₁) ++ .found w :: (m₂ ++ t)) := by simpa using h
    exact absurd hmem (h.reads_found.not_mem hx)

/-- A character that the filling does not hold was kept. -/
theorem filled_eq_append_cons {pieces : List Segment} {l r : List Char} {x : Char} (hx : x ∉ f)
    (h : filled f pieces = l ++ x :: r) :
    ∃ s t, pieces = s ++ .kept x :: t ∧ filled f s = l ∧ filled f t = r := by
  induction pieces generalizing l with
  | nil => simp at h
  | cons piece pieces ih =>
    cases piece with
    | kept y =>
      rw [filled_kept] at h
      cases l with
      | nil =>
        obtain ⟨rfl, rfl⟩ := List.cons.inj h
        exact ⟨[], pieces, rfl, rfl, rfl⟩
      | cons z l =>
        rw [List.cons_append, List.cons.injEq] at h
        obtain ⟨rfl, h⟩ := h
        obtain ⟨s, t, rfl, rfl, ht⟩ := ih h
        exact ⟨.kept y :: s, t, rfl, rfl, ht⟩
    | found w =>
      rw [filled_found] at h
      rcases List.append_eq_append_iff.1 h with ⟨l', rfl, hl⟩ | ⟨g, hf, h⟩
      · obtain ⟨s, t, rfl, rfl, ht⟩ := ih hl
        exact ⟨.found w :: s, t, rfl, rfl, ht⟩
      · cases g with
        | nil =>
          obtain ⟨s, t, rfl, hs, ht⟩ := ih (l := []) h.symm
          refine ⟨.found w :: s, t, rfl, ?_, ht⟩
          rw [filled_found, hs, hf]
          simp
        | cons z g =>
          obtain ⟨rfl, -⟩ := List.cons.inj h
          exact absurd (by rw [hf]; simp) hx

/-- A word without the character that the filling starts with was kept where it starts the text. -/
theorem filled_eq_append_of_start {pieces : List Segment} {w r : List Char} {o : Char}
    (ho : f.head? = some o) (hw : o ∉ w) (h : filled f pieces = w ++ r) :
    ∃ t, pieces = w.map .kept ++ t ∧ filled f t = r := by
  induction w generalizing pieces with
  | nil => exact ⟨pieces, rfl, h⟩
  | cons x w ih =>
    rw [List.mem_cons, not_or] at hw
    cases pieces with
    | nil => simp at h
    | cons piece pieces =>
      cases piece with
      | kept y =>
        rw [filled_kept, List.cons_append, List.cons.injEq] at h
        obtain ⟨rfl, h⟩ := h
        obtain ⟨t, rfl, ht⟩ := ih hw.2 h
        exact ⟨t, rfl, ht⟩
      | found v =>
        cases f with
        | nil => cases ho
        | cons y f =>
          obtain ⟨rfl, -⟩ := List.cons.inj h
          exact absurd (Option.some.inj ho).symm hw.1

/-- A word without the character that the filling ends with was kept where it ends the text. -/
theorem filled_eq_append_of_end {pieces : List Segment} {l w : List Char} {c : Char}
    (hc : f.getLast? = some c) (hw : c ∉ w) (h : filled f pieces = l ++ w) :
    ∃ s, pieces = s ++ w.map .kept ∧ filled f s = l := by
  induction w using List.reverseRecOn generalizing pieces with
  | nil => exact ⟨pieces, by simp, by simpa using h⟩
  | append_singleton w x ih =>
    rw [List.mem_append, List.mem_singleton, not_or] at hw
    rw [← List.append_assoc] at h
    rcases List.eq_nil_or_concat pieces with rfl | ⟨pieces, piece, rfl⟩
    · simp at h
    · rw [List.concat_eq_append] at h ⊢
      rw [filled_append] at h
      cases piece with
      | kept y =>
        obtain ⟨h', hxy⟩ := List.append_inj' h rfl
        obtain rfl : y = x := by simpa using hxy
        obtain ⟨s, rfl, hs⟩ := ih hw.1 h'
        exact ⟨s, by simp, hs⟩
      | found v =>
        have hlast := congrArg List.getLast? h
        rw [filled_found, filled_nil, List.append_nil, List.getLast?_append, hc,
          List.getLast?_concat] at hlast
        exact absurd (Option.some.inj hlast) hw.2

/-! ## 2. Fillings in brackets -/

/-- A filling stands in square brackets. -/
structure Bracketed (f : List Char) : Prop where
  opens : f.head? = some '['
  closes : f.getLast? = some ']'

/-- The character before a place of the filled text was there before, or closes a filling. -/
theorem lastOf_filled (hf : Bracketed f) (b : Option Char) (s : List Segment) :
    lastOf b (filled f s) = lastOf b (plain s) ∨
      ∃ s' w, s = s' ++ [.found w] ∧ lastOf b (filled f s) = some ']' := by
  rcases List.eq_nil_or_concat s with rfl | ⟨s, piece, rfl⟩
  · exact .inl rfl
  · rw [List.concat_eq_append]
    cases piece with
    | kept x => exact .inl (by simp [lastOf_append])
    | found w =>
      refine .inr ⟨s, w, rfl, ?_⟩
      obtain ⟨g, rfl⟩ := List.getLast?_eq_some_iff.1 hf.closes
      simp [lastOf_append]

/-- The character behind a place of the filled text was there before, or opens a filling. -/
theorem head?_filled (hf : Bracketed f) (t : List Segment) :
    (filled f t).head? = (plain t).head? ∨
      ∃ w t', t = .found w :: t' ∧ (filled f t).head? = some '[' := by
  cases t with
  | nil => exact .inl rfl
  | cons piece t =>
    cases piece with
    | kept x => exact .inl rfl
    | found w =>
      refine .inr ⟨w, t, rfl, ?_⟩
      rw [filled_found, List.head?_append, hf.opens]
      rfl

/-- A word without brackets that holds a character of its own was kept. -/
theorem exists_kept_of_filled {pieces : List Segment} {l w r : List Char} (hf : Bracketed f)
    (ho : '[' ∉ w) (hc : ']' ∉ w) (hx : ∃ x ∈ w, x ∉ f) (h : filled f pieces = l ++ (w ++ r)) :
    ∃ s t, pieces = s ++ w.map .kept ++ t ∧ filled f s = l ∧ filled f t = r := by
  obtain ⟨x, hm, hx⟩ := hx
  obtain ⟨u, v, rfl⟩ := List.append_of_mem hm
  rw [List.append_assoc, List.cons_append, ← List.append_assoc] at h
  obtain ⟨s', t', rfl, hs', ht'⟩ := filled_eq_append_cons hx h
  obtain ⟨s, rfl, hs⟩ := filled_eq_append_of_end hf.closes (fun hm => hc (by simp [hm])) hs'
  obtain ⟨t, rfl, ht⟩ := filled_eq_append_of_start hf.opens (fun hm => ho (by simp [hm])) ht'
  exact ⟨s, t, by simp, hs, ht⟩

/-- A word that is read in the filled text, if it can hold no bracket and needs more than the
    filling has, consists of kept characters. -/
theorem Reads.exists_kept {p : Pattern} (hf : Bracketed f) (ho : p.avoids '[' = true)
    (hc : p.avoids ']' = true) (hn : p.needsBeyond f = true) {pieces : List Segment}
    {b : Option Char} {l w r : List Char} (h : filled f pieces = l ++ (w ++ r))
    (hr : p.Reads b w r) :
    ∃ s t, pieces = s ++ w.map .kept ++ t ∧ filled f s = l ∧ filled f t = r :=
  exists_kept_of_filled hf (hr.not_mem ho) (hr.not_mem hc) (hr.exists_not_mem hn) h

/-- **A pattern without word boundaries that occurs in the filled text occurred before**, if it can
    hold no bracket and needs more than the filling has. -/
theorem occursIn_plain_of_filled {p : Pattern} (hfree : p.isFree = true) (hf : Bracketed f)
    (ho : p.avoids '[' = true) (hc : p.avoids ']' = true) (hn : p.needsBeyond f = true)
    {pieces : List Segment} (h : p.occursIn (filled f pieces) = true) :
    p.occursIn (plain pieces) = true := by
  obtain ⟨l, w, r, ht, hr⟩ := occursIn_iff.1 h
  obtain ⟨s, t, rfl, -, -⟩ := hr.exists_kept hf ho hc hn ht
  refine occursIn_iff.2 ⟨plain s, w, plain t, ?_, hr.of_isFree hfree _ _⟩
  simp

end Filled

end Gatehouse.Pattern
