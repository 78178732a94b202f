import Gatehouse.Pattern.Basic

/-!
# Searching a text for a pattern

* `Pattern.occursIn`: does the pattern match anywhere?
* `Pattern.segments` cuts a text into the matches found from left to right, each the best one at the
  first place where there is one, and the text between them;
* `Pattern.count` counts those matches, `Pattern.replaceAll` writes another text in their place.

A match takes at least one character: an empty one is passed over.
-/

namespace Gatehouse.Pattern

/-! ## 1. Places that need no attempt -/

/-- No character. -/
def noKind (_ : Char) : Bool := false

/-- After a failed attempt at a place where `x` stands, the attempts at all following places fail too
    as long as the characters there are of this kind: a match that starts at one of them could be
    reached from the failed place by a repetition that goes on as long as it likes. -/
def barrenAfter : Pattern → Char → Char → Bool
  | .seq (.many kind 1 none _) _, x => if kind x then kind else noKind
  | .seq (.one first) (.seq (.many kind 0 none _) _), x => if first x then kind else noKind
  | _, _ => noKind

/-! ## 2. Searching -/

/-- Does the pattern match at the place after `before`, or at a later one? Places at characters of the
    kind `barren` need no attempt, up to the first character of another kind. -/
def occursFrom (p : Pattern) (barren : Char → Bool) (before : Option Char) : List Char → Bool
  | [] => (p.run ⟨before, 0, []⟩ some).isSome
  | x :: rest =>
    if barren x then p.occursFrom barren (some x) rest
    else
      match p.run ⟨before, 0, x :: rest⟩ some with
      | some _ => true
      | none => p.occursFrom (p.barrenAfter x) (some x) rest

/-- Does the pattern match anywhere in the text? -/
def occursIn (p : Pattern) (text : List Char) : Bool := p.occursFrom noKind none text

/-- A piece of a searched text. -/
inductive Segment where
  /-- A character outside every match. -/
  | kept (c : Char)
  /-- A match. -/
  | found (chars : List Char)

/-- The characters of the piece. -/
def Segment.chars : Segment → List Char
  | .kept c => [c]
  | .found cs => cs

/-- Cuts a text that follows `before`; `done` are the pieces cut off so far, last one first, and
    `barren` the kind of characters at which no match starts until another one comes. -/
def segmentsFrom (p : Pattern) (barren : Char → Bool) (before : Option Char) (done : List Segment)
    (text : List Char) : List Segment :=
  match text with
  | [] => done.reverse
  | x :: rest =>
    if barren x then p.segmentsFrom barren (some x) (.kept x :: done) rest
    else
      match (p.first? ⟨before, 0, x :: rest⟩).map Cursor.taken with
      | some (n + 1) =>
        let chars := x :: rest.take n
        p.segmentsFrom noKind chars.getLast? (.found chars :: done) (rest.drop n)
      | _ => p.segmentsFrom (p.barrenAfter x) (some x) (.kept x :: done) rest
termination_by text.length
decreasing_by
  · simp
  · simp only [List.length_drop, List.length_cons]; omega
  · simp

/-- The text cut into matches and single characters between them. -/
def segments (p : Pattern) (text : List Char) : List Segment := p.segmentsFrom noKind none [] text

/-- How many matches the text is cut into. -/
def count (p : Pattern) (text : List Char) : Nat :=
  (p.segments text).countP (fun s => match s with | .found _ => true | .kept _ => false)

/-- The text with `replacement` in the place of every match. -/
def replaceAll (p : Pattern) (replacement : List Char) (text : List Char) : List Char :=
  (p.segments text).flatMap (fun s => match s with | .found _ => replacement | .kept c => [c])

/-! ## 3. Nothing is lost -/

theorem segmentsFrom_eq (p : Pattern) (barren : Char → Bool) (before : Option Char)
    (done : List Segment) (text : List Char) :
    p.segmentsFrom barren before done text = done.reverse ++ p.segmentsFrom barren before [] text := by
  induction h : text.length using Nat.strongRecOn generalizing barren before done text with
  | ind n ih =>
    cases text with
    | nil => simp [segmentsFrom]
    | cons x rest =>
      unfold segmentsFrom
      split
      · rw [ih _ (by simp [← h]) _ _ _ _ rfl, ih _ (by simp [← h]) _ _ [_] _ rfl]
        simp
      · split
        · rename_i m _
          rw [ih _ (by simp only [← h, List.length_drop, List.length_cons]; omega) _ _ _ _ rfl,
            ih _ (by simp only [← h, List.length_drop, List.length_cons]; omega) _ _ [_] _ rfl]
          simp
        · rw [ih _ (by simp [← h]) _ _ _ _ rfl, ih _ (by simp [← h]) _ _ [_] _ rfl]
          simp

/-- **The pieces put together are the text.** -/
theorem flatMap_chars_segmentsFrom (p : Pattern) (barren : Char → Bool) (before : Option Char)
    (text : List Char) : (p.segmentsFrom barren before [] text).flatMap Segment.chars = text := by
  induction h : text.length using Nat.strongRecOn generalizing barren before text with
  | ind n ih =>
    cases text with
    | nil => simp [segmentsFrom]
    | cons x rest =>
      unfold segmentsFrom
      split
      · rw [segmentsFrom_eq]
        simp only [List.reverse_cons, List.reverse_nil, List.nil_append, List.singleton_append,
          List.flatMap_cons, Segment.chars]
        rw [ih _ (by simp [← h]) _ _ _ rfl]
      · split
        · rename_i m _
          rw [segmentsFrom_eq]
          simp only [List.reverse_cons, List.reverse_nil, List.nil_append, List.singleton_append,
            List.flatMap_cons, Segment.chars]
          rw [ih _ (by simp only [← h, List.length_drop, List.length_cons]; omega) _ _ _ rfl]
          simp
        · rw [segmentsFrom_eq]
          simp only [List.reverse_cons, List.reverse_nil, List.nil_append,
            List.singleton_append, List.flatMap_cons, Segment.chars]
          rw [ih _ (by simp [← h]) _ _ _ rfl]

end Gatehouse.Pattern
