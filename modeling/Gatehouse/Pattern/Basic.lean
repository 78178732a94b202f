import Gatehouse.Text.Blank
import Gatehouse.Text.WordChar

/-!
# Text patterns

A pattern is searched for in a text; where several readings of it fit, the order of its parts says
which one is taken.

* `Pattern` is the shape: single characters, word boundaries, sequences, ordered choices, and
  repetitions of one kind of character (eager ones try more characters first, lazy ones fewer);
* `Pattern.ends` lists every place a match from a given place can end at, best first;
* `Pattern.Spans` is the same without the order: a relation between the place a match starts at and
  the place it ends at (`mem_ends_iff`);
* `Pattern.run` finds the first end that a continuation accepts, without listing them all
  (`run_eq_findSome?`); `Pattern.first?` is the best match.
-/

namespace Gatehouse

open Gatehouse.Text

/-- A place in a text: the character before it, how many characters a match has taken to get there,
    and the text after it. -/
structure Cursor where
  before : Option Char
  taken : Nat
  rest : List Char

/-- The place one character on. -/
def Cursor.advance (c : Cursor) (x : Char) (rest : List Char) : Cursor := ⟨some x, c.taken + 1, rest⟩

/-- A pattern. -/
inductive Pattern where
  /-- The empty text. -/
  | nothing
  /-- One character of a kind. -/
  | one (kind : Char → Bool)
  /-- The empty text at a word boundary. -/
  | boundary
  /-- The first pattern, then the second. -/
  | seq (first second : Pattern)
  /-- The first pattern or, failing that, the second. -/
  | either (first second : Pattern)
  /-- From `least` up to `most` characters of a kind; as many as possible if `eager`, as few as
      possible otherwise. -/
  | many (kind : Char → Bool) (least : Nat) (most : Option Nat) (eager : Bool)

namespace Pattern

/-! ## 1. The ends of a match -/

/-- May `n` characters be taken where at most `most` are allowed? -/
def Room (most : Option Nat) (n : Nat) : Prop := ∀ m, most = some m → n ≤ m

/-- Is the bound on further characters used up? -/
def exhausted : Option Nat → Bool
  | some 0 => true
  | _ => false

/-- The bound after one more character. -/
def lessOne : Option Nat → Option Nat
  | none => none
  | some m => some (m - 1)

/-- The places after 0, 1, 2, … characters of the kind, as far as they go and at most `most`, as
    long as they are at least `least` characters on; farthest place first, in front of `found`. -/
def repeats (kind : Char → Bool) (least : Nat) (most : Option Nat) (before : Option Char)
    (taken : Nat) : (rest : List Char) → (found : List Cursor) → List Cursor
  | [], found => if least = 0 then ⟨before, taken, []⟩ :: found else found
  | x :: rest, found =>
    let found := if least = 0 then ⟨before, taken, x :: rest⟩ :: found else found
    if !exhausted most && kind x then
      repeats kind (least - 1) (lessOne most) (some x) (taken + 1) rest found
    else found

/-- The ends of a repetition, best first. -/
def manyEnds (kind : Char → Bool) (least : Nat) (most : Option Nat) (eager : Bool) (c : Cursor) :
    List Cursor :=
  let found := repeats kind least most c.before c.taken c.rest []
  if eager then found else found.reverse

/-- **Every place a match that starts at the cursor can end at, best first.** -/
def ends : Pattern → Cursor → List Cursor
  | .nothing, c => [c]
  | .one kind, c =>
    match c.rest with
    | [] => []
    | x :: rest => if kind x then [c.advance x rest] else []
  | .boundary, c => if isWordBoundary c.before c.rest.head? then [c] else []
  | .seq p q, c => (p.ends c).flatMap q.ends
  | .either p q, c => p.ends c ++ q.ends c
  | .many kind least most eager, c => manyEnds kind least most eager c

/-- The first end that `accept` has an answer for. -/
def run {α : Type} : Pattern → Cursor → (Cursor → Option α) → Option α
  | .nothing, c, accept => accept c
  | .one kind, c, accept =>
    match c.rest with
    | [] => none
    | x :: rest => if kind x then accept (c.advance x rest) else none
  | .boundary, c, accept => if isWordBoundary c.before c.rest.head? then accept c else none
  | .seq p q, c, accept => p.run c (fun d => q.run d accept)
  | .either p q, c, accept =>
    match p.run c accept with
    | some a => some a
    | none => q.run c accept
  | .many kind least most eager, c, accept =>
    (manyEnds kind least most eager c).findSome? accept

/-- **Running a pattern is searching its ends in order.** -/
theorem run_eq_findSome? {α : Type} (p : Pattern) (c : Cursor) (accept : Cursor → Option α) :
    p.run c accept = (p.ends c).findSome? accept := by
  induction p generalizing c accept with
  | nothing => simp [run, ends]
  | one kind =>
    cases h : c.rest with
    | nil => simp [run, ends, h]
    | cons x rest => by_cases hk : kind x = true <;> simp [run, ends, h, hk]
  | boundary =>
    by_cases h : isWordBoundary c.before c.rest.head? = true <;> simp [run, ends, h]
  | seq p q ihp ihq =>
    simp only [run, ends, ihp, ihq]
    induction p.ends c with
    | nil => rfl
    | cons d ds ih =>
      simp only [List.flatMap_cons, List.findSome?_append, List.findSome?_cons]
      cases (q.ends d).findSome? accept with
      | some a => rfl
      | none => simpa using ih
  | either p q ihp ihq =>
    simp only [run, ends, ihp, ihq, List.findSome?_append]
    cases (p.ends c).findSome? accept <;> rfl
  | many kind least most eager => rfl

/-- The best end of a match that starts at the cursor. -/
def first? (p : Pattern) (c : Cursor) : Option Cursor := p.run c some

theorem first?_eq_head? (p : Pattern) (c : Cursor) : p.first? c = (p.ends c).head? := by
  rw [first?, run_eq_findSome?]
  cases p.ends c <;> rfl

/-! ## 2. Matches without the order -/

/-- `n` characters of the kind lead from one place to the other. -/
inductive Steps (kind : Char → Bool) : Nat → Cursor → Cursor → Prop where
  | zero (c : Cursor) : Steps kind 0 c c
  | succ {n : Nat} {before : Option Char} {taken : Nat} {x : Char} {rest : List Char} {d : Cursor} :
      kind x = true → Steps kind n ⟨some x, taken + 1, rest⟩ d →
      Steps kind (n + 1) ⟨before, taken, x :: rest⟩ d

/-- A match of the pattern leads from one place to the other. -/
inductive Spans : Pattern → Cursor → Cursor → Prop where
  | nothing (c : Cursor) : Spans .nothing c c
  | one {kind : Char → Bool} {before : Option Char} {taken : Nat} {x : Char} {rest : List Char} :
      kind x = true → Spans (.one kind) ⟨before, taken, x :: rest⟩ ⟨some x, taken + 1, rest⟩
  | boundary {c : Cursor} : isWordBoundary c.before c.rest.head? = true → Spans .boundary c c
  | seq {p q : Pattern} {c d e : Cursor} : Spans p c d → Spans q d e → Spans (.seq p q) c e
  | left {p q : Pattern} {c d : Cursor} : Spans p c d → Spans (.either p q) c d
  | right {p q : Pattern} {c d : Cursor} : Spans q c d → Spans (.either p q) c d
  | many {kind : Char → Bool} {least : Nat} {most : Option Nat} {eager : Bool} {n : Nat}
      {c d : Cursor} : least ≤ n → Room most n → Steps kind n c d →
      Spans (.many kind least most eager) c d

theorem room_zero (most : Option Nat) : Room most 0 := fun _ _ => Nat.zero_le _

theorem room_succ_iff (most : Option Nat) (n : Nat) :
    Room most (n + 1) ↔ exhausted most = false ∧ Room (lessOne most) n := by
  cases most with
  | none => simp [Room, exhausted, lessOne]
  | some m => cases m <;> simp [Room, exhausted, lessOne]

theorem steps_nil_iff {kind : Char → Bool} {n : Nat} {before : Option Char} {taken : Nat}
    {d : Cursor} : Steps kind n ⟨before, taken, []⟩ d ↔ n = 0 ∧ d = ⟨before, taken, []⟩ := by
  constructor
  · intro h; cases h; exact ⟨rfl, rfl⟩
  · rintro ⟨rfl, rfl⟩; exact .zero _

theorem steps_zero_iff {kind : Char → Bool} {c d : Cursor} : Steps kind 0 c d ↔ d = c := by
  constructor
  · intro h; cases h; rfl
  · rintro rfl; exact .zero _

theorem steps_succ_iff {kind : Char → Bool} {n : Nat} {before : Option Char} {taken : Nat}
    {x : Char} {rest : List Char} {d : Cursor} : Steps kind (n + 1) ⟨before, taken, x :: rest⟩ d ↔
      kind x = true ∧ Steps kind n ⟨some x, taken + 1, rest⟩ d := by
  constructor
  · intro h; cases h with | succ hk h => exact ⟨hk, h⟩
  · rintro ⟨hk, h⟩; exact .succ hk h

theorem mem_repeats_iff (kind : Char → Bool) (least : Nat) (most : Option Nat)
    (before : Option Char) (taken : Nat) (rest : List Char) (found : List Cursor) (d : Cursor) :
    d ∈ repeats kind least most before taken rest found ↔
      d ∈ found ∨ ∃ n, least ≤ n ∧ Room most n ∧ Steps kind n ⟨before, taken, rest⟩ d := by
  induction rest generalizing least most before taken found with
  | nil =>
    simp only [repeats, steps_nil_iff]
    by_cases hl : least = 0
    · simp only [hl, if_true, List.mem_cons, Nat.zero_le, true_and]
      constructor
      · rintro (h | h)
        · exact .inr ⟨0, room_zero _, rfl, h⟩
        · exact .inl h
      · rintro (h | ⟨n, -, -, h⟩)
        · exact .inr h
        · exact .inl h
    · simp only [hl, if_false]
      constructor
      · exact .inl
      · rintro (h | ⟨n, hn, -, rfl, -⟩)
        · exact h
        · omega
  | cons x rest ih =>
    have hfound : ∀ f : List Cursor, (d ∈ (if least = 0 then
        (⟨before, taken, x :: rest⟩ : Cursor) :: f else f)) ↔
        d ∈ f ∨ (least = 0 ∧ d = ⟨before, taken, x :: rest⟩) := by
      intro f
      by_cases hl : least = 0 <;> simp [hl, or_comm]
    have hsplit : (∃ n, least ≤ n ∧ Room most n ∧ Steps kind n ⟨before, taken, x :: rest⟩ d) ↔
        (least = 0 ∧ d = ⟨before, taken, x :: rest⟩) ∨
        ((exhausted most = false ∧ kind x = true) ∧ ∃ n, least - 1 ≤ n ∧ Room (lessOne most) n ∧
          Steps kind n ⟨some x, taken + 1, rest⟩ d) := by
      constructor
      · rintro ⟨n, hn, hr, hs⟩
        cases n with
        | zero => exact .inl ⟨by omega, steps_zero_iff.1 hs⟩
        | succ n =>
          obtain ⟨hm, hr⟩ := (room_succ_iff _ _).1 hr
          obtain ⟨hk, hs⟩ := steps_succ_iff.1 hs
          exact .inr ⟨⟨hm, hk⟩, n, by omega, hr, hs⟩
      · rintro (⟨hl, hd⟩ | ⟨⟨hm, hk⟩, n, hn, hr, hs⟩)
        · exact ⟨0, by omega, room_zero _, steps_zero_iff.2 hd⟩
        · exact ⟨n + 1, by omega, (room_succ_iff _ _).2 ⟨hm, hr⟩, steps_succ_iff.2 ⟨hk, hs⟩⟩
    simp only [repeats]
    rw [hsplit]
    have hgo : (!exhausted most && kind x) = true ↔ exhausted most = false ∧ kind x = true := by
      simp
    by_cases h : exhausted most = false ∧ kind x = true
    · rw [if_pos (hgo.2 h), ih, hfound]
      simp only [h, true_and, or_assoc]
    · rw [if_neg (fun g => h (hgo.1 g)), hfound]
      simp only [h, false_and, or_false]

/-- **The listed ends are the ends of the matches.** -/
theorem mem_ends_iff (p : Pattern) (c d : Cursor) : d ∈ p.ends c ↔ Spans p c d := by
  induction p generalizing c d with
  | nothing =>
    simp only [ends, List.mem_singleton]
    constructor
    · rintro rfl; exact .nothing _
    · intro h; cases h; rfl
  | one kind =>
    obtain ⟨before, taken, rest⟩ := c
    cases rest with
    | nil =>
      simp only [ends, List.not_mem_nil, false_iff]
      intro h; cases h
    | cons x rest =>
      by_cases hk : kind x = true
      · simp only [ends, hk, if_true, List.mem_singleton]
        constructor
        · rintro rfl; exact .one hk
        · intro h; cases h; rfl
      · simp only [ends, hk]
        constructor
        · intro h; simp at h
        · intro h; cases h with | one h => exact absurd h hk
  | boundary =>
    by_cases hb : isWordBoundary c.before c.rest.head? = true
    · simp only [ends, hb, if_true, List.mem_singleton]
      constructor
      · rintro rfl; exact .boundary hb
      · intro h; cases h; rfl
    · simp only [ends, hb]
      constructor
      · intro h; simp at h
      · intro h; cases h with | boundary h => exact absurd h hb
  | seq p q ihp ihq =>
    simp only [ends, List.mem_flatMap, ihp, ihq]
    constructor
    · rintro ⟨e, h₁, h₂⟩; exact .seq h₁ h₂
    · intro h; cases h with | seq h₁ h₂ => exact ⟨_, h₁, h₂⟩
  | either p q ihp ihq =>
    simp only [ends, List.mem_append, ihp, ihq]
    constructor
    · rintro (h | h)
      · exact .left h
      · exact .right h
    · intro h
      cases h with
      | left h => exact .inl h
      | right h => exact .inr h
  | many kind least most eager =>
    have hm : d ∈ manyEnds kind least most eager c ↔
        d ∈ repeats kind least most c.before c.taken c.rest [] := by
      cases eager <;> simp [manyEnds]
    simp only [ends, hm, mem_repeats_iff, List.not_mem_nil, false_or]
    constructor
    · rintro ⟨n, hl, hr, hs⟩; exact .many hl hr hs
    · intro h; cases h with | many hl hr hs => exact ⟨_, hl, hr, hs⟩

/-- There is a best match exactly where there is a match. -/
theorem first?_isSome_iff (p : Pattern) (c : Cursor) :
    (p.first? c).isSome ↔ ∃ d, Spans p c d := by
  rw [first?_eq_head?]
  simp only [← mem_ends_iff]
  cases p.ends c <;> simp

/-! ## 3. Shorthands -/

/-- The patterns one after the other. -/
def all (ps : List Pattern) : Pattern := ps.foldr seq nothing

/-- The patterns as alternatives, an earlier one before a later one; an empty list of them is the
    empty text. -/
def any : List Pattern → Pattern
  | [] => nothing
  | [p] => p
  | p :: ps => either p (any ps)

/-- The pattern if it is there. -/
def optional (p : Pattern) : Pattern := either p nothing

/-- The text, letter by letter. -/
def exactly (s : String) : Pattern := all (s.toList.map (fun c => one (· == c)))

/-- What a character is compared by where letter case does not matter: the letters `A`–`Z`, the
    long s (U+017F) and the Kelvin sign (U+212A) stand for their small Latin letters. -/
def foldCase (c : Char) : Char :=
  if 0x41 ≤ c.toNat && c.toNat ≤ 0x5A then Char.ofNat (c.toNat + 0x20)
  else if c == '\u017F' then 's'
  else if c == '\u212A' then 'k'
  else c

/-- The text, which is in small letters, in any letter case. -/
def word (s : String) : Pattern := all (s.toList.map (fun c => one (fun x => foldCase x == c)))

/-- One of the texts, which are in small letters, in any letter case. -/
def anyWord (ws : List String) : Pattern := any (ws.map word)

/-- At least one blank. -/
def blanks : Pattern := many isBlank 1 none true

/-- Blanks, if there are any. -/
def optionalBlanks : Pattern := many isBlank 0 none true

/-- Exactly `n` decimal digits. -/
def digits (n : Nat) : Pattern := many isDigit n (some n) true

end Pattern

end Gatehouse
