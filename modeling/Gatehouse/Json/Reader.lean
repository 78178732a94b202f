import Gatehouse.Json.Tree
import Gatehouse.Text.Utf8

/-!
# Reading JSON

The reader works on characters, with `none` for an invalid part of the underlying bytes (see
`Gatehouse.Text.Utf8`). Such a part is accepted inside strings only, and makes the string unusable.

* `readString`, `readNumber` and `readLiteral` read one token each and give the rest of the text;
* `readValue` reads a value; the rest is missing if the text broke off inside it;
* `readText` reads a whole text, `ofBytes` and `ofString` start from bytes and from a string.
-/

namespace Gatehouse.Json.Reader

open Gatehouse.Number

/-- A character of the text, or an invalid part of its bytes. -/
abbrev Item := Option Char

/-- Blank space between tokens. -/
def isSpace : Item → Bool
  | some c => c == ' ' || c == '\n' || c == '\t' || c == '\r'
  | none => false

/-- The text from the first item on that is not space. -/
def skipSpace (s : List Item) : List Item := s.dropWhile isSpace

/-! ## 1. Strings -/

/-- A string that is being read: its characters so far, last one first, the leading half of a
    surrogate pair if it has just been read, and whether there is nothing wrong with the string. -/
structure Scan where
  chars : List Char
  leading : Option Nat
  usable : Bool

namespace Scan

/-- Nothing read yet. -/
def start : Scan := ⟨[], none, true⟩

/-- A character; a leading half before it was a lone one. -/
def push (s : Scan) (c : Char) : Scan := ⟨c :: s.chars, none, s.usable && s.leading.isNone⟩

/-- An item of the text. -/
def pushItem (s : Scan) : Item → Scan
  | some c => s.push c
  | none => ⟨s.chars, none, false⟩

/-- A character given by its number, which may be half of a surrogate pair. -/
def pushCode (s : Scan) (n : Nat) : Scan :=
  match s.leading with
  | some h =>
    if 0xDC00 ≤ n ∧ n < 0xE000 then
      ⟨Char.ofNat (0x10000 + (h - 0xD800) * 0x400 + (n - 0xDC00)) :: s.chars, none, s.usable⟩
    else ⟨s.chars, none, false⟩
  | none =>
    if 0xDC00 ≤ n ∧ n < 0xE000 then ⟨s.chars, none, false⟩
    else if 0xD800 ≤ n ∧ n < 0xDC00 then ⟨s.chars, some n, s.usable⟩
    else s.push (Char.ofNat n)

/-- The text of the string, if nothing is wrong with it. -/
def finish (s : Scan) : Option String :=
  if s.usable && s.leading.isNone then some (String.ofList s.chars.reverse) else none

end Scan

/-- The value of a hexadecimal digit. -/
def hexValue : Item → Option Nat
  | none => none
  | some c =>
    let n := c.toNat
    if 0x30 ≤ n ∧ n ≤ 0x39 then some (n - 0x30)
    else if 0x41 ≤ n ∧ n ≤ 0x46 then some (n - 0x37)
    else if 0x61 ≤ n ∧ n ≤ 0x66 then some (n - 0x57)
    else none

/-- The value of four hexadecimal digits. -/
def hexCode (a b c d : Item) : Option Nat := do
  let a ← hexValue a
  let b ← hexValue b
  let c ← hexValue c
  let d ← hexValue d
  return ((a * 16 + b) * 16 + c) * 16 + d

/-- The character that a letter behind a backslash stands for. -/
def escaped : Char → Option Char
  | '"' => some '"'
  | '\\' => some '\\'
  | '/' => some '/'
  | 'b' => some '\x08'
  | 'f' => some '\x0c'
  | 'n' => some '\n'
  | 'r' => some '\r'
  | 't' => some '\t'
  | _ => none

/-- The rest of a string whose opening quote has been read, and the text behind it; `none` if the
    string is malformed. -/
def readString (scan : Scan) : List Item → Option (Option String × List Item)
  | [] => none
  | none :: rest => readString (scan.pushItem none) rest
  | some c :: rest =>
    if c == '"' then some (scan.finish, rest)
    else if c == '\\' then
      match rest with
      | [] => none
      | none :: _ => none
      | some e :: rest =>
        if e == 'u' then
          match rest with
          | h₁ :: h₂ :: h₃ :: h₄ :: rest =>
            match hexCode h₁ h₂ h₃ h₄ with
            | some n => readString (scan.pushCode n) rest
            | none => none
          | _ => none
        else
          match escaped e with
          | some x => readString (scan.push x) rest
          | none => none
    else if c.toNat < 0x20 then none
    else readString (scan.push c) rest

/-! ## 2. Numbers -/

/-- The value of a decimal digit. -/
def digit? : Item → Option Nat
  | some c => if 0x30 ≤ c.toNat ∧ c.toNat ≤ 0x39 then some (c.toNat - 0x30) else none
  | none => none

/-- The digits at the start of the text, and the text behind them. -/
def digitRun (s : List Item) : List Nat × List Item :=
  let (ds, rest) := s.span (fun i => (digit? i).isSome)
  (ds.filterMap digit?, rest)

/-- The largest whole number that is kept as one. -/
def maxNatural : Nat := UInt64.size - 1

/-- The whole part of a number: the value of as many digits as `maxNatural` allows, and the number of
    digits left out. -/
def wholePart (ds : List Nat) : Nat × Nat :=
  ds.foldl (fun (value, out) d =>
    if out = 0 ∧ value * 10 + d ≤ maxNatural then (value * 10 + d, 0) else (value, out + 1)) (0, 0)

/-- The digits behind the point, appended to a value as long as `maxNatural` allows; the number of
    digits appended comes second. -/
def fractionPart (value : Nat) (ds : List Nat) : Nat × Nat :=
  let (value, taken, _) := ds.foldl (fun (value, taken, full) d =>
    if !full && decide (value * 10 + d ≤ maxNatural) then (value * 10 + d, taken + 1, false)
    else (value, taken, true)) (value, 0, false)
  (value, taken)

/-- The value of digits. -/
def digitsValue (ds : List Nat) : Nat := ds.foldl (fun n d => n * 10 + d) 0

/-- A number that is not whole, from its sign, significand and decimal exponent. -/
def realOf (negative : Bool) (significand : Nat) (exponent : Int) : Numeral :=
  match ofDecimal? significand exponent with
  | some x => .real (if negative then x.neg else x)
  | none => .tooLarge

/-- The largest exponent that is calculated with. -/
def maxExponent : Nat := UInt32.size / 2 - 1

/-- A number from its sign and the digits of its parts; the exponent comes with its sign. -/
def numeralOf (negative : Bool) (whole : List Nat) (fraction : Option (List Nat))
    (exponent : Option (Bool × List Nat)) : Numeral :=
  let (value, out) := wholePart whole
  match fraction, exponent with
  | none, none =>
    if out ≠ 0 then realOf negative value out
    else if !negative then .natural value
    else if 1 ≤ value ∧ value ≤ UInt64.size / 2 then .negative value
    else realOf true value 0
  | _, _ =>
    let (value, taken) := fractionPart value (fraction.getD [])
    let shift : Int := (out : Int) - taken
    match exponent with
    | none => realOf negative value shift
    | some (below, ds) =>
      let n := digitsValue ds
      if n ≤ maxExponent then realOf negative value (if below then shift - n else shift + n)
      else if value ≠ 0 ∧ !below then .tooLarge
      else realOf negative 0 0

/-- The digits behind a point, if there is one; `none` if there is a point without digits. -/
def readFraction : List Item → Option (Option (List Nat) × List Item)
  | some '.' :: s =>
    match digitRun s with
    | ([], _) => none
    | (ds, rest) => some (some ds, rest)
  | s => some (none, s)

/-- The sign of an exponent, if there is one: is it a minus? -/
def readSign : List Item → Bool × List Item
  | some '+' :: s => (false, s)
  | some '-' :: s => (true, s)
  | s => (false, s)

/-- An exponent, if there is one; `none` if there is one without digits. -/
def readExponent (s : List Item) : Option (Option (Bool × List Nat) × List Item) :=
  let digits (s : List Item) :=
    let (below, s) := readSign s
    match digitRun s with
    | ([], _) => none
    | (ds, rest) => some (some (below, ds), rest)
  match s with
  | some 'e' :: s => digits s
  | some 'E' :: s => digits s
  | s => some (none, s)

/-- A number and the text behind it; `none` if it is malformed. -/
def readNumber (s : List Item) : Option (Numeral × List Item) :=
  let (negative, s) := match s with
    | some '-' :: s => (true, s)
    | s => (false, s)
  match digitRun s with
  | ([], _) => none
  | (0 :: _ :: _, _) => none
  | (whole, s) =>
    match readFraction s with
    | none => none
    | some (fraction, s) =>
      match readExponent s with
      | none => none
      | some (exponent, s) => some (numeralOf negative whole fraction exponent, s)

/-! ## 3. Values -/

/-- The text behind a literal, if it starts with it. -/
def readLiteral : List Char → List Item → Option (List Item)
  | [], s => some s
  | c :: cs, some x :: s => if x == c then readLiteral cs s else none
  | _ :: _, _ => none

/-- The tree of a literal. -/
def literal (word : List Char) (t : Tree) (s : List Item) : Tree × Option (List Item) :=
  match readLiteral word s with
  | some rest => (t, some rest)
  | none => (.fault, none)

mutual

/-- **A value, and the text behind it**; no text if it broke off inside the value. `fuel` is at least
    twice the length of the text. -/
def readValue : (fuel : Nat) → List Item → Tree × Option (List Item)
  | 0, _ => (.fault, none)
  | fuel + 1, s =>
    match skipSpace s with
    | [] => (.fault, none)
    | none :: _ => (.fault, none)
    | some c :: rest =>
      if c == 'n' then literal ['u', 'l', 'l'] .null rest
      else if c == 't' then literal ['r', 'u', 'e'] (.bool true) rest
      else if c == 'f' then literal ['a', 'l', 's', 'e'] (.bool false) rest
      else if c == '"' then
        match readString .start rest with
        | some (t, rest) => (.string t, some rest)
        | none => (.fault, none)
      else if c == '[' then
        match skipSpace rest with
        | some ']' :: rest => (.array [] true, some rest)
        | rest => readItems fuel [] rest
      else if c == '\x7b' then
        match skipSpace rest with
        | some '\x7d' :: rest => (.object [] true, some rest)
        | rest => readMembers fuel [] rest
      else if c == '-' || c.isDigit then
        match readNumber (some c :: rest) with
        | some (n, rest) => (.number n, some rest)
        | none => (.fault, none)
      else (.fault, none)

/-- The items of a list from the next one on; `done` are those before, last one first. -/
def readItems : (fuel : Nat) → (done : List Tree) → List Item → Tree × Option (List Item)
  | 0, done, _ => (.array done.reverse false, none)
  | fuel + 1, done, s =>
    match skipSpace s with
    | some ']' :: _ => (.array done.reverse false, none)
    | s =>
      match readValue fuel s with
      | (t, none) => (.array (t :: done).reverse false, none)
      | (t, some rest) =>
        match skipSpace rest with
        | some ',' :: rest => readItems fuel (t :: done) rest
        | some ']' :: rest => (.array (t :: done).reverse true, some rest)
        | _ => (.array (t :: done).reverse false, none)

/-- The members of an object from the next one on; `done` are those before, last one first. -/
def readMembers : (fuel : Nat) → (done : List (Option String × Tree)) → List Item →
    Tree × Option (List Item)
  | 0, done, _ => (.object done.reverse false, none)
  | fuel + 1, done, s =>
    match skipSpace s with
    | some '"' :: rest =>
      match readString .start rest with
      | none => (.object done.reverse false, none)
      | some (key, rest) =>
        match skipSpace rest with
        | some ':' :: rest =>
          match readValue fuel rest with
          | (t, none) => (.object ((key, t) :: done).reverse false, none)
          | (t, some rest) =>
            match skipSpace rest with
            | some ',' :: rest => readMembers fuel ((key, t) :: done) rest
            | some '\x7d' :: rest => (.object ((key, t) :: done).reverse true, some rest)
            | _ => (.object ((key, t) :: done).reverse false, none)
        | _ => (.object ((key, .fault) :: done).reverse false, none)
    | _ => (.object done.reverse false, none)

end

/-- The value at the start of a text, and the text behind it. -/
def readFirst (s : List Item) : Tree × Option (List Item) := readValue (2 * s.length + 2) s

/-- Is there nothing but space left? -/
def isDone : Option (List Item) → Bool
  | some rest => (skipSpace rest).isEmpty
  | none => false

/-- The items of a byte text. -/
def bytesItems (bytes : List UInt8) : List Item := Text.Utf8.items bytes

/-- The items of a string. -/
def stringItems (s : String) : List Item := s.toList.map some

end Gatehouse.Json.Reader
