import Gatehouse.Number.Layout

/-!
# JSON that is written

* `Value` is a JSON value whose objects keep their members in order;
* `Value.chars` is its compact text: no blanks, and in strings only the quote, the backslash and the
  characters below U+0020 are escaped;
* `Value.text` is the same as a string.

Numbers are whole numbers or single-precision ones; a number that is infinite or missing is written as
`null`.
-/

namespace Gatehouse.Json

open Gatehouse.Number

/-- A JSON value. -/
inductive Value where
  | null
  | bool (b : Bool)
  | natural (n : Nat)
  | real (x : Binary)
  | string (s : String)
  | array (items : List Value)
  | object (members : List (String × Value))

/-! ## 1. Strings -/

/-- A hexadecimal digit, in small letters. -/
def hexDigit (n : Nat) : Char := if n < 10 then Char.ofNat (0x30 + n) else Char.ofNat (0x57 + n)

/-- A character as it is written inside a string. -/
def escapeChar (c : Char) : List Char :=
  if c == '"' then ['\\', '"']
  else if c == '\\' then ['\\', '\\']
  else if c == '\x08' then ['\\', 'b']
  else if c == '\t' then ['\\', 't']
  else if c == '\n' then ['\\', 'n']
  else if c == '\x0c' then ['\\', 'f']
  else if c == '\r' then ['\\', 'r']
  else if c.toNat < 0x20 then
    ['\\', 'u', '0', '0', hexDigit (c.toNat / 16), hexDigit (c.toNat % 16)]
  else [c]

/-- A string with its quotes. -/
def stringChars (s : List Char) : List Char := '"' :: (s.flatMap escapeChar ++ ['"'])

/-! ## 2. Values -/

namespace Value

mutual

/-- **The compact text of a value.** -/
def chars : Value → List Char
  | .null => ['n', 'u', 'l', 'l']
  | .bool true => ['t', 'r', 'u', 'e']
  | .bool false => ['f', 'a', 'l', 's', 'e']
  | .natural n => Nat.toDigits 10 n
  | .real x => if x.isFinite then (singleInJson.text single x).toList else ['n', 'u', 'l', 'l']
  | .string s => stringChars s.toList
  | .array [] => ['[', ']']
  | .array (v :: vs) => '[' :: (v.chars ++ moreItems vs)
  | .object [] => ['\x7b', '\x7d']
  | .object ((k, v) :: ms) => '\x7b' :: (stringChars k.toList ++ ':' :: (v.chars ++ moreMembers ms))

/-- The text of the items after the first, up to the closing bracket. -/
def moreItems : List Value → List Char
  | [] => [']']
  | v :: vs => ',' :: (v.chars ++ moreItems vs)

/-- The text of the members after the first, up to the closing brace. -/
def moreMembers : List (String × Value) → List Char
  | [] => ['\x7d']
  | (k, v) :: ms => ',' :: (stringChars k.toList ++ ':' :: (v.chars ++ moreMembers ms))

end

/-- The compact text of a value. -/
def text (v : Value) : String := String.ofList v.chars

/-- A string, or `null`. -/
def ofString? : Option String → Value
  | none => .null
  | some s => .string s

end Value

end Gatehouse.Json
