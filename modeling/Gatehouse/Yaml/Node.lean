import Gatehouse.Number.Plain

/-!
# YAML values

A YAML text stands for a `Node`. Scalars keep their text and whether it was quoted: a quoted one is a
string whatever it looks like, and `Node.plainValue` says what an unquoted one is.
-/

namespace Gatehouse.Yaml

/-- What a YAML text stands for. -/
inductive Node where
  /-- Nothing was written where a value could have been. -/
  | absent
  | plain (text : String)
  | quoted (text : String)
  | list (items : List Node)
  | mapping (entries : List (String × Node))

/-- What an unquoted scalar is. -/
inductive PlainValue where
  | null
  | bool (b : Bool)
  | int (n : Int)
  /-- A decimal, or a word for an infinity or for no number, as it was written. -/
  | real (text : String)
  | text (s : String)
  deriving DecidableEq, Repr

/-- The value of digits of a base. -/
def digitsIn? (base : Nat) (s : List Char) : Option Nat :=
  let digit (c : Char) : Option Nat :=
    let n := c.toLower.toNat
    let d := if 0x61 ≤ n then n - 0x57 else n - 0x30
    if c.isAlphanum && decide (d < base) then some d else none
  if s.isEmpty then none
  else s.foldl (fun v c => v.bind (fun n => (digit c).map (n * base + ·))) (some 0)

/-- A whole number of 64 bits in a base, with an optional sign. -/
def inBase? (base : Nat) (s : List Char) : Option Int :=
  let (negative, ds) := Number.readSign s
  (digitsIn? base ds).bind (Number.signed? negative)

/-- The words for infinities and for no number that only this format has. -/
def specialReals : List String :=
  [".inf", ".Inf", ".INF", "+.inf", "+.Inf", "+.INF", "-.inf", "-.Inf", "-.INF", ".nan", ".NAN"]

/-- What an unquoted scalar is. A base is told by `0x` or `0o` before the sign, and a plus may stand
    before a signed number. -/
def plainValue (text : String) : PlainValue :=
  let number := match text.toList with
    | '0' :: 'x' :: s => inBase? 16 s
    | '0' :: 'o' :: s => inBase? 8 s
    | '+' :: s => inBase? 10 s
    | s => inBase? 10 s
  if text == "~" || text == "null" then .null
  else if text == "true" then .bool true
  else if text == "false" then .bool false
  else match number with
    | some n => .int n
    | none =>
      if specialReals.contains text || (Number.real? text).isSome then .real text else .text text

/-- The name that a key gives its entry, if it is a text or a whole number. -/
def Node.name? : Node → Option String
  | .quoted s => some s
  | .plain s =>
    match plainValue s with
    | .text s => some s
    | .int n => some (toString n)
    | _ => none
  | _ => none

end Gatehouse.Yaml
