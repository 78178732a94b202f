import Gatehouse.Config.Tree
import Gatehouse.Number.Layout
import Gatehouse.Number.Plain
import Gatehouse.Text.LowerCase
import Gatehouse.Text.Quoted

/-!
# Reading settings

A reader says what a setting is expected to be. It is generous with scalars: a number is read as text
where a text is expected, and a text or a truth value as a number where a number is expected.

* `text`, `whole`, `optional` and `list` read one setting each;
* `Record` gives access to the parts of a table. A list may stand for a table, with its parts in order;
* `Problem` says what was found instead of what was expected; `Problem.message` puts it into words.
-/

namespace Gatehouse.Config

open Gatehouse.Number

/-! ## 1. Problems -/

/-- A setting that is not what it is expected to be. -/
inductive Problem where
  /-- No value can be made of it. -/
  | value (origin : Option Origin) (found expected : String) (place : List Tree.Step)
  /-- It is no table or no list. -/
  | container (found expected : String)
  deriving DecidableEq, Repr

/-- The words for a place, with a point before a name that follows something. -/
def placeText : List Tree.Step → String
  | [] => ""
  | .name n :: rest =>
    match rest with
    | .name _ :: _ => n ++ "." ++ placeText rest
    | _ => n ++ placeText rest
  | .position i :: rest => "[" ++ toString i ++ "]" ++ placeText rest

/-- The words for a problem. -/
def Problem.message : Problem → String
  | .value origin found expected place =>
    "invalid type: " ++ found ++ ", expected " ++ expected ++
      (if place.isEmpty then "" else " for key `" ++ placeText place ++ "`") ++
      (match origin with
        | none => ""
        | some o => " in " ++ o.text)
  | .container found expected => "invalid type: " ++ found ++ ", expected " ++ expected

/-- A reader of settings. -/
abbrev Reader (α : Type) := Tree → Except Problem α

/-- The outcome of reading a part, seen from the whole. -/
def inside {α : Type} (step : Tree.Step) : Except Problem α → Except Problem α
  | .error (.value origin found expected place) => .error (.value origin found expected (step :: place))
  | outcome => outcome

/-- Where a tree was set. -/
def Tree.origin : Tree → Option Origin
  | .scalar origin _ | .list origin _ | .table origin _ => origin

/-- Doubles in messages about containers: positional, a whole number with a zero behind the point. -/
def inMessage : Layout := ⟨true, none, .up⟩

/-- What is said to have been found in the place of a table or a list. -/
def foundContainer : Tree → String
  | .scalar _ .null => "unit value"
  | .scalar _ (.bool b) => "boolean `" ++ toString b ++ "`"
  | .scalar _ (.int n) => "integer `" ++ toString n ++ "`"
  | .scalar _ (.real x) => "floating point `" ++ inMessage.text double x ++ "`"
  | .scalar _ (.text s) => "string " ++ Text.quoted s
  | .list .. => "sequence"
  | .table .. => "map"

/-- What is said to have been found in the place of a scalar. -/
def foundValue : Tree → String
  | .scalar _ (.int n) => "integer 64 bit `" ++ toString n ++ "`"
  | t => foundContainer t

/-- The problem of a setting that no value can be made of. -/
def unusable (t : Tree) (expected : String) : Problem := .value t.origin (foundValue t) expected []

/-! ## 2. Single settings -/

/-- A text. -/
def text : Reader String
  | .scalar _ (.text s) => .ok s
  | .scalar _ (.bool b) => .ok (toString b)
  | .scalar _ (.int n) => .ok (toString n)
  | .scalar _ (.real x) => .ok (plain.text double x)
  | t => .error (unusable t "a string")

/-- The whole number next to a double, a half going away from zero; numbers below zero and no number
    count as zero, numbers that are too large as the largest of 64 bits. -/
def nearestWhole : Binary → Nat
  | .finite false m e =>
    let (n, d) := ratio m e
    min ((2 * n + d) / (2 * d)) (UInt64.size - 1)
  | .infinite false => UInt64.size - 1
  | _ => 0

/-- The whole number a text stands for: one of the words for yes and no, or digits. -/
def wholeOfText? (s : String) : Option Nat :=
  let word := Text.lower s
  if ["true", "on", "yes"].contains word then some 1
  else if ["false", "off", "no"].contains word then some 0
  else natural? s

/-- A whole number of 64 bits without sign. -/
def whole : Reader Nat
  | .scalar o (.int n) =>
    if 0 ≤ n then .ok n.toNat
    else .error (unusable (.scalar o (.int n)) "an unsigned 64 bit or less integer")
  | .scalar o (.text s) =>
    match wholeOfText? s with
    | some n => .ok n
    | none => .error (unusable (.scalar o (.text s)) "an integer")
  | .scalar _ (.bool b) => .ok b.toNat
  | .scalar _ (.real x) => .ok (nearestWhole x)
  | t => .error (unusable t "an integer")

/-- A whole number of 16 bits: the low bits of a larger one. -/
def word16 : Reader UInt16 := fun t => (whole t).map UInt16.ofNat

/-- A setting that may be null. -/
def optional {α : Type} (read : Reader α) : Reader (Option α)
  | .scalar _ .null => .ok none
  | t => (read t).map some

/-- The items of a list from the one at place `n` on. -/
def itemsFrom {α : Type} (read : Reader α) : (n : Nat) → List Tree → Except Problem (List α)
  | _, [] => .ok []
  | n, t :: ts => do
    let x ← inside (.position n) (read t)
    let xs ← itemsFrom read (n + 1) ts
    return x :: xs

/-- A list. -/
def list {α : Type} (read : Reader α) : Reader (List α)
  | .list _ items => itemsFrom read 0 items
  | t => .error (.container (foundContainer t) "a sequence")

/-! ## 3. Tables -/

/-- The parts of something that is read as a table. -/
inductive Record where
  | named (entries : List (String × Tree))
  | placed (items : List Tree)

namespace Record

/-- The parts of a tree; `expected` says what kind of table it should be. -/
def ofTree (expected : String) : Tree → Except Problem Record
  | .table _ entries => .ok (.named entries)
  | .list _ items => .ok (.placed items)
  | t => .error (.container (foundContainer t) ("struct " ++ expected))

/-- The part with a name, which has this place among all parts; `default` if it is missing. -/
def read {α : Type} (r : Record) (place : Nat) (name : String) (read : Reader α) (default : α) :
    Except Problem α :=
  match r with
  | .named entries =>
    match entries.lookup name with
    | some t => inside (.name name) (read t)
    | none => .ok default
  | .placed items =>
    match items[place]? with
    | some t => inside (.position place) (read t)
    | none => .ok default

end Record

end Gatehouse.Config
