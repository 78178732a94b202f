import Gatehouse.Json.Reader
import Gatehouse.Number.Layout
import Gatehouse.Text.Quoted

/-!
# What a JSON text has to look like

A *shape* says what a value is expected to be, and reads it from a tree. The first problem in the order
of the text is reported:

* `Problem.malformed`: the text breaks off there, or holds something that no reader can use;
* `Problem.mismatch`: the text holds something else than expected, at a path inside the value.

A `Record` is a value with named fields. It is written as an object, whose unknown members are passed
over, or as the list of its fields in order.
-/

namespace Gatehouse.Json

open Gatehouse.Number

/-! ## 1. Problems -/

/-- One step from a value to a part of it. -/
inductive Step where
  | field (name : String)
  | index (n : Nat)
  deriving DecidableEq, Repr

/-- What is wrong with a value of the wrong kind. -/
inductive Mismatch where
  /-- Something of another type was found. -/
  | wrongType (found expected : String)
  /-- Something of the right type but outside its range was found. -/
  | wrongValue (found expected : String)
  | missingField (name : String)
  | repeatedField (name : String)
  | wrongLength (found : Nat) (expected : String)
  deriving DecidableEq, Repr

/-- A problem with a text. -/
inductive Problem where
  | malformed
  | mismatch (path : List Step) (what : Mismatch)
  deriving DecidableEq, Repr

/-- The words for a mismatch. -/
def Mismatch.message : Mismatch → String
  | .wrongType found expected => "invalid type: " ++ found ++ ", expected " ++ expected
  | .wrongValue found expected => "invalid value: " ++ found ++ ", expected " ++ expected
  | .missingField name => "missing field `" ++ name ++ "`"
  | .repeatedField name => "duplicate field `" ++ name ++ "`"
  | .wrongLength found expected =>
    "invalid length " ++ toString found ++ ", expected " ++ expected

/-- The words for a path: names separated by points, places in brackets. -/
def pathText : List Step → String
  | [] => ""
  | [.field n] => n
  | .field n :: .index i :: rest => n ++ pathText (.index i :: rest)
  | .field n :: rest => n ++ "." ++ pathText rest
  | [.index i] => "[" ++ toString i ++ "]"
  | .index i :: .index k :: rest => "[" ++ toString i ++ "]" ++ pathText (.index k :: rest)
  | .index i :: rest => "[" ++ toString i ++ "]." ++ pathText rest

/-- The message with the path in front of it, if there is one. -/
def locatedMessage (path : List Step) (what : Mismatch) : String :=
  if path.isEmpty then what.message else pathText path ++ ": " ++ what.message

/-- A reader of trees. -/
abbrev Shape (α : Type) := Tree → Except Problem α

/-- The outcome of reading a part, seen from the whole. -/
def inside {α : Type} (step : Step) : Except Problem α → Except Problem α
  | .error (.mismatch path what) => .error (.mismatch (step :: path) what)
  | outcome => outcome

/-- The problem of a value of another type than expected; a value that cannot be read at all is
    malformed. -/
def unexpected (t : Tree) (expected : String) : Problem :=
  let found (s : String) := Problem.mismatch [] (.wrongType s expected)
  match t with
  | .null => found "null"
  | .bool b => found ("boolean `" ++ toString b ++ "`")
  | .number (.natural n) => found ("integer `" ++ toString n ++ "`")
  | .number (.negative n) => found ("integer `-" ++ toString n ++ "`")
  | .number (.real x) => found ("floating point `" ++ doubleInJson.text double x ++ "`")
  | .number .tooLarge => .malformed
  | .string (some s) => found ("string " ++ Text.quoted s)
  | .string none => .malformed
  | .array .. => found "sequence"
  | .object .. => found "map"
  | .fault => .malformed

/-! ## 2. Simple values -/

/-- A string. -/
def string : Shape String
  | .string (some s) => .ok s
  | t => .error (unexpected t "a string")

/-- A whole number of 32 bits. -/
def word32 : Shape UInt32
  | .number (.natural n) =>
    if n < UInt32.size then .ok (UInt32.ofNat n)
    else .error (.mismatch [] (.wrongValue ("integer `" ++ toString n ++ "`") "u32"))
  | .number (.negative n) =>
    .error (.mismatch [] (.wrongValue ("integer `-" ++ toString n ++ "`") "u32"))
  | t => .error (unexpected t "u32")

/-- Any number, in single precision. -/
def singleNumber : Shape Binary
  | .number (.natural n) => .ok (single.ofNat false n)
  | .number (.negative n) => .ok (single.ofNat true n)
  | .number (.real x) => .ok (single.convert x)
  | t => .error (unexpected t "f32")

/-- A value that may be `null`. -/
def optional {α : Type} (shape : Shape α) : Shape (Option α)
  | .null => .ok none
  | t => (shape t).map some

/-- The items of a list from the one at place `n` on. -/
def itemsFrom {α : Type} (shape : Shape α) (closed : Bool) : (n : Nat) → List Tree →
    Except Problem (List α)
  | _, [] => if closed then .ok [] else .error .malformed
  | n, t :: ts => do
    let x ← inside (.index n) (shape t)
    let xs ← itemsFrom shape closed (n + 1) ts
    return x :: xs

/-- A list. -/
def list {α : Type} (shape : Shape α) : Shape (List α)
  | .array items closed => itemsFrom shape closed 0 items
  | t => .error (unexpected t "a sequence")

/-! ## 3. Records -/

/-- A field of a record: its name, whether it may be left out at the end of a list, and how its value
    goes into the record read so far. -/
structure Field (σ : Type) where
  name : String
  mayEnd : Bool
  read : Tree → σ → Except Problem σ

/-- A value with named fields. `start` is the record before any field is read, and `finish` the value
    of a record all of whose members have been read, or the name of a field that is missing. -/
structure Record (σ α : Type) where
  name : String
  fields : List (Field σ)
  start : σ
  finish : σ → Except String α

namespace Record

variable {σ α : Type}

/-- The members of an object from the next one on; `seen` are the fields read before. -/
def members (fields : List (Field σ)) : (seen : List String) → List (Option String × Tree) → σ →
    Except Problem σ
  | _, [], r => .ok r
  | _, (none, _) :: _, _ => .error .malformed
  | seen, (some key, t) :: rest, r =>
    match fields.find? (fun f => f.name == key) with
    | none => if t.sound then members fields seen rest r else .error .malformed
    | some f =>
      if seen.contains key then .error (.mismatch [] (.repeatedField key))
      else do
        let r ← inside (.field key) (f.read t r)
        members fields (key :: seen) rest r

/-- The items of a list, which are the fields in order, from the one at place `n` on. -/
def places (expected : String) (closed : Bool) : (n : Nat) → List (Field σ) → List Tree → σ →
    Except Problem σ
  | _, [], [], r => if closed then .ok r else .error .malformed
  | _, [], _ :: _, _ => .error .malformed
  | n, f :: fs, [], r =>
    if !closed then .error .malformed
    else if f.mayEnd then places expected closed (n + 1) fs [] r
    else .error (.mismatch [] (.wrongLength n expected))
  | n, f :: fs, t :: ts, r => do
    let r ← inside (.index n) (f.read t r)
    places expected closed (n + 1) fs ts r

/-- What is said to be expected in the place of a list of another length. -/
def lengthText (record : Record σ α) : String :=
  let n := record.fields.length
  "struct " ++ record.name ++ " with " ++ toString n ++ (if n == 1 then " element" else " elements")

/-- The value of a record all of whose parts have been read. -/
def complete (record : Record σ α) (r : σ) : Except Problem α :=
  match record.finish r with
  | .ok a => .ok a
  | .error name => .error (.mismatch [] (.missingField name))

/-- **Reads a record.** -/
def shape (record : Record σ α) : Shape α
  | .object ms closed => do
    let r ← members record.fields [] ms record.start
    if closed then record.complete r else .error .malformed
  | .array items closed => do
    let r ← places record.lengthText closed 0 record.fields items record.start
    record.complete r
  | t => .error (unexpected t ("struct " ++ record.name))

end Record

/-! ## 4. Texts -/

/-- The value that a text starts with; what follows it is not looked at. -/
def Shape.ofStart {α : Type} (shape : Shape α) (text : List Reader.Item) : Except Problem α :=
  shape (Reader.readFirst text).1

/-- The value that is the whole text. -/
def Shape.ofWhole {α : Type} (shape : Shape α) (text : List Reader.Item) : Except Problem α := do
  let (t, rest) := Reader.readFirst text
  let a ← shape t
  if Reader.isDone rest then return a else throw .malformed

end Gatehouse.Json
