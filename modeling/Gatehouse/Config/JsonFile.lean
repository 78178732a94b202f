import Gatehouse.Config.Tree
import Gatehouse.Json.Reader

/-!
# Settings written as JSON

The whole text must be one JSON value that every reader can use: a string without lone surrogates, no
number too large for a double, not too many lists and objects within one another. Of several members of
one name the last counts. Whole numbers that do not fit into 64 bits with a sign are doubles.
-/

namespace Gatehouse.Config

open Gatehouse.Number

/-- A whole number as a setting. -/
def Scalar.ofNat (n : Nat) : Scalar :=
  if n < UInt64.size / 2 then .int n else .real (double.ofNat false n)

/-- How many lists and objects may stand within one another. -/
def nestingLimit : Nat := 127

mutual

/-- Do at most `room` lists and objects stand within one another? -/
def nestsWithin : (room : Nat) → Json.Tree → Bool
  | room, .array items _ => decide (0 < room) && itemsNestWithin (room - 1) items
  | room, .object members _ => decide (0 < room) && membersNestWithin (room - 1) members
  | _, _ => true

/-- Does `nestsWithin` hold of all items? -/
def itemsNestWithin : (room : Nat) → List Json.Tree → Bool
  | _, [] => true
  | room, t :: ts => nestsWithin room t && itemsNestWithin room ts

/-- Does `nestsWithin` hold of all members? -/
def membersNestWithin : (room : Nat) → List (Option String × Json.Tree) → Bool
  | _, [] => true
  | room, (_, t) :: rest => nestsWithin room t && membersNestWithin room rest

end

namespace Tree

mutual

/-- The settings in a JSON value. -/
def ofJson? (origin : Origin) : Json.Tree → Option Tree
  | .null => some (.scalar origin .null)
  | .bool b => some (.scalar origin (.bool b))
  | .number (.natural n) => some (.scalar origin (.ofNat n))
  | .number (.negative n) => some (.scalar origin (.int (-(n : Int))))
  | .number (.real x) => some (.scalar origin (.real x))
  | .number .tooLarge => none
  | .string s => s.map (fun s => .scalar origin (.text s))
  | .array items closed => if closed then (ofItems? origin items).map (.list origin) else none
  | .object members closed =>
    if closed then (ofMembers? origin [] members).map (.table origin) else none
  | .fault => none

/-- The settings in the items of a list. -/
def ofItems? (origin : Origin) : List Json.Tree → Option (List Tree)
  | [] => some []
  | t :: ts =>
    match ofJson? origin t, ofItems? origin ts with
    | some u, some us => some (u :: us)
    | _, _ => none

/-- The settings in the members of an object, put to the entries before them. -/
def ofMembers? (origin : Origin) (entries : List (String × Tree)) :
    List (Option String × Json.Tree) → Option (List (String × Tree))
  | [] => some entries
  | (none, _) :: _ => none
  | (some name, t) :: rest =>
    match ofJson? origin t with
    | some u => ofMembers? origin (put name u entries) rest
    | none => none

end

/-- The settings in a JSON text. -/
def ofJsonText? (origin : Origin) (text : String) : Option Tree :=
  let (t, rest) := Json.Reader.readFirst (Json.Reader.stringItems text)
  if Json.Reader.isDone rest && nestsWithin nestingLimit t then ofJson? origin t else none

end Tree

end Gatehouse.Config
