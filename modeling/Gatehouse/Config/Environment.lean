import Gatehouse.Config.Tree
import Gatehouse.Number.Plain
import Gatehouse.Text.LowerCase

/-!
# Settings in the environment

A variable whose name starts with `AI_GATEWAY__`, in letters of any case, is a setting. Two underscores
in the rest of its name lead from a table to an entry.

* `key?` is the key of a variable;
* `Scalar.ofVariable` is what its value stands for: a text that looks like a truth value or like a
  number is one.
-/

namespace Gatehouse.Config

open Gatehouse.Text

namespace Environment

/-- What the names of all settings start with, in small letters. -/
def opening : List Char := "ai_gateway__".toList

/-- The name with points in the place of double underscores. -/
def withPoints : List Char → List Char
  | '_' :: '_' :: s => '.' :: withPoints s
  | c :: s => c :: withPoints s
  | [] => []

/-- The key of a variable, if its name makes it a setting. -/
def key? (name : String) : Option String :=
  (opening.isPrefixOf? (lower name).toList).map (fun s => String.ofList (withPoints s))

end Environment

/-- What the value of a variable stands for. -/
def Scalar.ofVariable (value : String) : Scalar :=
  let word := lower value
  if word == "true" then .bool true
  else if word == "false" then .bool false
  else match Number.integer? value with
    | some n => .int n
    | none =>
      match Number.real? value with
      | some x => .real x
      | none => .text value

/-- The settings among the variables of an environment, as keys and values. -/
def environmentEntries (environment : List (String × String)) : List (String × Tree) :=
  (environment.filterMap (fun (name, value) =>
    (Environment.key? name).map (fun k =>
      (k, Tree.scalar (some .environment) (.ofVariable value))))).foldl
    (fun entries (k, t) => put k t entries) []

end Gatehouse.Config
