import Gatehouse.Config.Tree
import Gatehouse.Number.Plain

/-!
# Keys

A key names a place: `providers.openai.models[0]` is the first item of the list under `models` in the
table under `openai` in the table under `providers`. A text that is no key of this form names itself.
-/

namespace Gatehouse.Config.Key

open Gatehouse.Config.Tree (Step)

/-- May the character stand in a name? -/
def isNameChar (c : Char) : Bool := c.isAlphanum || c == ' ' || c == '_' || c == '-'

/-- May the character stand around a position? -/
def isPositionGap (c : Char) : Bool := c == ' ' || c == '\t' || c == '\n' || c == '\r'

/-- A position: a whole number of 64 bits, perhaps with blanks around, but without a plus sign. -/
def position? (s : List Char) : Option Int :=
  let (number, rest) := (s.dropWhile isPositionGap).span (fun c => c.isDigit || c == '-')
  if rest.all isPositionGap then Number.integer? (String.ofList number) else none

/-- The steps behind the first name. Every step is at least one character long, so that `fuel` need
    not exceed the length of the text. -/
def stepsFrom : (fuel : Nat) → List Char → Option (List Step)
  | _, [] => some []
  | 0, _ => none
  | fuel + 1, '.' :: s =>
    let (name, rest) := s.span isNameChar
    if name.isEmpty then none
    else (stepsFrom fuel rest).map (.name (String.ofList name) :: ·)
  | fuel + 1, '[' :: s =>
    match s.span (· != ']') with
    | (inner, _ :: rest) =>
      match position? inner, stepsFrom fuel rest with
      | some i, some steps => some (.position i :: steps)
      | _, _ => none
    | (_, []) => none
  | _, _ => none

/-- The steps to the place that a key names. -/
def steps (key : String) : List Step :=
  let (name, rest) := key.toList.span isNameChar
  match stepsFrom rest.length rest with
  | some steps => if name.isEmpty then [.name key] else .name (String.ofList name) :: steps
  | none => [.name key]

end Gatehouse.Config.Key
