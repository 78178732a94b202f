import Gatehouse.Number.Binary

/-!
# JSON that is read

A text is read into a `Tree` as far as it is well formed, and the tree shows where it stops: at a
`fault`, or inside a list or an object that is not closed. What a reader expects to find is checked on
the tree afterwards, from left to right, so that of several problems the one that comes first in the
text is reported, whether the text breaks off there or holds something else than expected.

* a string that holds a lone surrogate or an invalid byte has no text (`none`): whoever passes over it
  does not mind, whoever needs it finds it broken;
* in the same way a number that is too large for a double is `tooLarge`.
-/

namespace Gatehouse.Json

open Gatehouse.Number

/-- A number as it was written. -/
inductive Numeral where
  /-- A whole number below 2^64 without sign, point and exponent. -/
  | natural (n : Nat)
  /-- A whole number from -2^63 to -1 without point and exponent, as its distance from zero. -/
  | negative (n : Nat)
  /-- Any other number, as a double. -/
  | real (x : Binary)
  /-- A number too large for a double. -/
  | tooLarge
  deriving DecidableEq, Repr

/-- What a text was read into. -/
inductive Tree where
  | null
  | bool (b : Bool)
  | number (n : Numeral)
  | string (s : Option String)
  | array (items : List Tree) (closed : Bool)
  | object (members : List (Option String × Tree)) (closed : Bool)
  | fault

namespace Tree

mutual

/-- Is the text of the tree well formed, for a reader that passes over it? -/
def sound : Tree → Bool
  | .array items closed => soundItems items && closed
  | .object members closed => soundMembers members && closed
  | .fault => false
  | _ => true

/-- Are the texts of all items well formed? -/
def soundItems : List Tree → Bool
  | [] => true
  | t :: ts => t.sound && soundItems ts

/-- Are the texts of all members well formed? -/
def soundMembers : List (Option String × Tree) → Bool
  | [] => true
  | (_, t) :: ms => t.sound && soundMembers ms

end

end Tree

end Gatehouse.Json
