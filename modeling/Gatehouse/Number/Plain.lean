import Gatehouse.Number.Binary

/-!
# Numbers written as plain text

Settings are given as text, and a text that is a number stands for it.

* `natural?` and `integer?` read whole numbers of 64 bits, with an optional sign;
* `real?` reads decimals with or without point and exponent, and the words for infinities and for no
  number. It rounds once, to the nearest double.

No blanks and no separators are allowed.
-/

namespace Gatehouse.Number

/-- The value of decimal digits, of which there must be at least one. -/
def digits? (s : List Char) : Option Nat :=
  if s.isEmpty || !s.all Char.isDigit then none
  else some (s.foldl (fun n c => n * 10 + (c.toNat - 0x30)) 0)

/-- The text behind a sign, and whether the sign is a minus. -/
def readSign : List Char → Bool × List Char
  | '+' :: s => (false, s)
  | '-' :: s => (true, s)
  | s => (false, s)

/-- A whole number below 2^64. -/
def natural? (text : String) : Option Nat :=
  let s := match text.toList with
    | '+' :: s => s
    | s => s
  (digits? s).filter (· < UInt64.size)

/-- A whole number of 64 bits, given by its sign and its distance from zero. -/
def signed? (negative : Bool) (n : Nat) : Option Int :=
  if negative then (if n ≤ UInt64.size / 2 then some (-(n : Int)) else none)
  else (if n < UInt64.size / 2 then some (n : Int) else none)

/-- A whole number from -2^63 to 2^63 - 1. -/
def integer? (text : String) : Option Int :=
  let (negative, s) := readSign text.toList
  (digits? s).bind (signed? negative)

/-- Beyond this many places before or behind the point every double is infinite or zero. -/
def farPlace : Int := 400

/-- The double nearest to `significand · 10 ^ exponent`, where the significand has `places` digits. -/
def nearestDecimal (negative : Bool) (significand places : Nat) (exponent : Int) : Binary :=
  if significand = 0 then double.ofNat negative 0
  else if farPlace < exponent + places then .infinite negative
  else if exponent + places < -farPlace then double.ofNat negative 0
  else if 0 ≤ exponent then double.round negative (significand * Nat.pow 10 exponent.toNat) 1
  else double.round negative significand (Nat.pow 10 (-exponent).toNat)

/-- The exponent of a decimal: nothing, or a letter, a sign and digits. -/
def exponent? : List Char → Option Int
  | [] => some 0
  | e :: s =>
    if e == 'e' || e == 'E' then
      let (negative, ds) := readSign s
      (digits? ds).map (fun n => if negative then -(n : Int) else n)
    else none

/-- A decimal behind its sign: digits, perhaps a point among them, perhaps an exponent. -/
def decimal? (negative : Bool) (s : List Char) : Option Binary :=
  let (whole, rest) := s.span Char.isDigit
  let (fraction, rest) := match rest with
    | '.' :: rest => rest.span Char.isDigit
    | rest => ([], rest)
  match digits? (whole ++ fraction), exponent? rest with
  | some n, some e =>
    some (nearestDecimal negative n (whole ++ fraction).length (e - (fraction.length : Int)))
  | _, _ => none

/-- A double. -/
def real? (text : String) : Option Binary :=
  let (negative, s) := readSign text.toList
  let word := String.ofList (s.map Char.toLower)
  if word == "inf" || word == "infinity" then some (.infinite negative)
  else if word == "nan" then some .nan
  else decimal? negative s

end Gatehouse.Number
