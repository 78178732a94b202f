import Gatehouse.Number.Shortest

/-!
# How numbers are written

A number is written with the fewest digits that read back. What differs from place to place is their
arrangement, which a `Layout` fixes:

* `doubleInJson` writes `2.0`, `0.00001`, `1e-6`, `1e+16`: a whole number keeps a zero behind the
  point, and numbers outside 10^-5 … 10^16 have an exponent with its sign;
* `singleInJson` is the same with other bounds: it writes `0.000001`, `1e-7`, `1e+13`;
* `plain` writes `2`, `0.0000001`, `10000000000`: always positional, nothing behind the point that is
  not needed.

Of two decimals that are equally short and equally near, JSON has the even one, `plain` the larger one.
-/

namespace Gatehouse.Number

/-- An arrangement of the digits of a number: whether whole numbers keep `.0`, the interval of numbers
    of digits before the point that are written without an exponent (`none` for all), and which of two
    equally near decimals is written. -/
structure Layout where
  keepsPoint : Bool
  positional : Option (Int × Int)
  tie : Tie

/-- Double-precision numbers in JSON texts. -/
def doubleInJson : Layout := ⟨true, some (-4, 16), .toEven⟩

/-- Single-precision numbers in JSON texts. -/
def singleInJson : Layout := ⟨true, some (-5, 13), .toEven⟩

/-- Numbers in messages and in configured texts. -/
def plain : Layout := ⟨false, none, .up⟩

/-- A decimal without its sign. -/
def Layout.digits (l : Layout) (x : Decimal) : String :=
  let ds := Nat.toDigits 10 x.digits
  let n := ds.length
  let positional := match l.positional with
    | none => true
    | some (low, high) => decide (low ≤ x.point ∧ x.point ≤ high)
  if positional then
    if x.point ≤ 0 then
      "0." ++ String.ofList (List.replicate (-x.point).toNat '0' ++ ds)
    else if (n : Int) ≤ x.point then
      String.ofList (ds ++ List.replicate (x.point.toNat - n) '0') ++ (if l.keepsPoint then ".0" else "")
    else String.ofList (ds.take x.point.toNat) ++ "." ++ String.ofList (ds.drop x.point.toNat)
  else
    let exponent := (if 0 < x.point then "e+" else "e") ++ toString (x.point - 1)
    match ds with
    | [d] => String.ofList [d] ++ exponent
    | d :: rest => String.ofList [d] ++ "." ++ String.ofList rest ++ exponent
    | [] => exponent

/-- A number of a format, in the layout. -/
def Layout.text (l : Layout) (f : Format) : Binary → String
  | .nan => "NaN"
  | .infinite negative => if negative then "-inf" else "inf"
  | .finite negative m e =>
    (if negative then "-" else "") ++
      (if m = 0 then (if l.keepsPoint then "0.0" else "0") else l.digits (f.shortest l.tie m e))

end Gatehouse.Number
