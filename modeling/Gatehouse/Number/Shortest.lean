import Gatehouse.Number.Binary

/-!
# The shortest decimal that reads back

* `shortest` gives, for a positive number of a format, the fewest decimal digits that still round to
  that number and no other, and among those the digits nearest to it.

The decimals that round to `m · 2 ^ e` fill an interval that reaches half a unit to each side (a
quarter below a power of two), ends included exactly if `m` is even. Numbers of digits are tried one
after the other; on each decimal grid only the two neighbours of the number can be the answer. If both
are equally near, a `Tie` rule says which one it is.
-/

namespace Gatehouse.Number

/-- A positive decimal: its digits as a number, and how many of them stand before the point. -/
structure Decimal where
  digits : Nat
  point : Int
  deriving DecidableEq, Repr

/-- The least `k ≤ start + steps`, from `start` on, with `den ≤ num · 10 ^ k`. -/
def leadingZeros (num den : Nat) : (steps start : Nat) → Nat
  | 0, start => start
  | steps + 1, start => if den ≤ num * Nat.pow 10 start then start else leadingZeros num den steps (start + 1)

/-- The number of digits that `num / den` has before the point; zero or less if it starts with zeros
    behind it. -/
def pointOf (num den : Nat) : Int :=
  if den ≤ num then ((Nat.toDigits 10 (num / den)).length : Int)
  else 1 - (leadingZeros num den (den.log2 + 1) 1 : Int)

/-- The digits without the zeros at their end. -/
def dropZeros : (steps : Nat) → Nat → Nat
  | 0, n => n
  | steps + 1, n => if n % 10 = 0 ∧ n ≠ 0 then dropZeros steps (n / 10) else n

/-- Which of two equally near neighbours on a decimal grid is taken. -/
inductive Tie where
  /-- The one with the even last digit. -/
  | toEven
  /-- The larger one. -/
  | up
  deriving DecidableEq, Repr

/-- Half-open or closed interval of quotients over one denominator. -/
structure Interval where
  low : Nat
  high : Nat
  den : Nat
  closed : Bool

/-- Does the interval hold `num / den`? -/
def Interval.holds (i : Interval) (num den : Nat) : Bool :=
  if i.closed then i.low * den ≤ num * i.den && num * i.den ≤ i.high * den
  else decide (i.low * den < num * i.den) && decide (num * i.den < i.high * den)

/-- The interval of the quotients that round to `m · 2 ^ e` in the format. -/
def Format.interval (f : Format) (m : Nat) (e : Int) : Interval :=
  let below := if m = Nat.pow 2 (f.precision - 1) ∧ f.leastExponent < e then 1 else 2
  let (low, den) := ratio (4 * m - below) (e - 2)
  let (high, _) := ratio (4 * m + 2) (e - 2)
  ⟨low, high, den, m % 2 = 0⟩

/-- `q · 10 ^ k` as a quotient. -/
def decimalRatio (q : Nat) (k : Int) : Nat × Nat :=
  if 0 ≤ k then (q * Nat.pow 10 k.toNat, 1) else (q, Nat.pow 10 (-k).toNat)

/-- Is the lower of the neighbours `q` and `q + 1` of `n / d`, where `q` is the quotient, the one to
    take? -/
def Tie.takesLower (t : Tie) (n d : Nat) : Bool :=
  let twice := 2 * (n % d)
  decide (twice < d) || (twice == d && t == .toEven && n / d % 2 == 0)

/-- The number of `count` digits in the interval that is nearest to `num / den`, whose digits end at
    the place `point`; `none` if the interval holds neither neighbour. -/
def onGrid (t : Tie) (i : Interval) (num den : Nat) (point : Int) (count : Nat) : Option Nat :=
  let k := point - count
  let (n, d) :=
    if 0 ≤ k then (num, den * Nat.pow 10 k.toNat) else (num * Nat.pow 10 (-k).toNat, den)
  let q := n / d
  let (low, lowDen) := decimalRatio q k
  let (high, highDen) := decimalRatio (q + 1) k
  match i.holds low lowDen, i.holds high highDen with
  | true, false => some q
  | false, true => some (q + 1)
  | false, false => none
  | true, true => if t.takesLower n d then some q else some (q + 1)

/-- The first number of digits from `count` on for which the interval holds a neighbour. -/
def shortestFrom (t : Tie) (i : Interval) (num den : Nat) (point : Int) :
    (steps count : Nat) → Decimal
  | 0, _ => ⟨num, point⟩
  | steps + 1, count =>
    match onGrid t i num den point count with
    | some q =>
      let length := (Nat.toDigits 10 q).length
      ⟨dropZeros 20 q, point - count + length⟩
    | none => shortestFrom t i num den point steps (count + 1)

/-- **The fewest digits that read back as `m · 2 ^ e`**, the nearest of them. -/
def Format.shortest (f : Format) (t : Tie) (m : Nat) (e : Int) : Decimal :=
  let (num, den) := ratio m e
  shortestFrom t (f.interval m e) num den (pointOf num den) 17 1

end Gatehouse.Number
