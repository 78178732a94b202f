/-!
# Binary floating-point numbers, exactly

Temperatures and confidences are single-precision numbers, and numbers in texts are read as doubles
first. Both are kept as what they stand for, a whole multiple of a power of two, so that every
operation is one exact calculation followed by one rounding:

* `Format` says how many bits a number has and which powers of two it may be a multiple of;
* `Binary` is a number of some format, an infinity, or no number;
* `Format.round` is the nearest number of a format to a quotient, a tie going to the even neighbour;
* `Format.ofDecimal?` reads a decimal, and refuses one that is too large.
-/

namespace Gatehouse.Number

/-- A binary floating-point format: the bits of a number, and the exponents of the last of them for
    the smallest and for the largest numbers. -/
structure Format where
  precision : Nat
  leastExponent : Int
  greatestExponent : Int

/-- Single precision. -/
def single : Format := ⟨24, -149, 104⟩

/-- Double precision. -/
def double : Format := ⟨53, -1074, 971⟩

/-- A floating-point number: a whole multiple of a power of two with a sign, an infinity with a sign,
    or no number at all. -/
inductive Binary where
  | finite (negative : Bool) (mantissa : Nat) (exponent : Int)
  | infinite (negative : Bool)
  | nan
  deriving DecidableEq, Repr

/-! ## 1. Rounding -/

/-- The quotient `num / den`, rounded to the nearest whole number; of two equally near ones the even
    one is taken. -/
def roundHalfEven (num den : Nat) : Nat :=
  let q := num / den
  let r := num % den
  if 2 * r < den then q
  else if den < 2 * r then q + 1
  else if q % 2 = 0 then q else q + 1

/-- The quotient `num / den` measured in units of `2 ^ e`, as a quotient. -/
def inUnits (num den : Nat) (e : Int) : Nat × Nat :=
  if 0 ≤ e then (num, den * Nat.pow 2 e.toNat) else (num * Nat.pow 2 (-e).toNat, den)

/-- The exponent of the highest bit of `num / den`. -/
def highestBit (num den : Nat) : Int :=
  let guess : Int := (num.log2 : Int) - den.log2
  let (n, d) := inUnits num den guess
  if d ≤ n then guess else guess - 1

/-- **The number of the format nearest to `num / den`**, with a sign; beyond the largest number it is
    an infinity. -/
def Format.round (f : Format) (negative : Bool) (num den : Nat) : Binary :=
  if num = 0 then .finite negative 0 f.leastExponent
  else
    let e := max f.leastExponent (highestBit num den - (f.precision - 1))
    let (n, d) := inUnits num den e
    let m := roundHalfEven n d
    let (m, e) :=
      if m = Nat.pow 2 f.precision then (Nat.pow 2 (f.precision - 1), e + 1) else (m, e)
    if f.greatestExponent < e then .infinite negative else .finite negative m e

/-- The whole number `n` in the format. -/
def Format.ofNat (f : Format) (negative : Bool) (n : Nat) : Binary := f.round negative n 1

/-- `m · 2 ^ e` as a quotient. -/
def ratio (m : Nat) (e : Int) : Nat × Nat :=
  if 0 ≤ e then (m * Nat.pow 2 e.toNat, 1) else (m, Nat.pow 2 (-e).toNat)

/-- The number in another format. -/
def Format.convert (f : Format) : Binary → Binary
  | .finite negative m e => let (n, d) := ratio m e; f.round negative n d
  | .infinite negative => .infinite negative
  | .nan => .nan

/-! ## 2. Order -/

namespace Binary

/-- The number with the other sign. -/
def neg : Binary → Binary
  | .finite negative m e => .finite (!negative) m e
  | .infinite negative => .infinite (!negative)
  | .nan => .nan

/-- Is the first number less than the second? It never is if one of them is no number. -/
def lt : Binary → Binary → Bool
  | .nan, _ => false
  | _, .nan => false
  | .infinite negative, .infinite negative' => negative && !negative'
  | .infinite negative, .finite .. => negative
  | .finite .., .infinite negative => !negative
  | .finite s m e, .finite s' m' e' =>
    let (n, d) := ratio m e
    let (n', d') := ratio m' e'
    let x : Int := if s then -(n : Int) else n
    let y : Int := if s' then -(n' : Int) else n'
    decide (x * d' < y * d)

/-- Is the number neither infinite nor missing? -/
def isFinite : Binary → Bool
  | .finite .. => true
  | _ => false

end Binary

/-! ## 3. Decimals -/

/-- The quotient of two numbers that are finite and not negative. -/
def Format.divide (f : Format) : Binary → Binary → Binary
  | .finite _ m e, .finite _ m' e' =>
    let (n, d) := ratio m e
    let (n', d') := ratio m' e'
    f.round false (n * d') (d * n')
  | _, _ => .nan

/-- The product of two numbers that are finite and not negative. -/
def Format.multiply (f : Format) : Binary → Binary → Binary
  | .finite _ m e, .finite _ m' e' =>
    let (n, d) := ratio m e
    let (n', d') := ratio m' e'
    f.round false (n * n') (d * d')
  | _, _ => .nan

/-- `10 ^ k` in the format. -/
def Format.powerOfTen (f : Format) (k : Nat) : Binary := f.ofNat false (Nat.pow 10 k)

/-- Scales a double by `10 ^ exponent`, one power of ten of at most 308 at a time; a result that is
    too large is refused. `steps` bounds the number of times a small one is scaled down. -/
def scaleByTen : (steps : Nat) → Binary → Int → Option Binary
  | 0, x, _ => some x
  | steps + 1, x, exponent =>
    if exponent.natAbs ≤ 308 then
      if 0 ≤ exponent then
        let y := double.multiply x (double.powerOfTen exponent.natAbs)
        if y.isFinite then some y else none
      else some (double.divide x (double.powerOfTen exponent.natAbs))
    else
      match x with
      | .finite _ 0 _ => some x
      | _ =>
        if 0 ≤ exponent then none
        else scaleByTen steps (double.divide x (double.powerOfTen 308)) (exponent + 308)

/-- The decimal `significand · 10 ^ exponent` as a double: the significand is rounded, scaled by a
    rounded power of ten, and rounded again. One that is too large is refused. -/
def ofDecimal? (significand : Nat) (exponent : Int) : Option Binary :=
  scaleByTen 4 (double.ofNat false significand) exponent

end Gatehouse.Number
