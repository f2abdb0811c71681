/-!
# Binary64 numbers, held exactly

A `Double` is a binary64 value written out as sign, mantissa and exponent, so that every question
about it is a question about integers and rationals.  `Double.toRat?` is the value of a finite one,
and `Double.ofRatio` is the one rounding function: to nearest, ties to the even mantissa.  Sums,
differences and products are exact rational results rounded once.

## Normal form

A finite value is `± mantissa * 2 ^ exponent` with `mantissa < 2 ^ 53` and `-1074 ≤ exponent`, and
either `2 ^ 52 ≤ mantissa` or `exponent = -1074`.  Every constructor function of this module returns
that form, so equal finite values other than the two zeros are equal as data.
-/

namespace FormEngine

/-- A binary64 value: a signed multiple of a power of two, an infinity, or not a number. -/
inductive Double where
  | finite (negative : Bool) (mantissa : Nat) (exponent : Int)
  | infinite (negative : Bool)
  | nan
deriving DecidableEq, Repr, Inhabited

namespace Double

/-! ## The exact value -/

/-- The integer `m` times a power of two, as a rational. -/
def scale (m : Int) (exponent : Int) : Rat :=
  if 0 ≤ exponent then ((m * Nat.pow 2 exponent.toNat : Int) : Rat)
  else mkRat m (Nat.pow 2 (-exponent).toNat)

/-- The value of a finite number; the infinities and not-a-number have none. -/
def toRat? : Double → Option Rat
  | .finite negative m e => some (scale (if negative then -(m : Int) else m) e)
  | _ => none

/-- True of the numbers that have a value. -/
def isFinite : Double → Bool
  | .finite .. => true
  | _ => false

/-- Positive zero. -/
def zero : Double := .finite false 0 (-1074)

/-! ## Rounding -/

/-- The quotient rounded to the nearest integer, a half going to the even neighbour. -/
def roundDiv (num den : Nat) : Nat :=
  let q := num / den
  let r := num % den
  if 2 * r < den then q
  else if den < 2 * r then q + 1
  else if q % 2 = 0 then q else q + 1

/-- The quotient `num / den / 2 ^ exponent`, rounded to an integer. -/
def mantissaAt (num den : Nat) (exponent : Int) : Nat :=
  if 0 ≤ exponent then roundDiv num (den * Nat.pow 2 exponent.toNat)
  else roundDiv (num * Nat.pow 2 (-exponent).toNat) den

/-- Whether `num / den < 2 ^ k`. -/
def belowPowerOfTwo (num den : Nat) (k : Int) : Bool :=
  if 0 ≤ k then num < den * Nat.pow 2 k.toNat else num * Nat.pow 2 (-k).toNat < den

/-- The number nearest to `num / den`, ties to the even mantissa; beyond the largest finite number
the result is infinite. -/
def ofRatio (negative : Bool) (num den : Nat) : Double :=
  if num = 0 then .finite negative 0 (-1074)
  else
    let guess : Int := (num.log2 : Int) - den.log2
    -- the quotient lies in `[2 ^ (top - 1), 2 ^ top)`
    let top := if belowPowerOfTwo num den guess then guess else guess + 1
    let exponent := max (top - 53) (-1074)
    let m := mantissaAt num den exponent
    let (m, exponent) := if m = Nat.pow 2 53 then (Nat.pow 2 52, exponent + 1) else (m, exponent)
    if 971 < exponent then .infinite negative else .finite negative m exponent

/-- The number nearest to a rational. -/
def ofRat (q : Rat) : Double :=
  ofRatio (q.num < 0) q.num.natAbs q.den

/-- The number nearest to an integer. -/
def ofInt (i : Int) : Double :=
  ofRatio (i < 0) i.natAbs 1

/-- The number nearest to `digits * 10 ^ exponent`.  Exponents far outside the range of the format
are settled by the count of digits, so that no huge power is computed. -/
def ofDecimal (negative : Bool) (digits : Nat) (exponent : Int) : Double :=
  if digits = 0 then .finite negative 0 (-1074)
  else
    -- `2 ^ digits.log2 ≤ digits`, and `2 ^ 10 > 10 ^ 3`
    let low : Int := (digits.log2 : Int) * 3 / 10 + exponent
    if 400 < low then .infinite negative
    else if (digits.log2 : Int) + 1 + exponent < -400 then .finite negative 0 (-1074)
    else if 0 ≤ exponent then ofRatio negative (digits * Nat.pow 10 exponent.toNat) 1
    else ofRatio negative digits (Nat.pow 10 (-exponent).toNat)

/-! ## Arithmetic: exact, then rounded once -/

/-- The sign flipped. -/
def neg : Double → Double
  | .finite s m e => .finite (!s) m e
  | .infinite s => .infinite (!s)
  | .nan => .nan

/-- The sum.  An exact zero from two finite numbers is negative only if both are. -/
def add : Double → Double → Double
  | .nan, _ => .nan
  | _, .nan => .nan
  | .infinite s, .infinite t => if s = t then .infinite s else .nan
  | .infinite s, _ => .infinite s
  | _, .infinite t => .infinite t
  | .finite s m e, .finite t n f =>
    let total := scale (if s then -(m : Int) else m) e + scale (if t then -(n : Int) else n) f
    if total = 0 then .finite (s && t) 0 (-1074) else ofRat total

/-- The difference. -/
def sub (x y : Double) : Double := add x (neg y)

/-- The product; an infinity times a zero is not a number. -/
def mul : Double → Double → Double
  | .nan, _ => .nan
  | _, .nan => .nan
  | .infinite s, .infinite t => .infinite (s != t)
  | .infinite s, .finite t n _ => if n = 0 then .nan else .infinite (s != t)
  | .finite s m _, .infinite t => if m = 0 then .nan else .infinite (s != t)
  | .finite s m e, .finite t n f =>
    let product := scale m e * scale n f
    ofRatio (s != t) product.num.natAbs product.den

/-! ## Integer value -/

/-- The integer that a finite number is, if it is one. -/
def toInt? (x : Double) : Option Int :=
  x.toRat?.bind fun q => if q.den = 1 then some q.num else none

end Double

end FormEngine
