import FormEngine.Number.Double
import FormEngine.Text.Ascii

/-!
# Decimal notation

Writing and reading binary64 numbers in decimal.

* `Double.shortest` picks, for a positive finite number, the decimal with the fewest digits among
  those that round back to it, and of two such the nearer one.
* `Double.render` lays that decimal out: positionally for exponents from `-4` to `15`, otherwise
  with a signed exponent of at least two digits.
* `readInteger?` and `readDecimal?` accept plain decimal notation in ASCII digits, with an optional
  sign, and nothing else.
-/

namespace FormEngine

/-! ## Digits -/

/-- The number that a sequence of ASCII digits denotes in decimal. -/
def digitsValue (cs : List Char) : Nat := numeralIn 10 cs

/-- The longest opening run of ASCII digits, and what follows it. -/
def spanDigits (cs : List Char) : List Char × List Char :=
  cs.span isAsciiDigit

/-- The optional sign at the front of a number: whether it is negative, and the rest. -/
def takeSign : List Char → Bool × List Char
  | '-' :: cs => (true, cs)
  | '+' :: cs => (false, cs)
  | cs => (false, cs)

/-- The most digits an integer may have when it is read from or written as text. -/
def digitLimit : Nat := 4300

/-! ## Writing -/

namespace Double

/-- Drops trailing zeros, moving them into the exponent; `fuel` bounds their number. -/
def stripZeros : Nat → Nat → Int → Nat × Int
  | 0, digits, exponent => (digits, exponent)
  | fuel + 1, digits, exponent =>
    if digits ≠ 0 ∧ digits % 10 = 0 then stripZeros fuel (digits / 10) (exponent + 1)
    else (digits, exponent)

/-- The decimals that round to a number, as an interval of multiples of `1 / den` around `value`;
the ends belong to it exactly if `closed`. -/
structure RoundingInterval where
  low : Nat
  value : Nat
  high : Nat
  den : Nat
  closed : Bool

/-- The interval of the positive number `mantissa * 2 ^ exponent`.  Below a power of two the gap to
the next number is half as wide as above it. -/
def roundingInterval (mantissa : Nat) (exponent : Int) : RoundingInterval :=
  let quarter := Nat.pow 2 (exponent - 2).toNat
  let value := 4 * mantissa * quarter
  let below := if mantissa = Nat.pow 2 52 ∧ -1074 < exponent then quarter else 2 * quarter
  { low := value - below, value, high := value + 2 * quarter,
    den := Nat.pow 2 (2 - exponent).toNat, closed := mantissa % 2 = 0 }

namespace RoundingInterval

/-- The same interval measured in units of `10 ^ exponent`. -/
def rescale (r : RoundingInterval) (exponent : Int) : RoundingInterval :=
  let up := Nat.pow 10 (-exponent).toNat
  { low := r.low * up, value := r.value * up, high := r.high * up,
    den := r.den * Nat.pow 10 exponent.toNat, closed := r.closed }

/-- Whether the integer `n` lies in the interval. -/
def contains (r : RoundingInterval) (n : Nat) : Bool :=
  let x := n * r.den
  if r.closed then r.low ≤ x && x ≤ r.high else r.low < x && x < r.high

/-- The integer of the interval nearest to its value, if a neighbour of the value lies in it; of two
equally near ones the even one. -/
def nearestInteger? (r : RoundingInterval) : Option Nat :=
  let floor := r.value / r.den
  match r.contains floor, r.contains (floor + 1) with
  | false, false => none
  | true, false => some floor
  | false, true => some (floor + 1)
  | true, true => some (Double.roundDiv r.value r.den)

end RoundingInterval

/-- The least `k` with `mantissa * 2 ^ exponent < 10 ^ k`. -/
def decimalMagnitude (r : RoundingInterval) : Int :=
  let estimate : Int := ((r.value.log2 : Int) - r.den.log2) * 30103 / 100000
  let below (k : Int) : Bool :=
    if 0 ≤ k then r.value < r.den * Nat.pow 10 k.toNat else r.value * Nat.pow 10 (-k).toNat < r.den
  if below estimate then estimate
  else if below (estimate + 1) then estimate + 1
  else estimate + 2

/-- The shortest decimal `digits * 10 ^ exponent` that rounds to the positive finite number
`mantissa * 2 ^ exponent`.  Seventeen digits always suffice; the exact value stands in for the case
that cannot arise. -/
def shortest (mantissa : Nat) (exponent : Int) : Nat × Int :=
  let r := roundingInterval mantissa exponent
  let magnitude := decimalMagnitude r
  let found := (List.range 17).findSome? fun (n : Nat) =>
    let grid := magnitude - (n + 1)
    ((r.rescale grid).nearestInteger?).map fun digits => (digits, grid)
  match found with
  | some (digits, grid) => stripZeros 20 digits grid
  | none => if 0 ≤ exponent then (mantissa * Nat.pow 2 exponent.toNat, 0)
            else (mantissa * Nat.pow 5 (-exponent).toNat, exponent)

/-- A count of zeros. -/
def zeros (n : Nat) : String := String.ofList (List.replicate n '0')

/-- The decimal `digits * 10 ^ exponent` laid out: positionally if the leading digit stands for a
power of ten from `-4` to `15`, otherwise with an exponent. -/
def layout (digits : Nat) (exponent : Int) : String :=
  let text := toString digits
  let count := text.length
  let leading := exponent + count - 1
  if leading < -4 ∨ 15 < leading then
    let fraction := if count = 1 then "" else "." ++ String.ofList (text.toList.drop 1)
    let size := toString leading.natAbs
    String.ofList (text.toList.take 1) ++ fraction ++ "e" ++ (if leading < 0 then "-" else "+")
      ++ (if size.length < 2 then "0" ++ size else size)
  else if leading < 0 then "0." ++ zeros (-leading - 1).toNat ++ text
  else if 0 ≤ exponent then text ++ zeros exponent.toNat ++ ".0"
  else
    let whole := (leading + 1).toNat
    String.ofList (text.toList.take whole) ++ "." ++ String.ofList (text.toList.drop whole)

/-- The text of a number: the shortest decimal that reads back to it, always with a point or an
exponent; `inf`, `-inf` and `nan` for the rest. -/
def render : Double → String
  | .nan => "nan"
  | .infinite negative => if negative then "-inf" else "inf"
  | .finite negative m e =>
    let magnitude := if m = 0 then "0.0" else
      let (digits, exponent) := shortest m e
      layout digits exponent
    if negative then "-" ++ magnitude else magnitude

end Double

/-! ## Reading -/

/-- A sequence of at least one ASCII digit and nothing else. -/
def readDigits? (cs : List Char) : Option Nat :=
  if cs ≠ [] ∧ cs.all isAsciiDigit then some (digitsValue cs) else none

/-- An integer: an optional sign and ASCII digits. -/
def readInteger? (cs : List Char) : Option Int :=
  let (negative, digits) := takeSign cs
  (readDigits? digits).map fun n => if negative then -(n : Int) else n

/-- The optional exponent that closes a decimal, `0` if there is none. -/
def readExponent? : List Char → Option Int
  | [] => some 0
  | c :: cs => if c = 'e' ∨ c = 'E' then readInteger? cs else none

/-- A decimal: an optional sign, digits with an optional point and fraction or a point and digits,
and an optional exponent.  The value is rounded once. -/
def readDecimal? (cs : List Char) : Option Double :=
  let (negative, cs) := takeSign cs
  let (whole, cs) := spanDigits cs
  let (fraction, cs) := match cs with
    | '.' :: rest => spanDigits rest
    | _ => ([], cs)
  if whole = [] ∧ fraction = [] then none
  else (readExponent? cs).map fun exponent =>
    Double.ofDecimal negative (digitsValue (whole ++ fraction)) (exponent - fraction.length)

end FormEngine
