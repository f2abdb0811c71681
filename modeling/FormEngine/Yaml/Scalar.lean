import FormEngine.Text.Base64
import FormEngine.Text.Case
import FormEngine.Yaml.Tag

/-!
# Values of scalars

What the text of a scalar denotes under a tag.  Plain scalars get a tag that their form suits, but a
tag that is written may not suit the text, and a form may promise more than the text keeps: a month
may be the thirteenth.
-/

namespace FormEngine.Yaml

/-- The fault of a number that is no literal. -/
def ofLiteral {α : Type} : Except LiteralFault α → Except Fault α
  | .ok a => .ok a
  | .error fault => .error (.literal fault)

/-- The parts of a text between colons. -/
def colonParts (points : List Nat) : List (List Nat) := points.splitOn 0x3A

/-- The sign of a number and what follows it; a number has at least one character. -/
def signed (points : List Nat) : Except Fault (Bool × List Nat) :=
  match points with
  | [] => .error .emptyNumber
  | 0x2D :: rest => .ok (true, rest)
  | 0x2B :: rest => .ok (false, rest)
  | _ => .ok (false, points)

/-! ## Integers -/

/-- An integer without a sign. -/
def unsignedInteger (points : List Nat) : Except Fault Int :=
  match points with
  | [] => .error .emptyNumber
  | [0x30] => .ok 0
  | 0x30 :: 0x62 :: digits => ofLiteral (integerLiteral 2 digits)
  | 0x30 :: 0x78 :: digits => ofLiteral (integerLiteral 16 digits)
  | 0x30 :: _ => ofLiteral (integerLiteral 8 points)
  | _ => do
    let parts ← (colonParts points).mapM fun part => ofLiteral (integerLiteral 10 part)
    return parts.foldl (fun n part => 60 * n + part) 0

/-- An integer: binary after `0b`, hexadecimal after `0x`, octal after any other zero, else decimal
or, in parts between colons, in base 60.  Underscores count for nothing. -/
def integerOf (points : List Nat) : Except Fault Int := do
  let (negative, unsigned) ← signed (points.filter (· ≠ 0x5F))
  let n ← unsignedInteger unsigned
  return if negative then -n else n

/-! ## Numbers with a point -/

/-- The sum of the parts of a number in base 60, the last part first, each weighed and added with
rounding.  A weight has to be finite. -/
def sumSixtieths : Int → Double → List Double → Except Fault Double
  | _, total, [] => .ok total
  | weight, total, part :: parts =>
    let w := Double.ofInt weight
    if w.isFinite then sumSixtieths (60 * weight) (total.add (part.mul w)) parts
    else .error .weightTooLarge

/-- A number with a point, but for its sign. -/
def unsignedDouble (points : List Nat) : Except Fault Double :=
  if points = ".inf".toList.map Char.toNat then .ok (.infinite false)
  else if points = ".nan".toList.map Char.toNat then .ok .nan
  else if points.contains 0x3A then do
    let parts ← (colonParts points).mapM fun part => ofLiteral (decimalLiteral part)
    sumSixtieths 1 .zero parts.reverse
  else ofLiteral (decimalLiteral points)

/-- A number with a point: by name, decimal, or in base 60.  Underscores count for nothing. -/
def doubleOf (points : List Nat) : Except Fault Double := do
  let (negative, unsigned) ← signed ((points.filter (· ≠ 0x5F)).map lowerPoint)
  let x ← unsignedDouble unsigned
  return if negative then x.neg else x

/-! ## Points in time -/

/-- A date, or the fault of its first part out of range. -/
def dateOf (m : MomentForm) : Except Fault Date :=
  match Date.ofParts (digitsValue m.year) (digitsValue m.month) (digitsValue m.day) with
  | .ok d => .ok d
  | .error fault => .error (.date fault)

/-- The offset of a zone in seconds; it has to be less than a day. -/
def offsetOf : Option (Option (Bool × List Char × List Char)) → Except Fault (Option Int)
  | none => .ok none
  | some none => .ok (some 0)
  | some (some (negative, hour, minute)) =>
    let seconds : Int := digitsValue hour * 3600 + digitsValue minute * 60
    let offset := if negative then -seconds else seconds
    if seconds < 86400 then .ok (some offset) else .error (.offset offset)

/-- The microseconds of a fraction of a second, of which six digits count. -/
def microsecondsOf (fraction : List Char) : Nat :=
  digitsValue ((fraction ++ List.replicate 6 '0').take 6)

/-- A date, or a moment if a time is given. -/
def momentOf (m : MomentForm) : Except Fault Value :=
  match m.time with
  | none => (dateOf m).map .date
  | some (hour, minute, second, fraction) => do
    let offset ← offsetOf m.zone
    let date ← dateOf m
    let hour := digitsValue hour
    let minute := digitsValue minute
    let second := digitsValue second
    if 23 < hour then .error (.clock .hour)
    else if 59 < minute then .error (.clock .minute)
    else if 59 < second then .error (.clock .second)
    else .ok (.dateTime ⟨date, hour, minute, second, microsecondsOf fraction, offset⟩)

/-! ## All scalars -/

/-- The characters of a text, if it is one; other characters stand for surrogates. -/
def charsOf (points : List Nat) : List Char :=
  points.map Text.glyph

/-- The boolean of a word, in any case. -/
def booleanOf (points : List Nat) : Except Fault Bool :=
  let word := points.map lowerPoint
  match booleanWords.find? fun w => w.1.toList.map Char.toNat = word with
  | some w => .ok w.2
  | none => .error (.notBoolean word)

/-- The octets of a text in base 64. -/
def octetsOf (points : List Nat) : Except Fault (List UInt8) :=
  if points.any (0x80 ≤ ·) then .error .malformed
  else match decodeBase64? (charsOf points) with
  | some octets => .ok octets
  | none => .error .malformed

/-- The value of a text under a tag for scalars. -/
def scalarValue (tag : Tag) (points : List Nat) : Except Fault Value :=
  match tag with
  | .null => .ok .null
  | .bool => (booleanOf points).map .bool
  | .int => (integerOf points).map .int
  | .float => (doubleOf points).map .float
  | .bytes => (octetsOf points).map .bytes
  | .moment =>
    match momentForm? (withoutFinalBreak (charsOf points)) with
    | some m => momentOf m
    | none => .error .notMoment
  | .text => .ok (Value.ofPoints points)
  | _ => .error .malformed

end FormEngine.Yaml
