import FormEngine.Number.Notation
import FormEngine.Text.Blank
import FormEngine.Text.Letters
import FormEngine.Text.Quoted

/-!
# Number literals

The lenient notation of numbers in configuration and documents.  Blanks may stand at both ends, the
digits may be those of any script, and single underscores may part them.  `integerLiteral` reads an
integer in a base, with the mark of the base (`0x`, `0o`, `0b`) in front of it or not, and
`decimalLiteral` a binary64 number, by name or in decimal notation.

A text that is no literal is told in full in the message of the fault.
-/

namespace FormEngine

/-- Why a text is no literal. -/
inductive LiteralFault where
  | notInteger (base : Nat) (points : List Nat)
  | notNumber (points : List Nat)
  | tooManyDigits (count : Nat)
deriving DecidableEq, Repr

/-- The text of the fault of an integer with too many digits. -/
def tooManyDigitsMessage (count : Nat) : String :=
  "Exceeds the limit (" ++ toString digitLimit
    ++ " digits) for integer string conversion: value has " ++ toString count
    ++ " digits; use sys.set_int_max_str_digits() to increase the limit"

/-- The text of a fault.  Of a very long text only the opening is shown. -/
def LiteralFault.message : LiteralFault → String
  | .notInteger base points => "invalid literal for int() with base " ++ toString base ++ ": "
      ++ String.ofList ((quotedPoints points).toList.take 200)
  | .notNumber points => "could not convert string to float: " ++ quotedPoints points
  | .tooManyDigits count => tooManyDigitsMessage count

/-! ## Characters -/

/-- The ASCII character that stands for a code point in a literal: itself, a space for any other
blank, the digit of the same value for a decimal digit, and a question mark, which no literal holds,
for all else. -/
def literalChar (n : Nat) : Char :=
  if n < 0x80 then Char.ofNat n
  else if isBlankPoint n then ' '
  else match decimalValue? n with
    | some d => Char.ofNat ('0'.toNat + d)
    | none => '?'

/-- True of the blanks that may stand at the ends of a literal. -/
def isLiteralSpace (c : Char) : Bool := c = ' ' || (0x09 ≤ c.toNat && c.toNat ≤ 0x0D)

/-- The characters of a literal without the blanks at its ends. -/
def literalChars (points : List Nat) : List Char :=
  (((points.map literalChar).dropWhile isLiteralSpace).reverse.dropWhile isLiteralSpace).reverse

/-! ## Integers -/

/-- The rest of a literal after the mark of its base, which an underscore may follow. -/
def afterBaseMark (base : Nat) (cs : List Char) : List Char :=
  let marks := match base with
    | 16 => ['x', 'X']
    | 8 => ['o', 'O']
    | 2 => ['b', 'B']
    | _ => []
  match cs with
  | '0' :: mark :: '_' :: rest => if marks.contains mark then rest else cs
  | '0' :: mark :: rest => if marks.contains mark then rest else cs
  | _ => cs

/-- The digits of a numeral, each underscore standing between two of them. -/
def numeralDigits? (base : Nat) : List Char → Option (List Nat)
  | [] => none
  | [c] => (digitOfBase? base c).map fun d => [d]
  | c :: '_' :: rest => do return (← digitOfBase? base c) :: (← numeralDigits? base rest)
  | c :: rest => do return (← digitOfBase? base c) :: (← numeralDigits? base rest)

/-- An integer in a base from 2 to 16.  Only a base that is no power of two limits the digits. -/
def integerLiteral (base : Nat) (points : List Nat) : Except LiteralFault Int :=
  let (negative, unsigned) := takeSign (literalChars points)
  let (numeral, rest) := (afterBaseMark base unsigned).span fun c =>
    c = '_' || (digitOfBase? base c).isSome
  match numeralDigits? base numeral with
  | none => .error (.notInteger base points)
  | some digits =>
    if base = 10 ∧ digitLimit < digits.length then .error (.tooManyDigits digits.length)
    else if rest ≠ [] then .error (.notInteger base points)
    else
      let n : Int := (digits.foldl (fun n d => base * n + d) 0 : Nat)
      .ok (if negative then -n else n)

/-! ## Binary64 numbers -/

/-- The infinities and not-a-number by name. -/
def namedDouble? (cs : List Char) : Option Double :=
  let (negative, name) := takeSign cs
  match String.ofList (name.map Char.toLower) with
  | "inf" => some (.infinite negative)
  | "infinity" => some (.infinite negative)
  | "nan" => some .nan
  | _ => none

/-- The number that a text denotes, by name or in decimal notation. -/
def doubleOfText? (cs : List Char) : Option Double := (namedDouble? cs).or (readDecimal? cs)

/-- A binary64 number, by name or in decimal notation without underscores. -/
def decimalLiteral (points : List Nat) : Except LiteralFault Double :=
  match doubleOfText? (literalChars points) with
  | some x => .ok x
  | none => .error (.notNumber points)

end FormEngine
