import FormEngine.Json.Fault
import FormEngine.Value.Equality

/-!
# Decoding JSON

A recursive descent over the code points of a document.  What an object becomes is a parameter: the
decoder hands the members of each object, in order, to a function as the object closes.
`keepLast` lets a later member replace an earlier one with the same key; `refuseDuplicates` refuses
the object.  `decode` and `decodeDocument` use the latter, so no member is ever lost silently.

Not-a-number and the infinities are accepted by name.  Numbers with a fraction or an exponent are
binary64, others are integers of at most `digitLimit` digits.
-/

namespace FormEngine.Json

/-- A place in a text: what is left of it, and the index reached. -/
structure Cursor where
  rest : List Nat
  index : Nat
deriving Repr

/-- The members of an object, in order. -/
abbrev Members := List (Value × Value)

/-- What the members of an object become. -/
abbrev CloseObject := Members → Except Fault Value

/-- A later member replaces an earlier one with the same key. -/
def keepLast : CloseObject := fun members =>
  .ok (.map (members.foldl (fun acc m => Value.insertEntry m.1 m.2 acc) []))

/-- The first key that occurs a second time, in member order. -/
def firstRepeated? : Members → Members → Option Value
  | _, [] => none
  | seen, m :: rest => if Value.hasKey m.1 seen then some m.1 else firstRepeated? (seen ++ [m]) rest

/-- An object with a repeated key is refused. -/
def refuseDuplicates : CloseObject := fun members =>
  match firstRepeated? [] members with
  | some key => .error (.duplicateKey key)
  | none => .ok (.map members)

/-- A decoder of part of a text: its result and the place after it, or a fault. -/
abbrev Step (α : Type) := Except Fault (α × Cursor)

namespace Cursor

/-- The place some code points further on. -/
def advance (c : Cursor) (n : Nat) : Cursor := ⟨c.rest.drop n, c.index + n⟩

/-- The place after any white space. -/
def skipSpace : List Nat → Nat → Cursor
  | [], index => ⟨[], index⟩
  | p :: rest, index =>
    if p = 0x20 ∨ p = 0x09 ∨ p = 0x0A ∨ p = 0x0D then skipSpace rest (index + 1)
    else ⟨p :: rest, index⟩

/-- The place after any white space. -/
def skip (c : Cursor) : Cursor := skipSpace c.rest c.index

/-- The code points of an ASCII word stand here. -/
def startsWith (c : Cursor) (word : String) : Bool :=
  (word.toList.map Char.toNat).isPrefixOf c.rest

end Cursor

/-! ## Strings -/

/-- The value of four hexadecimal digits. -/
def hex4? : List Nat → Option Nat
  | [a, b, c, d] => do
    let digit (n : Nat) : Option Nat :=
      if 0x30 ≤ n ∧ n ≤ 0x39 then some (n - 0x30)
      else if 0x61 ≤ n ∧ n ≤ 0x66 then some (n - 0x57)
      else if 0x41 ≤ n ∧ n ≤ 0x46 then some (n - 0x37)
      else none
    return (((← digit a) * 16 + (← digit b)) * 16 + (← digit c)) * 16 + (← digit d)
  | _ => none

/-- The code point of an escape of one letter. -/
def escapeLetter? : Nat → Option Nat
  | 0x22 => some 0x22
  | 0x5C => some 0x5C
  | 0x2F => some 0x2F
  | 0x62 => some 0x08
  | 0x66 => some 0x0C
  | 0x6E => some 0x0A
  | 0x72 => some 0x0D
  | 0x74 => some 0x09
  | _ => none

/-- Reads the digits of an escape by code, the cursor standing after the letter: the code point, and
how many code points the escape took from there.  Two escapes that are a pair of surrogates make one
character. -/
def unicodeEscape (fault : SyntaxCause → Nat → Fault) (c : Cursor) : Except Fault (Nat × Nat) :=
  if (c.rest.drop 4).isEmpty then .error (fault .invalidUnicodeEscape (c.index - 1))
  else match hex4? (c.rest.take 4) with
  | none => .error (fault .invalidUnicodeEscape (c.index - 1))
  | some unit =>
    let rest := c.rest.drop 4
    if isHighSurrogate unit && !(rest.drop 6).isEmpty && rest.take 2 == [0x5C, 0x75] then
      match hex4? ((rest.drop 2).take 4) with
      | none => .error (fault .invalidUnicodeEscape (c.index + 5))
      | some low => if isLowSurrogate low then .ok (joinSurrogates unit low, 10) else .ok (unit, 4)
    else .ok (unit, 4)

/-- Reads the rest of a string up to its closing quote; `start` is the index of the opening one, and
`fuel` bounds the characters. -/
def stringRest (fault : SyntaxCause → Nat → Fault) (start : Nat) :
    Nat → List Nat → Cursor → Step (List Nat)
  | 0, _, _ => .error (fault .unterminatedString start)
  | fuel + 1, acc, c =>
    match c.rest with
    | [] => .error (fault .unterminatedString start)
    | 0x22 :: _ => .ok (acc.reverse, c.advance 1)
    | [0x5C] => .error (fault .unterminatedString start)
    | 0x5C :: 0x75 :: _ =>
      match unicodeEscape fault (c.advance 2) with
      | .error e => .error e
      | .ok (point, size) => stringRest fault start fuel (point :: acc) (c.advance (2 + size))
    | 0x5C :: letter :: _ =>
      match escapeLetter? letter with
      | none => .error (fault .invalidEscape c.index)
      | some point => stringRest fault start fuel (point :: acc) (c.advance 2)
    | point :: _ =>
      if point < 0x20 then .error (fault .controlCharacter c.index)
      else stringRest fault start fuel (point :: acc) (c.advance 1)

/-- Reads a string, the cursor standing on its opening quote. -/
def string (fault : SyntaxCause → Nat → Fault) (c : Cursor) : Step Value :=
  (stringRest fault c.index (c.rest.length + 1) [] (c.advance 1)).map fun (points, c) =>
    (Value.ofPoints points, c)

/-! ## Numbers -/

/-- True of the code points of the ASCII digits. -/
def isDigitPoint (n : Nat) : Bool := 0x30 ≤ n && n ≤ 0x39

/-- The longest opening run of digits. -/
def digitsOf (points : List Nat) : List Char := (points.takeWhile isDigitPoint).map Char.ofNat

/-- The longest number that a text opens with: its sign, integer digits, fraction digits and
exponent, each of the last two only if complete, and how many code points it takes. -/
structure NumberShape where
  negative : Bool
  whole : List Char
  fraction : Option (List Char)
  exponent : Option Int
  size : Nat

/-- The exponent at the front of a text, with its size. -/
def exponentShape (points : List Nat) : Option (Int × Nat) :=
  match points with
  | e :: rest =>
    if e = 0x65 ∨ e = 0x45 then
      let (negative, signSize) := match rest with
        | 0x2D :: _ => (true, 1)
        | 0x2B :: _ => (false, 1)
        | _ => (false, 0)
      let digits := digitsOf (rest.drop signSize)
      if digits = [] then none
      else
        let n : Int := digitsValue digits
        some (if negative then -n else n, 1 + signSize + digits.length)
    else none
  | [] => none

/-- The longest number that a text opens with. -/
def numberShape? (points : List Nat) : Option NumberShape :=
  let (negative, signSize) := match points with
    | 0x2D :: _ => (true, 1)
    | _ => (false, 0)
  let unsigned := points.drop signSize
  let whole := match unsigned with
    | 0x30 :: _ => ['0']
    | _ => digitsOf unsigned
  if whole = [] then none
  else
    let rest := unsigned.drop whole.length
    let fraction := match rest with
      | 0x2E :: rest => match digitsOf rest with
        | [] => none
        | digits => some digits
      | _ => none
    let fractionSize := (fraction.map fun digits => digits.length + 1).getD 0
    let exponent := exponentShape (rest.drop fractionSize)
    let exponentSize := (exponent.map (·.2)).getD 0
    some { negative, whole, fraction, exponent := exponent.map (·.1),
           size := signSize + whole.length + fractionSize + exponentSize }

/-- The value of a number: binary64 if it has a fraction or an exponent, else an integer. -/
def NumberShape.value (s : NumberShape) : Except Fault Value :=
  if s.fraction.isSome || s.exponent.isSome then
    let fraction := s.fraction.getD []
    .ok (.float (Double.ofDecimal s.negative (digitsValue (s.whole ++ fraction))
      (s.exponent.getD 0 - fraction.length)))
  else if digitLimit < s.whole.length then .error (.tooManyDigits s.whole.length)
  else
    let n : Int := digitsValue s.whole
    .ok (.int (if s.negative then -n else n))

/-! ## Values -/

/-- The values that are written as words. -/
def words : List (String × Value) :=
  [("null", .null), ("true", .bool true), ("false", .bool false), ("NaN", .float .nan),
   ("Infinity", .float (.infinite false)), ("-Infinity", .float (.infinite true))]

/-- Reads a word or a number. -/
def scalar (fault : SyntaxCause → Nat → Fault) (c : Cursor) : Step Value :=
  match words.find? fun w => c.startsWith w.1 with
  | some (word, value) => .ok (value, c.advance word.length)
  | none =>
    match numberShape? c.rest with
    | none => .error (fault .expectingValue c.index)
    | some shape => shape.value.map fun v => (v, c.advance shape.size)

mutual

/-- Reads a value; `fuel` bounds the nesting and the number of items. -/
def value (fault : SyntaxCause → Nat → Fault) (close : CloseObject) : Nat → Cursor → Step Value
  | 0, c => .error (fault .expectingValue c.index)
  | fuel + 1, c =>
    match c.rest with
    | [] => .error (fault .expectingValue c.index)
    | 0x22 :: _ => string fault c
    | 0x7B :: _ =>
      let inside := (c.advance 1).skip
      match inside.rest with
      | 0x7D :: _ => (close []).map fun v => (v, inside.advance 1)
      | _ =>
        match members fault close fuel [] inside with
        | .error e => .error e
        | .ok (found, after) => (close found).map fun v => (v, after)
    | 0x5B :: _ =>
      let inside := (c.advance 1).skip
      match inside.rest with
      | 0x5D :: _ => .ok (.list [], inside.advance 1)
      | _ => (items fault close fuel [] inside).map fun (found, after) => (.list found, after)
    | _ => scalar fault c

/-- Reads the items of an array up to its closing bracket. -/
def items (fault : SyntaxCause → Nat → Fault) (close : CloseObject) :
    Nat → List Value → Cursor → Step (List Value)
  | 0, _, c => .error (fault .expectingValue c.index)
  | fuel + 1, acc, c =>
    match value fault close fuel c with
    | .error e => .error e
    | .ok (item, after) =>
      let after := after.skip
      match after.rest with
      | 0x5D :: _ => .ok ((item :: acc).reverse, after.advance 1)
      | 0x2C :: _ => items fault close fuel (item :: acc) (after.advance 1).skip
      | _ => .error (fault .expectingComma after.index)

/-- Reads the members of an object up to its closing brace. -/
def members (fault : SyntaxCause → Nat → Fault) (close : CloseObject) :
    Nat → Members → Cursor → Step Members
  | 0, _, c => .error (fault .expectingName c.index)
  | fuel + 1, acc, c =>
    match c.rest with
    | 0x22 :: _ =>
      match string fault c with
      | .error e => .error e
      | .ok (key, after) =>
        let after := after.skip
        match after.rest with
        | 0x3A :: _ =>
          match value fault close fuel (after.advance 1).skip with
          | .error e => .error e
          | .ok (v, after) =>
            let after := after.skip
            match after.rest with
            | 0x7D :: _ => .ok (((key, v) :: acc).reverse, after.advance 1)
            | 0x2C :: _ => members fault close fuel ((key, v) :: acc) (after.advance 1).skip
            | _ => .error (fault .expectingComma after.index)
        | _ => .error (fault .expectingColon after.index)
    | _ => .error (fault .expectingName c.index)

end

/-! ## Documents -/

/-- Decodes a text given by its code points: one value with white space around it. -/
def decodePoints (close : CloseObject) (text : List Nat) : Except Fault Value :=
  let fault (cause : SyntaxCause) (index : Nat) : Fault := .malformed cause text index
  if text.head? = some 0xFEFF then .error (fault .byteOrderMark 0)
  else
    match value fault close (2 * text.length + 2) (Cursor.skip ⟨text, 0⟩) with
    | .error e => .error e
    | .ok (v, after) =>
      let after := after.skip
      if after.rest = [] then .ok v else .error (fault .extraData after.index)

/-- Decodes a text, refusing objects with repeated keys. -/
def decode (text : String) : Except Fault Value :=
  decodePoints refuseDuplicates (text.toList.map Char.toNat)

/-- Decodes a document in octets. -/
def decodeOctetsWith (close : CloseObject) (octets : List UInt8) : Except Fault Value :=
  match decodeDocument octets with
  | .error e => .error (.encoding e)
  | .ok text => decodePoints close text

/-- Decodes a document in octets, refusing objects with repeated keys. -/
def decodeOctets (octets : List UInt8) : Except Fault Value :=
  decodeOctetsWith refuseDuplicates octets

end FormEngine.Json
