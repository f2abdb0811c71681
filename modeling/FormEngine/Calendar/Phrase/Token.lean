import FormEngine.Text.Basic
import FormEngine.Number.Notation
import FormEngine.Text.Blank
import FormEngine.Text.Letters

/-!
# Words and numbers of a date phrase

`tokens` cuts a phrase such as `5th of January, 2026 10:30` into words, numbers and single
characters.  A dot or comma inside a number belongs to it if one digit sequence follows; a run of
digits, words and several dots is cut at the dots.

`Quantity` is the value of a number token: a whole part and the digits of a fraction.
-/

namespace FormEngine.Calendar.Phrase

/-- A word, a number, or a single other character. -/
abbrev Token := List Char

/-- What a token under construction consists of. -/
inductive Shape where
  | word
  | number
  /-- A word with dots. -/
  | dottedWord
  /-- A number with a dot or a comma. -/
  | dottedNumber
deriving DecidableEq, Repr

/-- True of letters. -/
def isWordChar (c : Char) : Bool := isLetter c.toNat

/-- True of digits, superscripts and the like included. -/
def isNumberChar (c : Char) : Bool := isDigitLike c.toNat

/-- How a token goes on with the next character, if it does; the token is given last character
first. -/
def Shape.next? (shape : Shape) (token : List Char) (c : Char) : Option Shape :=
  let afterDot := token.head? = some '.'
  match shape with
  | .word => if isWordChar c then some .word else if c = '.' then some .dottedWord else none
  | .number =>
    if isNumberChar c then some .number
    else if c = '.' ∨ (c = ',' ∧ 2 ≤ token.length) then some .dottedNumber
    else none
  | .dottedWord =>
    if c = '.' ∨ isWordChar c then some .dottedWord
    else if isNumberChar c ∧ afterDot then some .dottedNumber
    else none
  | .dottedNumber =>
    if c = '.' ∨ isNumberChar c then some .dottedNumber
    else if isWordChar c ∧ afterDot then some .dottedWord
    else none

/-- The longest token that goes on from a beginning: its characters last first, its shape, whether
letters were met, and what follows. -/
def extend (shape : Shape) (letters : Bool) (token : List Char) :
    List Char → List Char × Shape × Bool × List Char
  | [] => (token, shape, letters, [])
  | c :: cs =>
    let letters := letters || shape = .word || shape = .dottedWord
    match shape.next? token c with
    | some next => extend next letters (c :: token) cs
    | none => (token, shape, letters, c :: cs)

/-- The pieces between dots and commas, and the dots and commas themselves. -/
def cutAtDots : List Char → List Char → List Token
  | piece, [] => if piece = [] then [] else [piece.reverse]
  | piece, c :: cs =>
    if c = '.' ∨ c = ',' then
      (if piece = [] then [[c]] else [piece.reverse, [c]]) ++ cutAtDots [] cs
    else cutAtDots (c :: piece) cs

/-- A comma as a decimal point. -/
def commaToPoint (token : Token) : Token := token.map fun c => if c = ',' then '.' else c

/-- The tokens that a stretch of a shape stands for. -/
def settle (token : Token) (shape : Shape) (letters : Bool) : List Token :=
  let dotted := shape = .dottedWord || shape = .dottedNumber
  let ended := token.getLast?.any fun c => c = '.' || c = ','
  if dotted && (letters || 1 < token.count '.' || ended) then cutAtDots [] token
  else if shape = .dottedNumber && !token.contains '.' then [commaToPoint token]
  else [token]

/-- The token or tokens of the stretch that a character of a shape begins, and what follows. -/
def stretch (shape : Shape) (c : Char) (cs : List Char) : List Token × List Char :=
  let (token, shape, letters, rest) := extend shape false [c] cs
  (settle token.reverse shape letters, rest)

/-- The first token or tokens of a text, and what follows. -/
def nextTokens (c : Char) (cs : List Char) : List Token × List Char :=
  if isWordChar c then stretch .word c cs
  else if isNumberChar c then stretch .number c cs
  else ([[if isBlankChar c then ' ' else c]], cs)

/-- The tokens of a text; `fuel` bounds their number. -/
def tokensFrom : Nat → List Char → List Token
  | 0, _ => []
  | _, [] => []
  | fuel + 1, c :: cs =>
    let next := nextTokens c cs
    next.1 ++ tokensFrom fuel next.2

/-- The tokens of a text; null characters count for nothing. -/
def tokens (text : Text) : List Token :=
  let cs := text.glyphs.filter (· ≠ '\x00')
  tokensFrom cs.length cs

/-! ## Numbers -/

/-- A number that is not negative: its whole part, and the digits of its fraction. -/
structure Quantity where
  whole : Nat
  fraction : List Nat
deriving DecidableEq, Repr

namespace Quantity

/-- Whether there is anything beyond the whole part. -/
def hasFraction (q : Quantity) : Bool := q.fraction.any (· ≠ 0)

/-- The whole sixtieths of the fraction. -/
def sixtieths (q : Quantity) : Nat :=
  q.fraction.foldl (fun n d => 10 * n + d) 0 * 60 / Nat.pow 10 q.fraction.length

/-- Whether the number is at most `n`. -/
def atMost (q : Quantity) (n : Nat) : Bool := q.whole < n || (q.whole = n && !q.hasFraction)

/-- Whether the number is so large that its fraction is lost: beyond 28 digits. -/
def fractionLost (q : Quantity) : Bool := Nat.pow 10 28 ≤ q.whole

end Quantity

/-- The values of decimal digits, if a text consists of them. -/
def digitValues? (cs : List Char) : Option (List Nat) := cs.mapM fun c => decimalValue? c.toNat

/-- The number of decimal digits. -/
def ofDigits (digits : List Nat) : Nat := digits.foldl (fun n d => 10 * n + d) 0

/-- The number that a token is. -/
def quantity? (token : Token) : Option Quantity :=
  let (whole, rest) := token.span (· ≠ '.')
  match rest with
  | [] => if whole = [] then none else (digitValues? whole).map fun ds => ⟨ofDigits ds, []⟩
  | _ :: fraction =>
    match digitValues? whole, digitValues? fraction with
    | some ds, some fs => if ds = [] ∧ fs = [] then none else some ⟨ofDigits ds, fs⟩
    | _, _ => none

/-- The whole number that a token, or a part of one, is; it may not have more digits than may be
read. -/
def wholeNumber? (token : Token) : Option Nat :=
  if token = [] ∨ digitLimit < token.length then none else (digitValues? token).map ofDigits

end FormEngine.Calendar.Phrase
