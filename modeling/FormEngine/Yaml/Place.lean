import FormEngine.Yaml.Fault

/-!
# Places in a YAML document

A `Place` is what is left of a text together with the index, line and column reached.  Lines end at
a line feed, a carriage return, the two together, the next-line character, and the line and
paragraph separators; byte order marks take no column.

The rest of the module names the classes of characters by which the grammar decides.  The end of the
text, for which `peek` gives none, belongs to several of them.
-/

namespace FormEngine.Yaml

/-- True of the characters that may occur in a document at all. -/
def isPrintablePoint (n : Nat) : Bool :=
  n = 0x09 || n = 0x0A || n = 0x0D || (0x20 ≤ n && n ≤ 0x7E) || n = 0x85 || (0xA0 ≤ n && n ≤ 0xD7FF)
    || (0xE000 ≤ n && n ≤ 0xFFFD) || (0x10000 ≤ n && n ≤ 0x10FFFF)

/-! ## Classes -/

/-- True of the characters that end a line. -/
def isBreak (c : Char) : Bool :=
  c = '\n' || c = '\r' || c = '\u0085' || c = '\u2028' || c = '\u2029'

/-- True at the end of a line or of the text. -/
def endsLine (c : Option Char) : Bool := c.all isBreak

/-- True at a space and at the end of a line. -/
def endsWord (c : Option Char) : Bool := c.all fun c => c = ' ' || isBreak c

/-- True at a space, at a tab and at the end of a line. -/
def endsToken (c : Option Char) : Bool := c.all fun c => c = ' ' || c = '\t' || isBreak c

/-- True of the characters of names: ASCII letters and digits, hyphen and underscore. -/
def isNameChar (c : Char) : Bool := c.isAlphanum || c = '-' || c = '_'

/-- True of the characters of tags, the escapes' percent sign included. -/
def isTagChar (c : Char) : Bool := c.isAlphanum || "-;/?:@&=+$,_.!~*'()[]%".toList.contains c

/-! ## Places -/

/-- What is left of a text, and how far it has been read. -/
structure Place where
  rest : List Char
  index : Nat
  line : Nat
  column : Nat
deriving Repr, Inhabited

namespace Place

/-- The beginning of a text. -/
def start (text : List Char) : Place := ⟨text, 0, 0, 0⟩

/-- The next character. -/
def peek (p : Place) : Option Char := p.rest.head?

/-- The character some way ahead. -/
def ahead (p : Place) (n : Nat) : Option Char := p.rest[n]?

/-- The place after the next character. -/
def next (p : Place) : Place :=
  match p.rest with
  | [] => p
  | c :: rest =>
    if isBreak c && !(c = '\r' && rest.head? = some '\n') then ⟨rest, p.index + 1, p.line + 1, 0⟩
    else ⟨rest, p.index + 1, p.line, if c = '\uFEFF' then p.column else p.column + 1⟩

/-- The place some characters further on. -/
def advance : Nat → Place → Place
  | 0, p => p
  | n + 1, p => advance n p.next

/-- The longest run of characters of a class, and the place after it. -/
def takeWhile (p : Place) (test : Char → Bool) : List Char × Place :=
  let run := p.rest.takeWhile test
  (run, p.advance run.length)

/-- The place after the longest run of characters of a class. -/
def skipWhile (p : Place) (test : Char → Bool) : Place := (p.takeWhile test).2

/-- The place after any spaces. -/
def skipSpaces (p : Place) : Place := p.skipWhile (· = ' ')

/-- The place after a comment, if one begins here. -/
def skipComment (p : Place) : Place :=
  if p.peek = some '#' then p.skipWhile (!isBreak ·) else p

/-- The end of a line, as the character that stands for it in texts, and the place after it. -/
def lineBreak? (p : Place) : Option (Char × Place) :=
  match p.rest with
  | '\r' :: '\n' :: _ => some ('\n', p.advance 2)
  | c :: _ =>
    if c = '\u2028' ∨ c = '\u2029' then some (c, p.next)
    else if isBreak c then some ('\n', p.next)
    else none
  | [] => none

/-- The place after the end of a line, if there is one. -/
def skipBreak (p : Place) : Place := (p.lineBreak?.map (·.2)).getD p

/-- Whether three equal marks stand here, followed by the end of a word. -/
def isMarker (p : Place) (mark : Char) : Bool :=
  p.rest.take 3 == [mark, mark, mark] && endsToken (p.ahead 3)

/-- Whether a mark between documents stands here. -/
def isSeparator (p : Place) : Bool := p.isMarker '-' || p.isMarker '.'

end Place

end FormEngine.Yaml
