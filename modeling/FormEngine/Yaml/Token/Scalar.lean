import FormEngine.Yaml.Token.Property

/-!
# Scalars

Reading the text of a scalar in each of its five styles: between single or double quotes, in a
literal or a folded block, and plain.  Where a scalar goes over several lines, a line end inside it
becomes a space and empty lines become line ends; a literal block keeps its lines as they are.
-/

namespace FormEngine.Yaml

/-! ## Between quotes -/

/-- The empty lines inside a scalar between quotes, which no document mark may interrupt; `fuel`
bounds their number. -/
def quotedBreaks : Nat → Place → Except Fault (List Char × Place)
  | 0, p => .ok ([], p)
  | fuel + 1, p => do
    require !p.isSeparator
    let p := p.skipWhile fun c => c = ' ' || c = '\t'
    match p.lineBreak? with
    | none => return ([], p)
    | some (c, p) =>
      let (rest, p) ← quotedBreaks fuel p
      return (c :: rest, p)

/-- The text that stands for a line end, given that end and the empty lines after it. -/
def folded (first : Char) (breaks : List Char) : List Char :=
  if first ≠ '\n' then first :: breaks
  else if breaks = [] then [' ']
  else breaks

/-- The blanks at a place inside quotes, or what stands for them if the line ends. -/
def quotedSpaces (p : Place) : Except Fault (List Char × Place) := do
  let (blanks, p) := p.takeWhile fun c => c = ' ' || c = '\t'
  require p.peek.isSome
  match p.lineBreak? with
  | none => return (blanks, p)
  | some (first, p) =>
    let (breaks, p) ← quotedBreaks (p.rest.length + 1) p
    return (folded first breaks, p)

/-- The code point of an escape of one letter. -/
def escapeLetter? (c : Char) : Option Nat :=
  match c with
  | '0' => some 0x00
  | 'a' => some 0x07
  | 'b' => some 0x08
  | 't' => some 0x09
  | '\t' => some 0x09
  | 'n' => some 0x0A
  | 'v' => some 0x0B
  | 'f' => some 0x0C
  | 'r' => some 0x0D
  | 'e' => some 0x1B
  | ' ' => some 0x20
  | '"' => some 0x22
  | '\\' => some 0x5C
  | '/' => some 0x2F
  | 'N' => some 0x85
  | '_' => some 0xA0
  | 'L' => some 0x2028
  | 'P' => some 0x2029
  | _ => none

/-- How many digits follow the letter of an escape by code. -/
def escapeWidth? (c : Char) : Option Nat :=
  match c with
  | 'x' => some 2
  | 'u' => some 4
  | 'U' => some 8
  | _ => none

/-- The code points of an escape, the place standing after the backslash. -/
def escape (p : Place) : Except Fault (List Nat × Place) :=
  match p.peek with
  | none => malformed
  | some c =>
    match escapeLetter? c, escapeWidth? c with
    | some n, _ => .ok ([n], p.next)
    | none, some width => do
      let digits := p.next.rest.take width
      require (digits.length = width && digits.all fun c => (hexDigit? c).isSome)
      let code := numeralIn 16 digits
      if 0x110000 ≤ code then .error (.character code)
      else return ([code], p.next.advance width)
    | none, none => do
      require (isBreak c)
      let (breaks, p) ← quotedBreaks (p.rest.length + 1) p.skipBreak
      return (breaks.map Char.toNat, p)

/-- The text of a scalar between quotes up to the closing one, which is passed; `fuel` bounds its
pieces. -/
def quotedText (double : Bool) : Nat → Place → Except Fault (List Nat × Place)
  | 0, _ => malformed
  | fuel + 1, p =>
    let quote := if double then '"' else '\''
    match p.rest with
    | [] => malformed
    | c :: rest => do
      if c = quote then
        if double || rest.head? ≠ some '\'' then return ([], p.next)
        let (rest, p) ← quotedText double fuel (p.advance 2)
        return (c.toNat :: rest, p)
      let (piece, p) ←
        if c = ' ' ∨ c = '\t' ∨ isBreak c then do
          let (blanks, p) ← quotedSpaces p
          pure (blanks.map Char.toNat, p)
        else if double && c = '\\' then escape p.next
        else pure ([c.toNat], p.next)
      let (rest, p) ← quotedText double fuel p
      return (piece ++ rest, p)

/-- A scalar between quotes. -/
def quotedScalar (p : Place) : Except Fault (Token × Place) := do
  let (points, p) ← quotedText (p.peek = some '"') (p.rest.length + 1) p.next
  return (.scalar false points, p)

/-! ## Blocks -/

/-- What becomes of the line ends after the last line of a block. -/
inductive Chomping where
  | strip
  | clip
  | keep
deriving DecidableEq, Repr

/-- The chomping that a sign asks for. -/
def chomping? (c : Char) : Option Chomping :=
  if c = '+' then some .keep else if c = '-' then some .strip else none

/-- The indentation that a digit asks for. -/
def indentation? (c : Char) : Option Nat := digitOfBase? 10 c

/-- The signs after the mark of a block: chomping, and indentation if it is given. -/
def blockHeader (p : Place) : Except Fault ((Chomping × Option Nat) × Place) := do
  let (chomping, increment, p) :=
    match p.peek.bind chomping?, p.peek.bind indentation? with
    | some chomping, _ =>
      match p.next.peek.bind indentation? with
      | some n => (chomping, some n, p.advance 2)
      | none => (chomping, none, p.next)
    | none, some n =>
      match p.next.peek.bind chomping? with
      | some chomping => (chomping, some n, p.advance 2)
      | none => (.clip, some n, p.next)
    | none, none => (.clip, none, p)
  require (increment ≠ some 0 && endsWord p.peek)
  return ((chomping, increment), p)

/-- The place after spaces, at most up to a column; `fuel` bounds them. -/
def skipIndent (indent : Nat) : Nat → Place → Place
  | 0, p => p
  | fuel + 1, p =>
    if p.column < indent ∧ p.peek = some ' ' then skipIndent indent fuel p.next else p

/-- Empty lines, each indented at most up to a column; `fuel` bounds them. -/
def blockBreaks (indent : Nat) : Nat → Place → List Char × Place
  | 0, p => ([], p)
  | fuel + 1, p =>
    let p := skipIndent indent p.rest.length p
    match p.lineBreak? with
    | none => ([], p)
    | some (c, p) =>
      let (rest, p) := blockBreaks indent fuel p
      (c :: rest, p)

/-- Empty lines with any indentation, and the largest column that their spaces reach, as do those
before the first line that is not empty; `fuel` bounds the characters. -/
def openingBreaks : Nat → Nat → Place → (List Char × Nat) × Place
  | 0, reach, p => (([], reach), p)
  | fuel + 1, reach, p =>
    if p.peek = some ' ' then openingBreaks fuel (max reach p.next.column) p.next
    else match p.lineBreak? with
    | none => (([], reach), p)
    | some (c, p) =>
      let ((rest, reach), p) := openingBreaks fuel reach p
      ((c :: rest, reach), p)

/-- True of the characters at which a folded line keeps its line ends. -/
def isBlankStart (c : Option Char) : Bool := c.any fun c => c = ' ' || c = '\t'

/-- The lines of a block indented to a column, after the given empty lines; `fuel` bounds their
number.  The result holds the text without its last line end, that line end, and the empty lines
after it. -/
def blockLines (folding : Bool) (indent : Nat) :
    Nat → List Char → Place → (List Char × List Char × List Char) × Place
  | 0, breaks, p => (([], [], breaks), p)
  | fuel + 1, breaks, p =>
    if p.column = indent ∧ p.peek.isSome then
      let opensBlank := isBlankStart p.peek
      let (line, p) := p.takeWhile (!isBreak ·)
      let (ending, p) := match p.lineBreak? with
        | some (c, p) => ([c], p)
        | none => ([], p)
      let (after, p) := blockBreaks indent (p.rest.length + 1) p
      if p.column = indent ∧ p.peek.isSome then
        let joint :=
          if folding && ending = ['\n'] && !opensBlank && !isBlankStart p.peek then
            if after = [] then [' '] else []
          else ending
        let ((rest, ending, after), p) := blockLines folding indent fuel after p
        ((breaks ++ line ++ joint ++ rest, ending, after), p)
      else ((breaks ++ line, ending, after), p)
    else (([], [], breaks), p)

/-- A scalar in a block, the place standing on its mark; `indent` is the column of the collection
around it. -/
def blockScalar (indent : Int) (p : Place) : Except Fault (Token × Place) := do
  let folding := p.peek = some '>'
  let ((chomping, increment), p) ← blockHeader p.next
  let p ← restOfLine p
  let least := (max (indent + 1) 1).toNat
  let (breaks, column, p) := match increment with
    | none =>
      let ((breaks, reach), p) := openingBreaks p.rest.length 0 p
      (breaks, max least reach, p)
    | some n =>
      let column := least + n - 1
      let (breaks, p) := blockBreaks column (p.rest.length + 1) p
      (breaks, column, p)
  let ((text, ending, after), p) := blockLines folding column (p.rest.length + 1) breaks p
  let text := text ++ (if chomping = .strip then [] else ending)
    ++ (if chomping = .keep then after else [])
  return (.scalar false (text.map Char.toNat), p)

/-! ## Plain -/

/-- True of the indicators of flow collections. -/
def isFlowIndicator (c : Char) : Bool := ",[]\x7b\x7d".toList.contains c

/-- How many characters of a plain scalar stand here without a gap.  A colon ends it if a blank
follows; inside flow collections their indicators and the question mark end it too. -/
def plainRun (flow : Bool) : List Char → Nat
  | [] => 0
  | c :: rest =>
    let after := rest.head?
    if c = ' ' ∨ c = '\t' ∨ isBreak c then 0
    else if c = ':' && (endsToken after || (flow && after.any isFlowIndicator)) then 0
    else if flow && (c = '?' || isFlowIndicator c) then 0
    else plainRun flow rest + 1

/-- Empty lines and indentation inside a plain scalar: the line ends, whether a document mark
stopped them, and the place after them; `fuel` bounds the characters. -/
def plainBreaks : Nat → Place → (List Char × Bool) × Place
  | 0, p => (([], false), p)
  | fuel + 1, p =>
    if p.peek = some ' ' then plainBreaks fuel p.next
    else match p.lineBreak? with
    | none => (([], false), p)
    | some (c, p) =>
      if p.isSeparator then (([], true), p)
      else
        let ((rest, stopped), p) := plainBreaks fuel p
        ((c :: rest, stopped), p)

/-- The gap after a run of a plain scalar. -/
structure Gap where
  /-- What stands for the gap if the scalar goes on. -/
  text : List Char
  /-- Whether a line has ended. -/
  crossesLine : Bool
  after : Place

/-- The gap at a place: spaces, or a line end with empty lines and indentation. -/
def gap (p : Place) : Gap :=
  let (spaces, p) := p.takeWhile (· = ' ')
  match p.lineBreak? with
  | none => ⟨spaces, false, p⟩
  | some (first, p) =>
    if p.isSeparator then ⟨[], true, p⟩
    else
      let ((breaks, stopped), p) := plainBreaks p.rest.length p
      ⟨if stopped then [] else folded first breaks, true, p⟩

/-- The rest of a plain scalar: its text, whether the gap after it has crossed a line end, and the
place reached.  `before` is the gap in front of it, and `fuel` bounds its runs. -/
def plainText (flow : Bool) (indent : Int) :
    Nat → List Char → Bool → Place → (List Char × Bool) × Place
  | 0, _, crossed, p => (([], crossed), p)
  | fuel + 1, before, crossed, p =>
    let size := if p.peek = some '#' then 0 else plainRun flow p.rest
    if size = 0 then (([], crossed), p)
    else
      let run := p.rest.take size
      let g := gap (p.advance size)
      if g.text = [] ∨ g.after.peek = some '#' ∨ (!flow ∧ (g.after.column : Int) < indent + 1) then
        ((before ++ run, g.crossesLine), g.after)
      else
        let ((rest, crossed), p) := plainText flow indent fuel g.text g.crossesLine g.after
        ((before ++ run ++ rest, crossed), p)

/-- A plain scalar, and whether a line has ended after it. -/
def plainScalar (flow : Bool) (indent : Int) (p : Place) : (Token × Bool) × Place :=
  let ((text, crossed), p) := plainText flow indent (p.rest.length + 1) [] false p
  ((.scalar true (text.map Char.toNat), crossed), p)

end FormEngine.Yaml
