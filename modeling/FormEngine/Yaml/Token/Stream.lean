import FormEngine.Yaml.Token.Scalar

/-!
# The tokens of a document

Besides the tokens that are written, a document has those that its layout implies.  Deeper
indentation begins a block collection and shallower indentation ends it.  A key without a mark of
its own is known as a key only at the colon after it, so every place where such a key may have begun
is remembered as a `Candidate`, and the colon puts the key's tokens in front of what has been read
since then.  A candidate has to be followed by its colon on the same line and within 1024
characters.

`tokensOf` reads a whole text.
-/

namespace FormEngine.Yaml

/-- A place where a key may have begun. -/
structure Candidate where
  /-- The depth of flow collections around it. -/
  depth : Nat
  /-- How many tokens stand before it. -/
  position : Nat
  /-- Whether nothing but a key may stand there. -/
  required : Bool
  place : Place

/-- A text partly read. -/
structure Stream where
  place : Place
  /-- The tokens so far, the last one first. -/
  tokens : List Token := []
  /-- How many flow collections are open. -/
  depth : Nat := 0
  /-- The column of the innermost block collection, `-1` outside of all. -/
  indent : Int := -1
  /-- The columns of the collections around it. -/
  outer : List Int := []
  /-- Whether a key may begin here without a mark. -/
  keyAllowed : Bool := true
  candidates : List Candidate := []

namespace Stream

/-- Adds a token. -/
def push (s : Stream) (t : Token) : Stream := { s with tokens := t :: s.tokens }

/-- Adds the token of an indicator of so many characters, and passes it. -/
def indicator (s : Stream) (t : Token) (size : Nat) : Stream :=
  { s.push t with place := s.place.advance size }

/-- Puts a token in front of all but the first so many. -/
def insertAt (s : Stream) (position : Nat) (t : Token) : Stream :=
  { s with tokens := s.tokens.insertIdx (s.tokens.length - position) t }

/-! ## Candidates -/

/-- Whether a candidate can no longer be followed by its colon. -/
def isStale (s : Stream) (c : Candidate) : Bool :=
  c.place.line ≠ s.place.line || c.place.index + 1024 < s.place.index

/-- Drops the candidates that a test finds; none of them may be required. -/
def dropCandidates (s : Stream) (test : Candidate → Bool) : Except Fault Stream := do
  require (!s.candidates.any fun c => test c && c.required)
  return { s with candidates := s.candidates.filter fun c => !test c }

/-- Drops the stale candidates. -/
def dropStale (s : Stream) : Except Fault Stream := s.dropCandidates s.isStale

/-- Drops the candidate at the current depth. -/
def dropCandidate (s : Stream) : Except Fault Stream := s.dropCandidates (·.depth = s.depth)

/-- Remembers that a key may begin here. -/
def remember (s : Stream) : Except Fault Stream := do
  if s.keyAllowed then
    let s ← s.dropCandidate
    let required := s.depth = 0 && s.indent = s.place.column
    return { s with candidates := ⟨s.depth, s.tokens.length, required, s.place⟩ :: s.candidates }
  else return s

/-! ## Indentation -/

/-- Ends the block collections that stand deeper than a column. -/
def unwindTo (column : Int) : List Int → Int → List Token → List Int × Int × List Token
  | [], indent, tokens => ([], indent, tokens)
  | before :: outer, indent, tokens =>
    if column < indent then unwindTo column outer before (.blockEnd :: tokens)
    else (before :: outer, indent, tokens)

/-- Ends the block collections that stand deeper than a column, unless a flow collection is open. -/
def unwind (s : Stream) (column : Int) : Stream :=
  if s.depth ≠ 0 then s
  else
    let (outer, indent, tokens) := unwindTo column s.outer s.indent s.tokens
    { s with outer, indent, tokens }

/-- Whether a block collection begins at a column. -/
def opensAt (s : Stream) (column : Nat) : Bool := s.depth = 0 && s.indent < column

/-- Begins a block collection at a column, unless one is open there. -/
def openBlock (s : Stream) (t : Token) : Except Fault Stream := do
  if s.depth ≠ 0 then return s
  require s.keyAllowed
  if s.opensAt s.place.column then
    return { s.push t with outer := s.indent :: s.outer, indent := s.place.column }
  else return s

/-! ## Steps -/

/-- Passes blanks, comments and line ends; outside flow collections a key may begin on a new line.
`fuel` bounds the lines. -/
def skipGap : Nat → Stream → Stream
  | 0, s => s
  | fuel + 1, s =>
    let p := s.place.skipSpaces.skipComment
    match p.lineBreak? with
    | none => { s with place := p }
    | some (_, p) => skipGap fuel { s with place := p, keyAllowed := s.keyAllowed || s.depth = 0 }

/-- Reads a token that ends all block collections and before which no key is open. -/
def outermost (s : Stream) : Except Fault Stream := do
  let s ← (s.unwind (-1)).dropCandidate
  return { s with keyAllowed := false }

/-- Begins a flow collection. -/
def openFlow (s : Stream) (t : Token) : Except Fault Stream := do
  let s ← s.remember
  return { s.indicator t 1 with depth := s.depth + 1, keyAllowed := true }

/-- Ends a flow collection. -/
def closeFlow (s : Stream) (t : Token) : Except Fault Stream := do
  let s ← s.dropCandidate
  require (s.depth ≠ 0)
  return { s.indicator t 1 with depth := s.depth - 1, keyAllowed := false }

/-- Reads the comma of a flow collection. -/
def flowEntry (s : Stream) : Except Fault Stream := do
  let s ← s.dropCandidate
  return { s.indicator .flowEntry 1 with keyAllowed := true }

/-- Reads the hyphen of an item. -/
def blockEntry (s : Stream) : Except Fault Stream := do
  let s ← (← s.openBlock .blockSequenceStart).dropCandidate
  return { s.indicator .blockEntry 1 with keyAllowed := true }

/-- Reads the mark of a key. -/
def markedKey (s : Stream) : Except Fault Stream := do
  let s ← (← s.openBlock .blockMappingStart).dropCandidate
  return { s.indicator .key 1 with keyAllowed := s.depth = 0 }

/-- Reads the colon after a key: the key that began at the candidate of this depth, or one that has
a mark of its own. -/
def colon (s : Stream) : Except Fault Stream := do
  match s.candidates.find? (·.depth = s.depth) with
  | some c =>
    let s := { s with candidates := s.candidates.filter (·.depth ≠ s.depth) }
    let s := s.insertAt c.position .key
    let s := if s.opensAt c.place.column then
        { s.insertAt c.position .blockMappingStart with
          outer := s.indent :: s.outer, indent := c.place.column }
      else s
    return { s.indicator .value 1 with keyAllowed := false }
  | none =>
    let s ← (← s.openBlock .blockMappingStart).dropCandidate
    return { s.indicator .value 1 with keyAllowed := s.depth = 0 }

/-- Reads a token at which a key may begin. -/
def keyPart (s : Stream) (read : Place → Except Fault (Token × Place)) : Except Fault Stream := do
  let s ← s.remember
  let (t, p) ← read s.place
  return { s.push t with place := p, keyAllowed := false }

/-- Reads a plain scalar. -/
def plain (s : Stream) : Except Fault Stream := do
  let s ← s.remember
  let ((t, crossed), p) := plainScalar (s.depth ≠ 0) s.indent s.place
  return { s.push t with place := p, keyAllowed := crossed }

/-- Reads a scalar in a block. -/
def block (s : Stream) : Except Fault Stream := do
  let s ← s.dropCandidate
  let (t, p) ← blockScalar s.indent s.place
  return { s.push t with place := p, keyAllowed := true }

/-- True of the characters that open no plain scalar. -/
def isIndicator (c : Char) : Bool := "-?:,[]\x7b\x7d#&*!|>'\"%@\x60".toList.contains c

/-- Whether a plain scalar opens with a character, given the next one. -/
def opensPlain (s : Stream) (c : Char) (after : Option Char) : Bool :=
  !(isIndicator c || endsToken (some c))
    || (!endsToken after && (c = '-' || (s.depth = 0 && (c = '?' || c = ':'))))

/-- Reads the token that opens with a character. -/
def token (s : Stream) (c : Char) : Except Fault Stream := do
  let p := s.place
  let inFlow := s.depth ≠ 0
  let aloneOrFlow := inFlow || endsToken (p.ahead 1)
  if c = '%' && p.column = 0 then
    let s ← s.outermost
    let (t, p) ← directive s.place
    return { s.push t with place := p }
  else if c = '-' && p.column = 0 && p.isMarker '-' then
    return (← s.outermost).indicator .documentStart 3
  else if c = '.' && p.column = 0 && p.isMarker '.' then
    return (← s.outermost).indicator .documentEnd 3
  else if c = '[' then s.openFlow .flowSequenceStart
  else if c = '\x7b' then s.openFlow .flowMappingStart
  else if c = ']' then s.closeFlow .flowSequenceEnd
  else if c = '\x7d' then s.closeFlow .flowMappingEnd
  else if c = ',' then s.flowEntry
  else if c = '-' && endsToken (p.ahead 1) then s.blockEntry
  else if c = '?' && aloneOrFlow then s.markedKey
  else if c = ':' && aloneOrFlow then s.colon
  else if c = '*' then s.keyPart fun p => do
    let (name, p) ← anchorName p
    return (.reference name, p)
  else if c = '&' then s.keyPart fun p => do
    let (name, p) ← anchorName p
    return (.anchor name, p)
  else if c = '!' then s.keyPart tag
  else if (c = '|' || c = '>') && !inFlow then s.block
  else if c = '\'' || c = '"' then s.keyPart quotedScalar
  else if s.opensPlain c (p.ahead 1) then s.plain
  else malformed

/-- Reads the rest of a text; `fuel` bounds the tokens. -/
def run : Nat → Stream → Except Fault (List Token)
  | 0, _ => malformed
  | fuel + 1, s => do
    let s ← (skipGap (s.place.rest.length + 1) s).dropStale
    let s := s.unwind s.place.column
    match s.place.peek with
    | none => return (← s.outermost).tokens.reverse
    | some c => run fuel (← s.token c)

end Stream

/-- The tokens of a text.  A byte order mark may open it. -/
def tokensOf (text : List Char) : Except Fault (List Token) :=
  let start := Place.start text
  let start := if start.peek = some '\uFEFF' then start.next else start
  Stream.run (text.length + 1) { place := start }

end FormEngine.Yaml
