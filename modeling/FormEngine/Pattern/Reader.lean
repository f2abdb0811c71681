import FormEngine.Number.Literal
import FormEngine.Pattern.Fault
import FormEngine.Pattern.Syntax
import FormEngine.Text.Identifier
import FormEngine.Text.Names

/-!
# Reading patterns

From the text of a regular expression to its parts.  The text is read token by token, a token being
one character or a backslash with the character after it; a backslash at the very end is refused as
soon as it is next.  A surrogate is read as a character without meaning and, where it stands for
itself, told by its code point.  `Pattern.read` is the whole of it.

Reading descends through alternatives and sequences.  Each step takes at least one token, so the
recursion is bounded by the length of the text.
-/

namespace FormEngine.Pattern

/-- The options that can be switched inside a pattern. -/
structure Options where
  ignoreCase : Bool := false
  multiline : Bool := false
  dotAll : Bool := false
  verbose : Bool := false
  ascii : Bool := false
  unicode : Bool := false
  template : Bool := false
deriving DecidableEq, Repr, Inhabited

namespace Options

/-- The option of a letter. -/
def ofLetter? : Char → Option Options
  | 'i' => some { ignoreCase := true }
  | 'm' => some { multiline := true }
  | 's' => some { dotAll := true }
  | 'x' => some { verbose := true }
  | 'a' => some { ascii := true }
  | 'u' => some { unicode := true }
  | 't' => some { template := true }
  | _ => none

/-- The options of either. -/
def union (a b : Options) : Options where
  ignoreCase := a.ignoreCase || b.ignoreCase
  multiline := a.multiline || b.multiline
  dotAll := a.dotAll || b.dotAll
  verbose := a.verbose || b.verbose
  ascii := a.ascii || b.ascii
  unicode := a.unicode || b.unicode
  template := a.template || b.template

/-- The options of the first that are not in the second. -/
def without (a b : Options) : Options where
  ignoreCase := a.ignoreCase && !b.ignoreCase
  multiline := a.multiline && !b.multiline
  dotAll := a.dotAll && !b.dotAll
  verbose := a.verbose && !b.verbose
  ascii := a.ascii && !b.ascii
  unicode := a.unicode && !b.unicode
  template := a.template && !b.template

/-- The options of both. -/
def common (a b : Options) : Options := a.without (a.without b)

/-- Whether one of the options that choose the character classes is on. -/
def choosesType (a : Options) : Bool := a.ascii || a.unicode

/-- The options inside a group that switches some on and some off.  Switching on a choice of
character classes replaces the earlier choice. -/
def inside (outer on off : Options) : Options :=
  let base := if on.choosesType then { outer with ascii := false, unicode := false } else outer
  (base.union on).without off

/-- Whether the classes are confined to ASCII. -/
def asciiOnly (a : Options) : Bool := a.ascii && !a.unicode

/-- How letters of different case compare. -/
def caseRule (a : Options) : CaseRule :=
  if !a.ignoreCase then .exact else if a.asciiOnly then .ignoreAscii else .ignore

end Options

/-- One character, or a backslash with the character after it. -/
abbrev Token := List Char

/-- What has been read so far. -/
structure Reading where
  /-- The code points of the whole text. -/
  points : List Nat
  size : Nat
  rest : List Char
  options : Options
  /-- The groups with names. -/
  names : List (String × Nat)
  /-- The width of each group by number, none while it is open; number 0 is the whole. -/
  widths : List (Option Width)
  /-- How many groups there were where looking behind began. -/
  behindFrom : Option Nat
  /-- The groups that conditions ask for, with the index of the first mention. -/
  asked : List (Nat × Nat)
deriving Inhabited

/-- A step of reading. -/
abbrev Reader := StateT Reading (Except Fault)

/-- The index of the next token. -/
def tell : Reader Nat := do
  let s ← get
  return s.size - s.rest.length

/-- The code point before the next token. -/
def lastPoint : Reader Nat := do
  let index ← tell
  return ((← get).points[index - 1]?).getD 0

/-- The text of so many code points that ends so many characters before the next token. -/
def textBefore (count : Nat) (back : Nat := 0) : Reader Text := do
  let index ← tell
  return .ofPoints (((← get).points.drop (index - back - count)).take count)

/-- Stops with a fault so many characters before the next token. -/
def failBack {α : Type} (cause : Cause) (back : Nat) : Reader α := do
  let index ← tell
  throw (.malformed cause (some (index - back)))

/-- Stops with a fault at an index. -/
def failAt {α : Type} (cause : Cause) (index : Nat) : Reader α :=
  throw (.malformed cause (some index))

/-- The next token. -/
def peek : Reader (Option Token) := do
  return match (← get).rest with
    | [] => none
    | '\\' :: c :: _ => some ['\\', c]
    | c :: _ => some [c]

/-- Refuses a backslash that ends the text, if it is next. -/
def settle : Reader Unit := do
  let s ← get
  if s.rest = ['\\'] then throw (.malformed .escapeAtEnd (some (s.size - 1)))

/-- Takes the next token. -/
def take : Reader (Option Token) := do
  let token ← peek
  modify fun s => { s with rest := s.rest.drop (token.getD []).length }
  settle
  return token

/-- Takes the next token if it is the given character. -/
def accept (c : Char) : Reader Bool := do
  if (← peek) = some [c] then
    let _ ← take
    return true
  else return false

/-- Takes single characters that pass a test, at most so many. -/
def takeSome (p : Char → Bool) : Nat → Reader (List Char)
  | 0 => return []
  | fuel + 1 => do
    match ← peek with
    | some [c] =>
      if p c then
        let _ ← take
        return c :: (← takeSome p fuel)
      else return []
    | _ => return []

/-- Takes digits as long as there are any. -/
def takeDigits : Reader (List Char) := do
  takeSome isAsciiDigit (← get).rest.length

/-- Takes a name up to its terminator, which is taken too. -/
def takeUntil (terminator : Char) (what : String) : Nat → List Char → Reader (List Char)
  | 0, _ => failBack (.missing what) 0
  | fuel + 1, acc => do
    match ← take with
    | none =>
      if acc = [] then failBack (.missing what) 0
      else failBack (.unterminatedName (String.singleton terminator)) acc.length
    | some token =>
      if token = [terminator] then
        if acc = [] then failBack (.missing what) 1 else return acc
      else takeUntil terminator what fuel (acc ++ token)

/-- Takes a name up to its terminator, which is taken too. -/
def takeName (terminator : Char) (what : String) : Reader (List Char) := do
  takeUntil terminator what ((← get).rest.length + 1) []

/-! ## Characters -/

/-- True of octal digits. -/
def isOctal (c : Char) : Bool := '0' ≤ c && c ≤ '7'

/-- The characters with a letter of their own, and the backslash. -/
def controlEscape? : Char → Option Nat
  | 'a' => some 0x07
  | 'b' => some 0x08
  | 'f' => some 0x0C
  | 'n' => some 0x0A
  | 'r' => some 0x0D
  | 't' => some 0x09
  | 'v' => some 0x0B
  | '\\' => some 0x5C
  | _ => none

/-- The classes of characters with a letter of their own, and whether they are negated. -/
def classEscape? : Char → Option (CharClass × Bool)
  | 'd' => some (.digit, false)
  | 'D' => some (.digit, true)
  | 's' => some (.space, false)
  | 'S' => some (.space, true)
  | 'w' => some (.word, false)
  | 'W' => some (.word, true)
  | _ => none

/-- A character by its code: the letter `x`, `u` or `U` has been taken, and some digits follow. -/
def codeEscape (letter : Char) (count : Nat) : Reader Nat := do
  let digits ← takeSome (fun c => (hexDigit? c).isSome) count
  let escape := '\\' :: letter :: digits
  if digits.length < count then failBack (.incompleteEscape (String.ofList escape)) escape.length
  else
    let n := numeralIn 16 digits
    if 0x110000 ≤ n then failBack (.badEscape (String.ofList escape)) escape.length else return n

/-- A character by its name: the letter `N` has been taken. -/
def nameEscape : Reader Nat := do
  if !(← accept '\x7b') then failBack (.missing "\x7b") 0
  else
    let name ← takeName '\x7d' "character name"
    match characterNamed? (String.ofList name) with
    | some n => return n
    | none => failBack (.undefinedName (← textBefore name.length 1)) (name.length + 4)

/-- An octal escape inside a set: its first digit has been taken. -/
def octalEscape (first : Char) : Reader Nat := do
  let digits := first :: (← takeSome isOctal 2)
  let n := numeralIn 8 digits
  if 0o377 < n then
    let escape := '\\' :: digits
    failBack (.octalOutOfRange (String.ofList escape)) escape.length
  else return n

/-- The escape of a character that stands for itself, or a fault. -/
def plainEscape (c : Char) : Reader Nat := do
  if isAsciiLetter c || isAsciiDigit c then
    failBack (.badEscape (String.ofList ['\\', c])) 2
  else lastPoint

/-- An escape inside a set: its token has been taken. -/
def setEscape (c : Char) : Reader SetItem := do
  match controlEscape? c, classEscape? c with
  | some n, _ => return .point n
  | _, some (k, negated) => return .charClass k negated
  | none, none =>
    match c with
    | 'x' => return .point (← codeEscape 'x' 2)
    | 'u' => return .point (← codeEscape 'u' 4)
    | 'U' => return .point (← codeEscape 'U' 8)
    | 'N' => return .point (← nameEscape)
    | _ => if isOctal c then return .point (← octalEscape c) else return .point (← plainEscape c)

/-- Whether a group may be referred to: it is closed, and older than the place from which the
pattern looks behind. -/
def checkBehind (index : Nat) : Reader Unit := do
  let s ← get
  match s.behindFrom with
  | none => return ()
  | some limit =>
    if (s.widths[index]?.getD none).isNone then failBack .openGroup 0
    else if limit ≤ index then failBack .lookBehindGroup 0
    else return ()

/-- A reference to a group by number, or an octal escape: the first digit has been taken. -/
def numberEscape (first : Char) : Reader Node := do
  let rule := (← get).options.caseRule
  let second ← takeSome isAsciiDigit 1
  let third ← if isOctal first && second.any isOctal then takeSome isOctal 1 else pure []
  if third ≠ [] then
    let digits := first :: second ++ third
    let n := numeralIn 8 digits
    if 0o377 < n then
      let escape := '\\' :: digits
      failBack (.octalOutOfRange (String.ofList escape)) escape.length
    else return .literal rule n
  else
    let digits := first :: second
    let index := digitsValue digits
    let s ← get
    if index < s.widths.length then
      if (s.widths[index]?.getD none).isNone then failBack .openGroup (digits.length + 1)
      else
        checkBehind index
        return .backReference rule index
    else failBack (.invalidReference index) digits.length

/-- An escape outside a set: its token has been taken. -/
def escape (c : Char) : Reader Node := do
  let options := (← get).options
  let rule := options.caseRule
  let ascii := options.asciiOnly
  match c with
  | 'A' => return .anchor .textStart
  | 'Z' => return .anchor .textEnd
  | 'b' => return .anchor (.boundary ascii)
  | 'B' => return .anchor (.noBoundary ascii)
  | 'x' => return .literal rule (← codeEscape 'x' 2)
  | 'u' => return .literal rule (← codeEscape 'u' 4)
  | 'U' => return .literal rule (← codeEscape 'U' 8)
  | 'N' => return .literal rule (← nameEscape)
  | '0' => return .literal rule (numeralIn 8 ('0' :: (← takeSome isOctal 2)))
  | _ =>
    match classEscape? c, controlEscape? c with
    | some (k, negated), _ => return .set .exact ascii false [.charClass k negated]
    | _, some n => return .literal rule n
    | none, none =>
      if isAsciiDigit c then numberEscape c
      else return .literal rule (← plainEscape c)

/-! ## Sets -/

/-- One end of a range or a member of a set: its first token has been taken. -/
def setMember : Token → Reader SetItem
  | ['\\', c] => setEscape c
  | _ :: _ => return .point (← lastPoint)
  | [] => return .point 0

/-- The members of a set up to its closing bracket; `start` is the index of the opening one. -/
def setMembers (start : Nat) : Nat → List SetItem → Reader (List SetItem)
  | 0, _ => failAt .unterminatedSet start
  | fuel + 1, acc => do
    match ← take with
    | none => failAt .unterminatedSet start
    | some this =>
      if this = [']'] ∧ acc ≠ [] then return acc
      else
        let shown ← textBefore this.length
        let first ← setMember this
        if ← accept '-' then
          match ← take with
          | none => failAt .unterminatedSet start
          | some [']'] => return acc ++ [first, .point '-'.toNat]
          | some that =>
            let bad := Cause.badRange shown (← textBefore that.length)
            let last ← setMember that
            match first, last with
            | .point low, .point high =>
              if high < low then failBack bad (this.length + 1 + that.length)
              else setMembers start fuel (acc ++ [.range low high])
            | _, _ => failBack bad (this.length + 1 + that.length)
        else setMembers start fuel (acc ++ [first])

/-- A set: its opening bracket has been taken. -/
def characterSet : Reader Node := do
  let options := (← get).options
  let start := (← tell) - 1
  let negated ← accept '^'
  let members ← setMembers start ((← get).rest.length + 1) []
  return .set options.caseRule options.asciiOnly negated members

/-! ## Repetitions -/

/-- Counts at or above this one are refused. -/
def countLimit : Nat := 4294967295

/-- A bound of a repetition. -/
def readCount (digits : List Char) : Reader Nat := do
  let n := digitsValue digits
  if countLimit ≤ n then throw .countTooLarge else return n

/-- The bounds between braces: the opening brace has been taken.  Without well-formed bounds the
brace stands for itself. -/
def readBounds : Reader (Option (Nat × Option Nat)) := do
  let saved ← get
  let here ← tell
  if (← peek) = some ['\x7d'] then return none
  else
    let low ← takeDigits
    let high ← if ← accept ',' then takeDigits else pure low
    if !(← accept '\x7d') then
      set saved
      return none
    else
      let least ← if low = [] then pure 0 else readCount low
      if high = [] then return some (least, none)
      else
        let most ← readCount high
        if most < least then failAt .countsReversed here
        else return some (least, some most)

/-- The bounds of a repetition whose sign has been taken, if it is one. -/
def readQuantifier : Char → Reader (Option (Nat × Option Nat))
  | '?' => return some (0, some 1)
  | '*' => return some (0, none)
  | '+' => return some (1, none)
  | _ => readBounds

/-- What a repetition of a node repeats: the body of a group without number, else the node. -/
def repeatedBody : Node → List Node
  | .group none body => body
  | n => [n]

/-- How a repetition chooses its count, from the sign after it. -/
def readGreed : Reader Greed := do
  if ← accept '?' then return .lazy
  else if ← accept '+' then return .possessive
  else return .greedy

/-- Puts a repetition in the place of the last node; the sign stands at an index. -/
def repeatLast (sign : Nat) (bounds : Nat × Option Nat) : List Node → Reader (List Node)
  | [] => failAt .nothingToRepeat sign
  | .anchor _ :: _ => failAt .nothingToRepeat sign
  | .repetition .. :: _ => failAt .repeatedTwice sign
  | last :: before => do
    return .repetition (← readGreed) bounds.1 bounds.2 (repeatedBody last) :: before

/-! ## Options -/

/-- The options switched on, up to the character that ends them: the options, and that character. -/
def optionsOn : Nat → Options → Char → Reader (Options × Char)
  | 0, _, _ => failBack .missingOptionEnd 0
  | fuel + 1, on, letter => do
    if letter = 'L' then failBack .localeOption 0
    else
      let option := (Options.ofLetter? letter).getD {}
      let on := on.union option
      if option.choosesType && on.ascii && on.unicode then failBack .incompatibleOptions 0
      else
        match ← take with
        | none => failBack .missingOptionEnd 0
        | some token =>
          match token with
          | [c] =>
            if c = ')' ∨ c = '-' ∨ c = ':' then return (on, c)
            else if (Options.ofLetter? c).isSome || c = 'L' then optionsOn fuel on c
            else failBack (if isLetter c.toNat then .unknownOption else .missingOptionEnd) 1
          | _ => failBack .missingOptionEnd token.length

/-- The options switched off, up to the colon. -/
def optionsOff : Nat → Options → Char → Reader Options
  | 0, _, _ => failBack .missingColon 0
  | fuel + 1, off, letter => do
    let option := (Options.ofLetter? letter).getD {}
    if option.choosesType || letter = 'L' then failBack .typeOptionOff 0
    else
      let off := off.union option
      match ← take with
      | none => failBack .missingColon 0
      | some [':'] => return off
      | some [c] =>
        if (Options.ofLetter? c).isSome || c = 'L' then optionsOff fuel off c
        else failBack (if isLetter c.toNat then .unknownOption else .missingColon) 1
      | some token => failBack .missingColon token.length

/-- What a group that opens with options switches: the whole pattern, or itself. -/
inductive Switch where
  | whole (on : Options)
  | inside (on off : Options)

/-- The options at the front of a group: their first character has been taken. -/
def readSwitch (first : Char) : Reader Switch := do
  let fuel := (← get).rest.length + 1
  let (on, ending) ← if first = '-' then pure ({}, '-') else optionsOn fuel {} first
  if ending = ')' then return .whole on
  else if on.template then failBack .globalOptionOn 1
  else if ending = ':' then return .inside on {}
  else
    match ← take with
    | none => failBack .missingOption 0
    | some [c] =>
      if (Options.ofLetter? c).isSome || c = 'L' then
        let off ← optionsOff fuel {} c
        if off.template then failBack .globalOptionOff 1
        else if on.common off ≠ {} then failBack .optionOnAndOff 1
        else return .inside on off
      else failBack (if isLetter c.toNat then .unknownOption else .missingOption) 1
    | some token => failBack .missingOption token.length

/-! ## Groups -/

/-- What the front of a group says. -/
inductive GroupHead where
  | capture (name : Option (List Char))
  | plain (options : Options)
  | atomic
  | look (behind negated : Bool)
  | conditional (index : Nat)
  /-- Nothing more to read: a comment, options of the whole, or a reference. -/
  | complete (node : Option Node)

/-- The name of a group, which has to be an identifier. -/
def groupName (terminator : Char) : Reader (List Char) := do
  let name ← takeName terminator "group name"
  if isIdentifier name then return name
  else failBack (.badGroupName (← textBefore name.length 1)) (name.length + 1)

/-- A reference to a group by name. -/
def namedReference : Reader Node := do
  let name ← groupName ')'
  let s ← get
  match s.names.lookup (String.ofList name) with
  | none => failBack (.unknownGroup (String.ofList name)) (name.length + 1)
  | some index =>
    if (s.widths[index]?.getD none).isNone then failBack .openGroup (name.length + 1)
    else
      checkBehind index
      return .backReference s.options.caseRule index

/-- Numbers of groups at or above this one are refused at once. -/
def groupLimit : Nat := 1073741823

/-- The number of a group in a condition, in the lenient notation of integers. -/
def conditionNumber? (name : List Char) : Option Nat :=
  match integerLiteral 10 (name.map Char.toNat) with
  | .ok (.ofNat n) => some n
  | _ => none

/-- The group that a condition asks for. -/
def conditionGroup : Reader Nat := do
  let name ← takeName ')' "group name"
  let s ← get
  if isIdentifier name then
    match s.names.lookup (String.ofList name) with
    | none => failBack (.unknownGroup (String.ofList name)) (name.length + 1)
    | some index => return index
  else
    match conditionNumber? name with
    | none => failBack (.badGroupName (← textBefore name.length 1)) (name.length + 1)
    | some 0 => failBack .groupNumberZero (name.length + 1)
    | some index =>
      if groupLimit ≤ index then failBack (.invalidReference index) (name.length + 1)
      let mention := (← tell) - name.length - 1
      if s.asked.all fun a => a.1 ≠ index then
        modify fun s => { s with asked := s.asked ++ [(index, mention)] }
      return index

/-- Skips a comment; `start` is the index of its group. -/
def skipComment (start : Nat) : Nat → Reader Unit
  | 0 => failAt .unterminatedComment start
  | fuel + 1 => do
    match ← take with
    | none => failAt .unterminatedComment start
    | some [')'] => return ()
    | some _ => skipComment start fuel

/-- The front of a group after its question mark. -/
def extendedHead (start : Nat) (atStart : Bool) : Reader GroupHead := do
  match ← take with
  | none => failBack .unexpectedEnd 0
  | some ['P'] =>
    if ← accept '<' then return .capture (some (← groupName '>'))
    else if ← accept '=' then return .complete (some (← namedReference))
    else
      match ← take with
      | none => failBack .unexpectedEnd 0
      | some token =>
        failBack (.unknownExtension ("P" ++ (← textBefore token.length))) (token.length + 2)
  | some [':'] => return .plain (← get).options
  | some ['#'] =>
    skipComment start ((← get).rest.length + 1)
    return .complete none
  | some ['='] => return .look false false
  | some ['!'] => return .look false true
  | some ['<'] =>
    match ← take with
    | none => failBack .unexpectedEnd 0
    | some ['='] => return .look true false
    | some ['!'] => return .look true true
    | some token =>
      failBack (.unknownExtension ("<" ++ (← textBefore token.length))) (token.length + 2)
  | some ['('] =>
    let index ← conditionGroup
    checkBehind index
    return .conditional index
  | some ['>'] => return .atomic
  | some token =>
    match token with
    | [c] =>
      if (Options.ofLetter? c).isSome || c = 'L' || c = '-' then
        match ← readSwitch c with
        | .whole on =>
          if !atStart then failAt .optionsNotAtStart start
          else
            modify fun s => { s with options := s.options.union on }
            return .complete none
        | .inside on off => return .plain ((← get).options.inside on off)
      else failBack (.unknownExtension (← textBefore 1)) 2
    | _ => failBack (.unknownExtension (← textBefore token.length)) (token.length + 1)

/-- The front of a group: its opening parenthesis, at an index, has been taken. -/
def groupHead (start : Nat) (atStart : Bool) : Reader GroupHead := do
  if ← accept '?' then extendedHead start atStart else return .capture none

/-- Opens a group with a number and perhaps a name. -/
def openGroup (name : Option (List Char)) : Reader Nat := do
  let s ← get
  let index := s.widths.length
  match name with
  | none => set { s with widths := s.widths ++ [none] }
  | some name =>
    let text := String.ofList name
    match s.names.lookup text with
    | some earlier => failBack (.redefinedGroup text index earlier) (name.length + 1)
    | none => set { s with widths := s.widths ++ [none], names := s.names ++ [(text, index)] }
  return index

/-- Closes a group. -/
def closeGroup (index : Nat) (body : List Node) : Reader Unit :=
  modify fun s => { s with widths := s.widths.set index (some (widthOfSequence s.widths body)) }

/-- Takes the closing parenthesis of the group that opened at an index. -/
def expectClose (start : Nat) : Reader Unit := do
  if ← accept ')' then return () else failAt .unterminatedGroup start

/-- Alternatives as a sequence: one alternative is that sequence. -/
def joinAlternatives : List (List Node) → List Node
  | [alternative] => alternative
  | alternatives => [.branch alternatives]

/-- Skips a comment that runs to the end of its line. -/
def skipLine : Nat → Reader Unit
  | 0 => return ()
  | fuel + 1 => do
    match ← take with
    | none => return ()
    | some ['\n'] => return ()
    | some _ => skipLine fuel

/-- True of the white space that a verbose pattern may hold. -/
def isPatternSpace (c : Char) : Bool :=
  c = ' ' || c = '\t' || c = '\n' || c = '\r' || c = '\x0b' || c = '\x0c'

mutual

/-- Alternatives parted by bars.  `outer` is true of the whole pattern. -/
def alternatives : Nat → Bool → List (List Node) → Reader (List Node)
  | 0, _, _ => failBack .unterminatedGroup 0
  | fuel + 1, outer, before => do
    let alternative ← sequence fuel (outer && before.isEmpty) []
    if ← accept '|' then alternatives fuel outer (before ++ [alternative])
    else return joinAlternatives (before ++ [alternative])

/-- A sequence up to a bar, a closing parenthesis or the end; the nodes read so far are given last
first.  `first` is true where options of the whole pattern may stand. -/
def sequence : Nat → Bool → List Node → Reader (List Node)
  | 0, _, _ => failBack .unterminatedGroup 0
  | fuel + 1, first, before => do
    match ← peek with
    | none => return before.reverse
    | some ['|'] => return before.reverse
    | some [')'] => return before.reverse
    | some token =>
      let _ ← take
      let options := (← get).options
      match token with
      | ['\\', c] => sequence fuel first ((← escape c) :: before)
      | [c] =>
        if options.verbose && isPatternSpace c then sequence fuel first before
        else if options.verbose && c = '#' then
          skipLine fuel
          sequence fuel first before
        else
          match c with
          | '.' => sequence fuel first (.anyChar options.dotAll :: before)
          | '^' =>
            let a := if options.multiline then Anchor.lineStart else .textStart
            sequence fuel first (.anchor a :: before)
          | '$' =>
            let a := if options.multiline then Anchor.lineEnd else .lastLineEnd
            sequence fuel first (.anchor a :: before)
          | '[' => sequence fuel first ((← characterSet) :: before)
          | '(' =>
            match ← group fuel ((← tell) - 1) (first && before.isEmpty) with
            | none => sequence fuel first before
            | some node => sequence fuel first (node :: before)
          | _ =>
            if c = '*' ∨ c = '+' ∨ c = '?' ∨ c = '\x7b' then
              let sign := (← tell) - 1
              match ← readQuantifier c with
              | none => sequence fuel first (.literal options.caseRule c.toNat :: before)
              | some bounds => sequence fuel first (← repeatLast sign bounds before)
            else sequence fuel first (.literal options.caseRule (← lastPoint) :: before)
      | _ => return before.reverse

/-- A group: its opening parenthesis, at an index, has been taken. -/
def group : Nat → Nat → Bool → Reader (Option Node)
  | 0, start, _ => failAt .unterminatedGroup start
  | fuel + 1, start, atStart => do
    match ← groupHead start atStart with
    | .complete node => return node
    | .capture name =>
      let index ← openGroup name
      let body ← alternatives fuel false []
      expectClose start
      closeGroup index body
      return some (.group (some index) body)
    | .plain options =>
      let outer := (← get).options
      modify fun s => { s with options }
      let body ← alternatives fuel false []
      expectClose start
      modify fun s => { s with options := outer }
      return some (.group none body)
    | .atomic =>
      let body ← alternatives fuel false []
      expectClose start
      return some (.atomic body)
    | .look behind negated =>
      let before := (← get).behindFrom
      if behind && before.isNone then
        modify fun s => { s with behindFrom := some s.widths.length }
      let body ← alternatives fuel false []
      if behind && before.isNone then modify fun s => { s with behindFrom := none }
      expectClose start
      return some (.look behind negated body)
    | .conditional index =>
      let yes ← sequence fuel false []
      let no ← if ← accept '|' then
          let no ← sequence fuel false []
          if (← peek) = some ['|'] then failBack .tooManyBranches 0 else pure no
        else pure []
      expectClose start
      return some (.conditional index yes no)

end

/-! ## Whole patterns -/

/-- Reads a whole pattern. -/
def readWhole : Reader (List Node) := do
  settle
  let fuel := 3 * (← get).size + 3
  let nodes ← alternatives fuel true []
  let s ← get
  if s.options.ascii && s.options.unicode then throw .conflictingOptions
  if s.rest ≠ [] then failBack .unbalanced 0
  match s.asked.find? fun a => s.widths.length ≤ a.1 with
  | some (index, mention) => failAt (.invalidReference index) mention
  | none =>
    if allFixed s.widths nodes then return nodes
    else throw (.malformed .lookBehindWidth none)

end FormEngine.Pattern

namespace FormEngine

/-- Reads a pattern. -/
def Pattern.read (source : Text) : Except Pattern.Fault Pattern :=
  let cs := source.glyphs
  let start : Pattern.Reading :=
    { points := source.points, size := cs.length, rest := cs, options := {}, names := [],
      widths := [none], behindFrom := none, asked := [] }
  (Pattern.readWhole.run start).map fun (nodes, s) => ⟨source, nodes, s.widths⟩

end FormEngine
