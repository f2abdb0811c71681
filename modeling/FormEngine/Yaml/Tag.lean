import FormEngine.Yaml.Place

/-!
# Tags

A tag says what a node stands for.  `Tag.ofText` knows the tags of the standard types by their full
names.  A plain scalar without a tag has the one that its text resolves to, `Tag.ofPlain`: the words
for booleans and null, integers in four bases and in base 60, numbers with a point, dates and
moments, the mark `<<` of a merge and the mark `=` of a default value; all other text is text.
-/

namespace FormEngine.Yaml

/-- What a node stands for. -/
inductive Tag where
  | null
  | bool
  | int
  | float
  | bytes
  | moment
  | text
  | sequence
  | mapping
  | set
  | pairs
  | orderedMapping
  /-- As a key: the entries of the value are merged into the mapping. -/
  | merge
  /-- As a key: the value stands for the mapping where a scalar is wanted. -/
  | defaultValue
  | unknown
deriving DecidableEq, Repr

/-- What the full names of the standard tags begin with. -/
def standardTagStart : String := "tag:yaml.org,2002:"

/-- The standard tags by the rest of their names. -/
def standardTags : List (String × Tag) :=
  [("null", .null), ("bool", .bool), ("int", .int), ("float", .float), ("binary", .bytes),
   ("timestamp", .moment), ("str", .text), ("seq", .sequence), ("map", .mapping), ("set", .set),
   ("pairs", .pairs), ("omap", .orderedMapping), ("merge", .merge), ("value", .defaultValue)]

/-- The tag of a full name. -/
def Tag.ofText (name : String) : Tag :=
  ((standardTags.find? fun t => name = standardTagStart ++ t.1).map (·.2)).getD .unknown

/-! ## The forms of plain scalars

The functions that take a list of characters and give a list are readers of part of a form: they
give what is left of the text. -/

/-- The words for booleans. -/
def booleanWords : List (String × Bool) :=
  [("yes", true), ("no", false), ("true", true), ("false", false), ("on", true), ("off", false)]

/-- A word in small letters, in capitals, or with a capital in front. -/
def isWordForm (word : String) (cs : List Char) : Bool :=
  let capital := word.toList.map Char.toUpper
  cs = word.toList || cs = capital || cs = capital.take 1 ++ word.toList.drop 1

/-- True of digits and underscores. -/
def isGroupedDigit (c : Char) : Bool := isAsciiDigit c || c = '_'

/-- What follows an optional sign. -/
def afterSign (cs : List Char) : List Char := (takeSign cs).2

/-- What follows a nonempty run of characters of a class. -/
def afterRun? (test : Char → Bool) (cs : List Char) : Option (List Char) :=
  match cs with
  | c :: _ => if test c then some (cs.dropWhile test) else none
  | [] => none

/-- Whether a text is a nonempty run of characters of a class. -/
def isRun (test : Char → Bool) (cs : List Char) : Bool := afterRun? test cs = some []

/-- What follows a digit and any digits and underscores. -/
def afterDigits? : List Char → Option (List Char)
  | c :: cs => if isAsciiDigit c then some (cs.dropWhile isGroupedDigit) else none
  | [] => none

/-- What follows all parts of a number in base 60 but the first, each of one or two digits below 60
after a colon; `fuel` bounds the parts. -/
def afterSixtieths : Nat → List Char → List Char
  | 0, cs => cs
  | fuel + 1, cs =>
    match cs with
    | ':' :: a :: b :: rest =>
      if '0' ≤ a ∧ a ≤ '5' ∧ isAsciiDigit b then afterSixtieths fuel rest
      else if isAsciiDigit a then afterSixtieths fuel (b :: rest)
      else cs
    | [':', a] => if isAsciiDigit a then [] else cs
    | _ => cs

/-- What follows the parts of a number in base 60 after the first, at least one of them. -/
def afterSixtieths? (cs : List Char) : Option (List Char) :=
  let rest := afterSixtieths cs.length cs
  if rest.length < cs.length then some rest else none

/-- Whether a text is an exponent with its sign, or nothing. -/
def isSignedExponent : List Char → Bool
  | [] => true
  | e :: sign :: digits =>
    (e = 'e' || e = 'E') && (sign = '+' || sign = '-') && isRun isAsciiDigit digits
  | _ => false

/-- Whether a text is an integer: binary, octal, hexadecimal, decimal, or in base 60. -/
def isIntegerForm (cs : List Char) : Bool :=
  match afterSign cs with
  | ['0'] => true
  | '0' :: 'b' :: digits => isRun (fun c => c = '0' || c = '1' || c = '_') digits
  | '0' :: 'x' :: digits => isRun (fun c => (hexDigit? c).isSome || c = '_') digits
  | '0' :: digits => isRun (fun c => ('0' ≤ c && c ≤ '7') || c = '_') digits
  | unsigned =>
    match afterDigits? unsigned with
    | none => false
    | some [] => true
    | some rest => afterSixtieths? rest = some []

/-- Whether a text is a number with a point: decimal with a signed exponent or none, in base 60 with
a fraction, an infinity, or not a number. -/
def isPointForm (cs : List Char) : Bool :=
  let unsigned := afterSign cs
  let decimal := match afterDigits? unsigned with
    | some ('.' :: rest) => isSignedExponent (rest.dropWhile isGroupedDigit)
    | _ => false
  let fraction := match cs with
    | '.' :: rest => (afterDigits? rest).any isSignedExponent
    | _ => false
  let sixtieths := match (afterDigits? unsigned).bind afterSixtieths? with
    | some ('.' :: rest) => rest.all isGroupedDigit
    | _ => false
  let infinite := match unsigned with
    | '.' :: word => isWordForm "inf" word
    | _ => false
  let notNumber := match cs with
    | '.' :: word => ["nan", "NaN", "NAN"].any fun w => word = w.toList
    | _ => false
  decimal || fraction || sixtieths || infinite || notNumber

/-! ## Moments -/

/-- A point in time as it is written: each part by its digits. -/
structure MomentForm where
  year : List Char
  month : List Char
  day : List Char
  time : Option (List Char × List Char × List Char × List Char)
  /-- The offset: none, the sign `Z`, or a sign with hours and minutes. -/
  zone : Option (Option (Bool × List Char × List Char))
deriving DecidableEq, Repr

/-- Between `least` and `most` digits, as many as there are, and what follows them. -/
def digitsBetween? (least most : Nat) (cs : List Char) : Option (List Char × List Char) :=
  let digits := (cs.take most).takeWhile isAsciiDigit
  if least ≤ digits.length then some (digits, cs.drop digits.length) else none

/-- What follows a character. -/
def after? (c : Char) : List Char → Option (List Char)
  | d :: cs => if c = d then some cs else none
  | [] => none

/-- True of spaces and tabs. -/
def isGapChar (c : Char) : Bool := c = ' ' || c = '\t'

/-- An offset, or nothing. -/
def zoneForm? (cs : List Char) : Option (Option (Option (Bool × List Char × List Char))) :=
  match cs with
  | [] => some none
  | _ =>
    match cs.dropWhile isGapChar with
    | ['Z'] => some (some none)
    | sign :: rest =>
      if sign = '+' ∨ sign = '-' then do
        let (hour, rest) ← digitsBetween? 1 2 rest
        match rest with
        | [] => some (some (some (sign = '-', hour, [])))
        | _ => do
          let (minute, rest) ← digitsBetween? 2 2 (← after? ':' rest)
          if rest = [] then some (some (some (sign = '-', hour, minute))) else none
      else none
    | [] => none

/-- A date, or a date and a time with a fraction of the second and an offset or without. -/
def momentForm? (cs : List Char) : Option MomentForm := do
  let (year, rest) ← digitsBetween? 4 4 cs
  let (month, rest) ← digitsBetween? 1 2 (← after? '-' rest)
  let (day, rest) ← digitsBetween? 1 2 (← after? '-' rest)
  match rest with
  | [] => some ⟨year, month, day, none, none⟩
  | c :: after => do
    let rest ← if c = 'T' ∨ c = 't' then some after
      else if isGapChar c then some (after.dropWhile isGapChar) else none
    let (hour, rest) ← digitsBetween? 1 2 rest
    let (minute, rest) ← digitsBetween? 2 2 (← after? ':' rest)
    let (second, rest) ← digitsBetween? 2 2 (← after? ':' rest)
    let (fraction, rest) := match rest with
      | '.' :: rest => rest.span isAsciiDigit
      | _ => ([], rest)
    let zone ← zoneForm? rest
    some ⟨year, month, day, some (hour, minute, second, fraction), zone⟩

/-- Whether a plain text is a point in time: month and day of a mere date have two digits. -/
def isMomentForm (cs : List Char) : Bool :=
  (momentForm? cs).any fun m => m.time.isSome || (m.month.length = 2 && m.day.length = 2)

/-! ## Resolution -/

/-- A text without one line feed at its end, which the forms of scalars overlook. -/
def withoutFinalBreak (cs : List Char) : List Char :=
  if cs.getLast? = some '\n' ∧ 1 < cs.length then cs.dropLast else cs

/-- The tag that a plain text resolves to. -/
def Tag.ofPlain (text : List Char) : Tag :=
  let cs := withoutFinalBreak text
  if booleanWords.any fun w => isWordForm w.1 cs then .bool
  else if isPointForm cs then .float
  else if isIntegerForm cs then .int
  else if cs = ['<', '<'] then .merge
  else if cs = [] || cs = ['~'] || isWordForm "null" cs then .null
  else if isMomentForm cs then .moment
  else if cs = ['='] then .defaultValue
  else if cs = ['!'] || cs = ['&'] || cs = ['*'] then .unknown
  else .text

end FormEngine.Yaml
