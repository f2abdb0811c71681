import FormEngine.Text.Ascii

/-!
# Email addresses

`isEmailAddress` accepts the addresses whose local part and domain are written in ASCII letters,
digits and a few marks.  One line feed may follow the address.

* The local part holds letters, digits, `_`, `'`, `+`, `-` and `.`; it does not start with a dot,
  has no two dots in a row, and ends with neither a dot nor an apostrophe.
* The domain is one or more labels, each followed by a dot, and then at least two letters.
-/

namespace FormEngine.Email

/-- True of ASCII letters and digits. -/
def isAlphanumeric (c : Char) : Bool := isAsciiLetter c || isAsciiDigit c

/-- True of the characters of a local part. -/
def isLocalChar (c : Char) : Bool :=
  isAlphanumeric c || c = '_' || c = '\'' || c = '+' || c = '-' || c = '.'

/-- Whether two dots stand next to each other. -/
def hasDoubleDot : List Char → Bool
  | '.' :: '.' :: _ => true
  | _ :: cs => hasDoubleDot cs
  | [] => false

/-- Whether a text is a local part. -/
def isLocalPart (cs : List Char) : Bool :=
  cs.all isLocalChar && cs.head? ≠ some '.' && !hasDoubleDot cs
    && cs.getLast?.any fun c => c ≠ '.' && c ≠ '\''

/-- Whether a text is a label of a domain: a letter or digit, then letters, digits and hyphens. -/
def isLabel : List Char → Bool
  | [] => false
  | c :: cs => isAlphanumeric c && cs.all fun c => isAlphanumeric c || c = '-'

/-- The stretches of a text between dots. -/
def labels : List Char → List (List Char)
  | [] => [[]]
  | c :: cs =>
    if c = '.' then [] :: labels cs
    else match labels cs with
      | [] => [[c]]
      | label :: rest => (c :: label) :: rest

/-- Whether a text is the last part of a domain: two letters or more. -/
def isTopLevel (cs : List Char) : Bool := 2 ≤ cs.length && cs.all isAsciiLetter

/-- Whether a text is a domain. -/
def isDomain (cs : List Char) : Bool :=
  match (labels cs).reverse with
  | last :: before => before ≠ [] && before.all isLabel && isTopLevel last
  | [] => false

/-- Whether a text is a local part, `@`, and a domain. -/
def isAddress (cs : List Char) : Bool :=
  match cs.span (· ≠ '@') with
  | (localPart, _ :: domain) => isLocalPart localPart && isDomain domain
  | (_, []) => false

/-- A text without the line feed at its end, if there is one. -/
def withoutFinalLineFeed (cs : List Char) : List Char :=
  if cs.getLast? = some '\n' then cs.dropLast else cs

end FormEngine.Email

namespace FormEngine

/-- Whether a text is an email address, perhaps followed by a line feed. -/
def isEmailAddress (text : String) : Bool :=
  Email.isAddress (Email.withoutFinalLineFeed text.toList)

end FormEngine
