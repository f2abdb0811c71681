import FormEngine.Text.Encoding
import FormEngine.Yaml.Place
import FormEngine.Yaml.Token

/-!
# Directives, anchors and tags

Reading the tokens that open with `%`, `&`, `*` and `!`.  Each reader stands on the character that
opens its token and gives the token with the place after it.
-/

namespace FormEngine.Yaml

/-- The fault of a text that violates the grammar. -/
def malformed {α : Type} : Except Fault α := .error .malformed

/-- Goes on only if a condition holds. -/
def require (condition : Bool) : Except Fault Unit := if condition then .ok () else malformed

/-- The octets of a run of percent escapes; `fuel` bounds their number. -/
def percentOctets : Nat → Place → Except Fault (List UInt8 × Place)
  | 0, p => .ok ([], p)
  | fuel + 1, p =>
    match p.rest with
    | '%' :: a :: b :: _ =>
      match hexDigit? a, hexDigit? b with
      | some x, some y => do
        let (octets, p) ← percentOctets fuel (p.advance 3)
        return (UInt8.ofNat (16 * x + y) :: octets, p)
      | _, _ => malformed
    | '%' :: _ => malformed
    | _ => .ok ([], p)

/-- The characters of a run of percent escapes, which encode UTF-8. -/
def percentChars (p : Place) : Except Fault (List Char × Place) := do
  let (octets, p) ← percentOctets p.rest.length p
  match decodeUtf8 false octets with
  | .ok points => return (points.map Char.ofNat, p)
  | .error _ => malformed

/-- The characters of a tag, escapes resolved; `fuel` bounds the runs. -/
def tagChars : Nat → Place → Except Fault (List Char × Place)
  | 0, p => .ok ([], p)
  | fuel + 1, p =>
    let (run, p) := p.takeWhile fun c => isTagChar c && c ≠ '%'
    if p.peek = some '%' then do
      let (escaped, p) ← percentChars p
      let (rest, p) ← tagChars fuel p
      return (run ++ escaped ++ rest, p)
    else .ok (run, p)

/-- The characters of a tag, at least one of them. -/
def tagText (p : Place) : Except Fault (String × Place) := do
  require (p.peek.any isTagChar)
  let (cs, p) ← tagChars (p.rest.length + 1) p
  return (String.ofList cs, p)

/-- A tag handle: an exclamation mark, or a name between two. -/
def tagHandle (p : Place) : Except Fault (String × Place) := do
  require (p.peek = some '!')
  if p.ahead 1 = some ' ' then return ("!", p.next)
  let (name, p) := p.next.takeWhile isNameChar
  require (p.peek = some '!')
  return (String.ofList ('!' :: name ++ ['!']), p.next)

/-- A number of a version. -/
def versionNumber (p : Place) : Except Fault (Nat × Place) := do
  let (digits, p) := p.takeWhile isAsciiDigit
  require (!digits.isEmpty)
  if digitLimit < digits.length then .error (.literal (.tooManyDigits digits.length))
  else return (digitsValue digits, p)

/-- What a directive says, the place standing after its name. -/
def directiveValue (name : String) (p : Place) : Except Fault (Directive × Place) := do
  if name = "YAML" then
    let (major, p) ← versionNumber p.skipSpaces
    require (p.peek = some '.')
    let (_, p) ← versionNumber p.next
    require (endsWord p.peek)
    return (.version major, p)
  else if name = "TAG" then
    let (handle, p) ← tagHandle p.skipSpaces
    require (p.peek = some ' ')
    let (expansion, p) ← tagText p.skipSpaces
    require (endsWord p.peek)
    return (.tagHandle handle expansion, p)
  else
    return (.other, p.skipWhile (!isBreak ·))

/-- The place after the rest of a line that holds nothing but a comment. -/
def restOfLine (p : Place) : Except Fault Place := do
  let p := p.skipSpaces.skipComment
  require (endsLine p.peek)
  return p.skipBreak

/-- A directive with its line. -/
def directive (p : Place) : Except Fault (Token × Place) := do
  let (name, p) := p.next.takeWhile isNameChar
  require (!name.isEmpty && endsWord p.peek)
  let (d, p) ← directiveValue (String.ofList name) p
  return (.directive d, ← restOfLine p)

/-- True of the characters that may follow an anchor or an alias. -/
def endsAnchor (c : Option Char) : Bool :=
  endsToken c || c.any ("?:,]\x7d%@\x60".toList.contains ·)

/-- The name of an anchor or an alias. -/
def anchorName (p : Place) : Except Fault (String × Place) := do
  let (name, p) := p.next.takeWhile isNameChar
  require (!name.isEmpty && endsAnchor p.peek)
  return (String.ofList name, p)

/-- Whether an exclamation mark that closes a handle comes before the end of the word; the place
stands after the mark that opens the tag. -/
def hasHandle (p : Place) : Bool :=
  p.rest.find? (fun c => c = '!' || c = ' ' || isBreak c) = some '!'

/-- A tag. -/
def tag (p : Place) : Except Fault (Token × Place) := do
  let (token, p) ←
    if p.ahead 1 = some '<' then do
      let (text, p) ← tagText (p.advance 2)
      require (p.peek = some '>')
      pure (Token.tag none text, p.next)
    else if endsToken (p.ahead 1) then pure (Token.tag none "!", p.next)
    else do
      let (handle, p) ← if hasHandle p.next then tagHandle p else pure ("!", p.next)
      let (text, p) ← tagText p
      pure (Token.tag (some handle) text, p)
  require (endsWord p.peek)
  return (token, p)

end FormEngine.Yaml
