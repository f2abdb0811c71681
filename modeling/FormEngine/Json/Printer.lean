import FormEngine.Text.Encoding
import FormEngine.Value.Display

/-!
# Printing JSON

`Json.render` writes a value as JSON text in ASCII.  Values that JSON cannot say are written as the
nearest thing it can: byte strings and dates as text, collections as arrays, keys that are no text
as the text that messages show.
-/

namespace FormEngine.Json

/-- One code point inside a string. -/
def escapePoint (n : Nat) : List Char :=
  if n = 0x22 then ['\\', '"']
  else if n = 0x5C then ['\\', '\\']
  else if 0x20 ≤ n ∧ n < 0x7F then [Char.ofNat n]
  else if n < 0x10000 then '\\' :: 'u' :: hexPadded 4 n
  else
    let high := 0xD800 + (n - 0x10000) / 0x400
    let low := 0xDC00 + (n - 0x10000) % 0x400
    '\\' :: 'u' :: hexPadded 4 high ++ '\\' :: 'u' :: hexPadded 4 low

/-- Appends a string literal. -/
def writePoints (out : String) (points : List Nat) : String :=
  (points.foldl (fun out n => (escapePoint n).foldl String.push out) (out.push '"')).push '"'

/-- Appends a string literal. -/
def writeText (out : String) (s : String) : String :=
  writePoints out (s.toList.map Char.toNat)

/-- The text of a binary64 number; those that are no decimals have names. -/
def numberText : Double → String
  | .nan => "NaN"
  | .infinite negative => if negative then "-Infinity" else "Infinity"
  | x => x.render

mutual

/-- Appends a value. -/
def write (out : String) : Value → String
  | .null => out ++ "null"
  | .bool b => out ++ (if b then "true" else "false")
  | .int i => out ++ toString i
  | .float x => out ++ numberText x
  | .text t => writePoints out t.points
  | .bytes octets => writeText out (quotedOctets octets)
  | .date d => writeText out d.render
  | .dateTime t => writeText out t.render
  | .list items => (writeItems (out.push '[') true items).push ']'
  | .tuple items => (writeItems (out.push '[') true items).push ']'
  | .set items => (writeItems (out.push '[') true items).push ']'
  | .map entries => (writeMembers (out.push '\x7b') true entries).push '\x7d'
  | .prepared _ description => write out description

/-- Appends items, each but the first after a comma. -/
def writeItems (out : String) (first : Bool) : List Value → String
  | [] => out
  | v :: vs => writeItems (write (if first then out else out.push ',') v) false vs

/-- Appends members, each but the first after a comma. -/
def writeMembers (out : String) (first : Bool) : List (Value × Value) → String
  | [] => out
  | (k, v) :: es =>
    let out := if first then out else out.push ','
    let out := writePoints out k.plain.points
    writeMembers (write (out.push ':') v) false es

end

/-- A value as JSON text. -/
def render (v : Value) : String := write "" v

end FormEngine.Json
