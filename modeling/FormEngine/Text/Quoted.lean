import FormEngine.Text.Basic
import FormEngine.Text.Printable

/-!
# Quoted text

Text between quotes, as messages show it.  The quotes are single unless the text holds a single and
no double one; backslashes and the quote itself are escaped; line feed, carriage return and tab have
letters; every other character that is not printable is written by its code.
-/

namespace FormEngine

/-- Hexadecimal digits of a number, at least `width` of them. -/
def hexPadded (width n : Nat) : List Char :=
  let digits := Nat.toDigits 16 n
  List.replicate (width - digits.length) '0' ++ digits

/-- One code point between quotes. -/
def quotedPoint (quote : Char) (n : Nat) : List Char :=
  if n = 0x5C then ['\\', '\\']
  else if n = quote.toNat then ['\\', quote]
  else if n = 0x0A then ['\\', 'n']
  else if n = 0x0D then ['\\', 'r']
  else if n = 0x09 then ['\\', 't']
  else if 0x20 ≤ n ∧ n < 0x7F then [Char.ofNat n]
  else if isPrintable n then [Char.ofNat n]
  else if n < 0x100 then '\\' :: 'x' :: hexPadded 2 n
  else if n < 0x10000 then '\\' :: 'u' :: hexPadded 4 n
  else '\\' :: 'U' :: hexPadded 8 n

/-- The quote to use around a text. -/
def quoteFor (points : List Nat) : Char :=
  if points.contains 0x27 && !points.contains 0x22 then '"' else '\''

/-- A text between quotes, given by its code points. -/
def quotedPoints (points : List Nat) : String :=
  let quote := quoteFor points
  String.ofList (quote :: points.flatMap (quotedPoint quote) ++ [quote])

/-- A text between quotes. -/
def quoted (t : Text) : String := quotedPoints t.points

/-- One octet between quotes. -/
def quotedOctet (quote : Char) (n : Nat) : List Char :=
  if n = 0x5C then ['\\', '\\']
  else if n = quote.toNat then ['\\', quote]
  else if n = 0x0A then ['\\', 'n']
  else if n = 0x0D then ['\\', 'r']
  else if n = 0x09 then ['\\', 't']
  else if 0x20 ≤ n ∧ n < 0x7F then [Char.ofNat n]
  else '\\' :: 'x' :: hexPadded 2 n

/-- A byte string between quotes, marked by a `b`. -/
def quotedOctets (octets : List UInt8) : String :=
  let points := octets.map UInt8.toNat
  let quote := quoteFor points
  String.ofList ('b' :: quote :: points.flatMap (quotedOctet quote) ++ [quote])

end FormEngine
