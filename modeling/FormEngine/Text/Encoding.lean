import FormEngine.Text.Quoted

/-!
# Encoded text

Octets to code points: UTF-8, UTF-16 and UTF-32, and the guess at the encoding of a document from
its first octets.  Each decoder stops at the first octets that encode nothing and reports where and
why.  Surrogates encoded as if they were characters are refused or passed through, as the caller
asks.
-/

namespace FormEngine

/-- The encodings a document may have.  In `utf16` and `utf32` the order of octets is given. -/
inductive Encoding where
  | utf8
  | utf16 (bigEndian : Bool)
  | utf32 (bigEndian : Bool)
deriving DecidableEq, Repr

/-- The name of an encoding in messages. -/
def Encoding.name : Encoding → String
  | .utf8 => "utf-8"
  | .utf16 bigEndian => if bigEndian then "utf-16-be" else "utf-16-le"
  | .utf32 bigEndian => if bigEndian then "utf-32-be" else "utf-32-le"

/-- Why octets encode nothing. -/
inductive EncodingCause where
  | invalidStart
  | invalidContinuation
  | unexpectedEnd
  | truncated
  | surrogate
  | beyondRange
deriving DecidableEq, Repr

/-- The text of a cause. -/
def EncodingCause.message : EncodingCause → String
  | .invalidStart => "invalid start byte"
  | .invalidContinuation => "invalid continuation byte"
  | .unexpectedEnd => "unexpected end of data"
  | .truncated => "truncated data"
  | .surrogate => "code point in surrogate code point range(0xd800, 0xe000)"
  | .beyondRange => "code point not in range(0x110000)"

/-- Octets that encode nothing: where they start, which they are, and why. -/
structure EncodingFault where
  encoding : Encoding
  position : Nat
  octets : List UInt8
  cause : EncodingCause
deriving DecidableEq, Repr

/-- The text of a fault: a single octet is shown, several are counted. -/
def EncodingFault.message (f : EncodingFault) : String :=
  let culprit := match f.octets with
    | [octet] => "byte 0x" ++ String.ofList (hexPadded 2 octet.toNat) ++ " in position "
        ++ toString f.position
    | octets => "bytes in position " ++ toString f.position ++ "-"
        ++ toString (f.position + octets.length - 1)
  "'" ++ f.encoding.name ++ "' codec can't decode " ++ culprit ++ ": " ++ f.cause.message

/-! ## UTF-8 -/

/-- What may follow the first octet of a character: its payload, and the range of each further
octet.  Overlong forms, surrogates and code points beyond the last are left out. -/
def utf8Lead? (octet : Nat) : Option (Nat × List (Nat × Nat)) :=
  let tail := (0x80, 0xBF)
  if octet < 0x80 then some (octet, [])
  else if octet < 0xC2 then none
  else if octet < 0xE0 then some (octet - 0xC0, [tail])
  else if octet = 0xE0 then some (0, [(0xA0, 0xBF), tail])
  else if octet = 0xED then some (0xD, [(0x80, 0x9F), tail])
  else if octet < 0xF0 then some (octet - 0xE0, [tail, tail])
  else if octet = 0xF0 then some (0, [(0x90, 0xBF), tail, tail])
  else if octet < 0xF4 then some (octet - 0xF0, [tail, tail, tail])
  else if octet = 0xF4 then some (4, [(0x80, 0x8F), tail, tail])
  else none

/-- Reads the further octets of a character: its code point and what follows, or the number of good
octets and whether the input ended. -/
def utf8Tail : Nat → Nat → List (Nat × Nat) → List UInt8 → Except (Nat × Bool) (Nat × List UInt8)
  | point, _, [], rest => .ok (point, rest)
  | _, good, _ :: _, [] => .error (good, true)
  | point, good, (low, high) :: ranges, octet :: rest =>
    if low ≤ octet.toNat ∧ octet.toNat ≤ high then
      utf8Tail (point * 0x40 + (octet.toNat - 0x80)) (good + 1) ranges rest
    else .error (good, false)

/-- A surrogate encoded in three octets as if it were a character. -/
def utf8Surrogate? : List UInt8 → Option (Nat × List UInt8)
  | a :: b :: c :: rest =>
    if a.toNat = 0xED ∧ 0xA0 ≤ b.toNat ∧ b.toNat ≤ 0xBF ∧ 0x80 ≤ c.toNat ∧ c.toNat ≤ 0xBF then
      some (0xD000 + (b.toNat - 0x80) * 0x40 + (c.toNat - 0x80), rest)
    else none
  | _ => none

/-- Reads the first character of a nonempty sequence of octets. -/
def utf8Next (surrogates : Bool) (position : Nat) (octet : UInt8) (rest : List UInt8) :
    Except EncodingFault (Nat × List UInt8) :=
  let all := octet :: rest
  let surrogate? := if surrogates then utf8Surrogate? all else none
  match surrogate? with
  | some found => .ok found
  | none =>
    match utf8Lead? octet.toNat with
    | none => .error ⟨.utf8, position, [octet], .invalidStart⟩
    | some (payload, ranges) =>
      match utf8Tail payload 0 ranges rest with
      | .ok found => .ok found
      | .error (good, ended) =>
        .error ⟨.utf8, position, all.take (good + 1),
          if ended then .unexpectedEnd else .invalidContinuation⟩

/-- Decodes UTF-8; `fuel` bounds the characters. -/
def decodeUtf8From (surrogates : Bool) :
    Nat → Nat → List UInt8 → Except EncodingFault (List Nat)
  | 0, _, _ => .ok []
  | _, _, [] => .ok []
  | fuel + 1, position, octet :: rest => do
    let (point, rest') ← utf8Next surrogates position octet rest
    let points ← decodeUtf8From surrogates fuel (position + (rest.length + 1 - rest'.length)) rest'
    pure (point :: points)

/-- Decodes UTF-8. -/
def decodeUtf8 (surrogates : Bool) (octets : List UInt8) : Except EncodingFault (List Nat) :=
  decodeUtf8From surrogates octets.length 0 octets

/-- Decodes UTF-8, a replacement character standing for each sequence of octets that encodes
nothing; `fuel` bounds the characters. -/
def decodeUtf8Leniently : Nat → List UInt8 → List Nat
  | 0, _ => []
  | _, [] => []
  | fuel + 1, octet :: rest =>
    match utf8Next false 0 octet rest with
    | .ok (point, rest) => point :: decodeUtf8Leniently fuel rest
    | .error fault => 0xFFFD :: decodeUtf8Leniently fuel (rest.drop (fault.octets.length - 1))

/-! ## UTF-16 and UTF-32 -/

/-- True of the code points that open a pair of 16-bit units. -/
def isHighSurrogate (n : Nat) : Bool := 0xD800 ≤ n && n < 0xDC00

/-- True of the code points that close a pair of 16-bit units. -/
def isLowSurrogate (n : Nat) : Bool := 0xDC00 ≤ n && n < 0xE000

/-- The code point that two surrogates make. -/
def joinSurrogates (high low : Nat) : Nat := 0x10000 + (high - 0xD800) * 0x400 + (low - 0xDC00)

/-- The 16-bit units of a sequence of octets. -/
def units16 (bigEndian : Bool) : Nat → List UInt8 → Except EncodingFault (List Nat)
  | _, [] => .ok []
  | position, [octet] => .error ⟨.utf16 bigEndian, position, [octet], .truncated⟩
  | position, a :: b :: rest => do
    let unit := if bigEndian then a.toNat * 0x100 + b.toNat else b.toNat * 0x100 + a.toNat
    return unit :: (← units16 bigEndian (position + 2) rest)

/-- Joins pairs of surrogates; a surrogate without partner stays. -/
def joinPairs : List Nat → List Nat
  | [] => []
  | [unit] => [unit]
  | a :: b :: rest =>
    if isHighSurrogate a && isLowSurrogate b then joinSurrogates a b :: joinPairs rest
    else a :: joinPairs (b :: rest)

/-- The 32-bit units of a sequence of octets, each of them a code point. -/
def units32 (bigEndian : Bool) : Nat → List UInt8 → Except EncodingFault (List Nat)
  | _, [] => .ok []
  | position, a :: b :: c :: d :: rest => do
    let value (w x y z : UInt8) : Nat :=
      ((w.toNat * 0x100 + x.toNat) * 0x100 + y.toNat) * 0x100 + z.toNat
    let unit := if bigEndian then value a b c d else value d c b a
    if 0x110000 ≤ unit then .error ⟨.utf32 bigEndian, position, [a, b, c, d], .beyondRange⟩
    else return unit :: (← units32 bigEndian (position + 4) rest)
  | position, rest => .error ⟨.utf32 bigEndian, position, rest, .truncated⟩

/-! ## Documents -/

/-- The encoding of a document, and how many octets of a mark stand before its text. -/
def guessEncoding (octets : List UInt8) : Encoding × Nat :=
  match octets.map UInt8.toNat with
  | 0x00 :: 0x00 :: 0xFE :: 0xFF :: _ => (.utf32 true, 4)
  | 0xFF :: 0xFE :: 0x00 :: 0x00 :: _ => (.utf32 false, 4)
  | 0xFE :: 0xFF :: _ => (.utf16 true, 2)
  | 0xFF :: 0xFE :: _ => (.utf16 false, 2)
  | 0xEF :: 0xBB :: 0xBF :: _ => (.utf8, 3)
  | 0x00 :: b :: _ :: _ :: _ => if b = 0 then (.utf32 true, 0) else (.utf16 true, 0)
  | _ :: 0x00 :: c :: d :: _ =>
    if c ≠ 0 ∨ d ≠ 0 then (.utf16 false, 0) else (.utf32 false, 0)
  | [0x00, _] => (.utf16 true, 0)
  | [_, 0x00] => (.utf16 false, 0)
  | _ => (.utf8, 0)

/-- Decodes a document in the encoding that its first octets show; surrogates pass. -/
def decodeDocument (octets : List UInt8) : Except EncodingFault (List Nat) :=
  let (encoding, mark) := guessEncoding octets
  match encoding with
  | .utf8 => decodeUtf8 true (octets.drop mark)
  | .utf16 bigEndian => (units16 bigEndian mark (octets.drop mark)).map joinPairs
  | .utf32 bigEndian => units32 bigEndian mark (octets.drop mark)

end FormEngine
