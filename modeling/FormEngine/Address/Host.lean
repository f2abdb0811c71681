import FormEngine.Address.HostTable
import FormEngine.Text.Ascii
import FormEngine.Text.Case
import FormEngine.Text.Encoding

/-!
# Hosts of internet addresses

What may stand as the host of an address: a domain name, an IPv4 address in any of its notations, or
an IPv6 address between brackets.  Domain names may be percent-encoded and may hold letters of any
script; a label that starts with `xn--` has to be the ASCII form of such a name.

A name whose last label is a number is an IPv4 address or nothing.
-/

namespace FormEngine.Host

/-! ## IPv4 -/

/-- A part of an IPv4 address: hexadecimal after `0x`, octal after `0`, otherwise decimal. -/
def ipv4Part? : List Char → Option Nat
  | [] => none
  | '0' :: 'x' :: cs => numeralIn? 16 cs
  | '0' :: 'X' :: cs => numeralIn? 16 cs
  | '0' :: c :: cs => numeralIn? 8 (c :: cs)
  | cs => numeralIn? 10 cs

/-- The parts between dots, without an empty one at the end. -/
def dottedParts (cs : List Char) : List (List Char) :=
  let parts := cs.splitOn '.'
  if 1 < parts.length ∧ parts.getLast? = some [] then parts.dropLast else parts

/-- Whether the last part of a name is a number. -/
def endsInNumber (cs : List Char) : Bool :=
  match (dottedParts cs).getLast? with
  | none => false
  | some [] => false
  | some last => last.all (fun c => '0' ≤ c && c ≤ '9') || (ipv4Part? last).isSome

/-- Whether a text is an IPv4 address: up to four numbers, the last of which fills the octets that
the others leave. -/
def isIPv4 (cs : List Char) : Bool :=
  match (dottedParts cs).mapM ipv4Part? with
  | none => false
  | some numbers =>
    match numbers.reverse with
    | [] => false
    | last :: before =>
      before.length < 4 && before.all (· ≤ 255) && last < Nat.pow 256 (4 - before.length)

/-! ## IPv6 -/

/-- A decimal octet without leading zeros. -/
def isOctet (cs : List Char) : Bool :=
  cs ≠ [] && (cs.length = 1 || cs.head? ≠ some '0')
    && (numeralIn? 10 cs).any (· ≤ 255)

/-- Whether a text is four decimal octets between dots. -/
def isDottedQuad (cs : List Char) : Bool :=
  let parts := cs.splitOn '.'
  parts.length = 4 && parts.all isOctet

/-- Whether a text is a group of one to four hexadecimal digits. -/
def isGroup (cs : List Char) : Bool :=
  1 ≤ cs.length && cs.length ≤ 4 && cs.all fun c => (hexDigit? c).isSome

/-- How many groups a sequence of groups with colons between them stands for; the last may be four
decimal octets, which count as two groups, if `quad` allows it. -/
def groupCount? (quad : Bool) (cs : List Char) : Option Nat :=
  if cs = [] then some 0
  else match (cs.splitOn ':').reverse with
    | [] => none
    | last :: before =>
      if !before.all isGroup then none
      else if isGroup last then some (before.length + 1)
      else if quad && isDottedQuad last then some (before.length + 2)
      else none

/-- The parts before and after the first double colon. -/
def splitCompressed : List Char → Option (List Char × List Char)
  | ':' :: ':' :: cs => some ([], cs)
  | c :: cs => (splitCompressed cs).map fun (before, after) => (c :: before, after)
  | [] => none

/-- Whether a text is an IPv6 address: eight groups, or fewer around one double colon. -/
def isIPv6 (cs : List Char) : Bool :=
  match splitCompressed cs with
  | none => groupCount? true cs = some 8
  | some (before, after) =>
    match groupCount? false before, groupCount? true after with
    | some m, some n => m + n ≤ 7
    | _, _ => false

/-! ## Names -/

/-- Characters that no domain name holds. -/
def isForbidden (c : Char) : Bool :=
  c.toNat < 0x21 || c.toNat = 0x7F
    || ['#', '%', '/', ':', '<', '>', '?', '@', '[', '\\', ']', '^', '|'].contains c

/-- Replaces percent-encoded octets. -/
def percentDecode : List UInt8 → List UInt8
  | 0x25 :: a :: b :: rest =>
    match hexDigit? (Char.ofNat a.toNat), hexDigit? (Char.ofNat b.toNat) with
    | some x, some y => UInt8.ofNat (16 * x + y) :: percentDecode rest
    | _, _ => 0x25 :: percentDecode (a :: b :: rest)
  | octet :: rest => octet :: percentDecode rest
  | [] => []

/-- The text that a percent-encoded one stands for, if it is one. -/
def decoded? (cs : List Char) : Option (List Nat) :=
  match decodeUtf8 false (percentDecode (String.ofList cs).toUTF8.toList) with
  | .ok points => some points
  | .error _ => none

/-- What a code point stands for in a name: forms of full width stand for ASCII characters, the
ideographic full stops for dots, capital letters for small ones. -/
def nameForm (n : Nat) : Nat :=
  if n = 0x3002 ∨ n = 0xFF61 then 0x2E
  else if 0xFF01 ≤ n ∧ n ≤ 0xFF5E then lowerAscii (n - 0xFEE0)
  else lowerPoint n

/-- Whether a code point may stand in a name. -/
def isAdmitted (n : Nat) : Bool :=
  n < 0x80 || !(refusedTable.contains n || n = 0x200C || n = 0x200D)

/-- The code points of a name in the form in which they are compared. -/
def nameForms? (points : List Nat) : Option (List Nat) :=
  if points.all isAdmitted then
    some ((points.filter fun n => !ignoredTable.contains n).map nameForm)
  else none

/-! ## Names in ASCII form -/

/-- The value of a digit of the ASCII form: letters, then digits. -/
def punycodeDigit? (c : Char) : Option Nat :=
  if 'a' ≤ c ∧ c ≤ 'z' then some (c.toNat - 'a'.toNat)
  else if '0' ≤ c ∧ c ≤ '9' then some (c.toNat - '0'.toNat + 26)
  else none

/-- Divides the bias until it is small; `fuel` bounds the divisions. -/
def reduceDelta : Nat → Nat → Nat → Nat × Nat
  | 0, delta, k => (delta, k)
  | fuel + 1, delta, k => if 455 < delta then reduceDelta fuel (delta / 35) (k + 36) else (delta, k)

/-- The bias after a code point has been inserted. -/
def adaptBias (delta count : Nat) (first : Bool) : Nat :=
  let delta := if first then delta / 700 else delta / 2
  let (delta, k) := reduceDelta 64 (delta + delta / count) 0
  k + 36 * delta / (delta + 38)

/-- One number of variable length: its value added to an index, and the digits that follow. -/
def punycodeNumber? (bias : Nat) : List Char → Nat → Nat → Nat → Option (Nat × List Char)
  | [], _, _, _ => none
  | c :: cs, index, weight, k =>
    (punycodeDigit? c).bind fun digit =>
      let threshold := if k ≤ bias then 1 else if bias + 26 ≤ k then 26 else k - bias
      let index := index + digit * weight
      if digit < threshold then some (index, cs)
      else punycodeNumber? bias cs index (weight * (36 - threshold)) (k + 36)

/-- Inserts the code points that the digits describe; `fuel` bounds their number. -/
def punycodeInsert? : Nat → List Char → List Nat → Nat → Nat → Nat → Option (List Nat)
  | 0, cs, out, _, _, _ => if cs = [] then some out else none
  | _ + 1, [], out, _, _, _ => some out
  | fuel + 1, cs, out, n, index, bias =>
    (punycodeNumber? bias cs index 1 36).bind fun (next, cs) =>
      let count := out.length + 1
      let bias := adaptBias (next - index) count (index = 0)
      let n := n + next / count
      let place := next % count
      if 0x110000 ≤ n ∨ (0xD800 ≤ n ∧ n < 0xE000) then none
      else punycodeInsert? fuel cs (out.take place ++ n :: out.drop place) n (place + 1) bias

/-- The label that an ASCII form stands for. -/
def punycode? (cs : List Char) : Option (List Nat) :=
  let (after, before) := (cs.reverse.span (· ≠ '-'))
  let basic := (before.drop 1).reverse
  let digits := if before = [] then cs else after.reverse
  punycodeInsert? (cs.length + 1) digits (basic.map Char.toNat) 128 0 72

/-- Whether a label is one; a label in ASCII form has to stand for one beyond ASCII, in the form in
which it is compared. -/
def isLabel (points : List Nat) : Bool :=
  let startsWell (points : List Nat) : Bool := !points.head?.any markTable.contains
  let cs := points.map Char.ofNat
  if cs.take 4 = ['x', 'n', '-', '-'] then
    match punycode? (cs.drop 4) with
    | none => false
    | some decoded =>
      decoded.any (0x80 ≤ ·) && nameForms? decoded = some decoded && startsWell decoded
  else startsWell points

/-- The stretches of code points between dots. -/
def labels : List Nat → List (List Nat)
  | [] => [[]]
  | n :: ns =>
    if n = 0x2E then [] :: labels ns
    else match labels ns with
      | [] => [[n]]
      | label :: rest => (n :: label) :: rest

/-- Whether a text is a domain name or an IPv4 address. -/
def isNameOrIPv4 (cs : List Char) : Bool :=
  match (decoded? cs).bind nameForms? with
  | none => false
  | some points =>
    let name := points.map Char.ofNat
    name ≠ [] && !name.any isForbidden && (labels points).all isLabel
      && (!endsInNumber name || isIPv4 name)

/-- The inside of brackets. -/
def insideBrackets? : List Char → Option (List Char)
  | '[' :: cs => if cs.getLast? = some ']' then some cs.dropLast else none
  | _ => none

/-- Whether a text is a host of an address whose scheme knows hosts. -/
def isHost (cs : List Char) : Bool :=
  if cs.head? = some '[' then (insideBrackets? cs).any isIPv6 else isNameOrIPv4 cs

/-- Whether a text is a host of an address of any other scheme: nearly anything goes. -/
def isOpaqueHost (cs : List Char) : Bool :=
  if cs.head? = some '[' then (insideBrackets? cs).any isIPv6
  else !cs.any fun c =>
    c = '\x00' || c = ' ' || c = '\t' || c = '\n' || c = '\r'
      || ['#', '/', ':', '<', '>', '?', '@', '[', '\\', ']', '^', '|'].contains c

end FormEngine.Host
