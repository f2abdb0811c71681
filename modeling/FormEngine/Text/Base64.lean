/-!
# Base 64

Octets written with sixty-four characters, six bits each.  `decodeBase64?` is lenient: characters
outside the alphabet are skipped, and what follows the padding that completes a group is ignored.
The characters before it have to come in whole groups of four, two or three of them counting as a
group if padding follows.
-/

namespace FormEngine

/-- The six bits of a character of the alphabet. -/
def base64Value? (c : Char) : Option Nat :=
  if 'A' ≤ c ∧ c ≤ 'Z' then some (c.toNat - 'A'.toNat)
  else if 'a' ≤ c ∧ c ≤ 'z' then some (c.toNat - 'a'.toNat + 26)
  else if '0' ≤ c ∧ c ≤ '9' then some (c.toNat - '0'.toNat + 52)
  else if c = '+' then some 62
  else if c = '/' then some 63
  else none

/-- The octet, if any, that a character completes, given the characters of its group before it. -/
def base64Octets : List Nat → Nat → List UInt8
  | [], _ => []
  | [a], x => [UInt8.ofNat (a * 4 + x / 16)]
  | [_, b], x => [UInt8.ofNat (b % 16 * 16 + x / 4)]
  | _ :: _ :: c :: _, x => [UInt8.ofNat (c % 4 * 64 + x)]

/-- Decodes the rest of a text.  `held` are the characters of the group that has begun, `pads` is
the padding that has followed them. -/
def decodeBase64From (held : List Nat) (pads : Nat) : List Char → Option (List UInt8)
  | [] => if held = [] then some [] else none
  | c :: cs =>
    if c = '=' then
      if held.length < 2 then decodeBase64From held pads cs
      else if 4 ≤ held.length + pads + 1 then some []
      else decodeBase64From held (pads + 1) cs
    else match base64Value? c with
      | none => decodeBase64From held pads cs
      | some x =>
        let held' := if held.length < 3 then held ++ [x] else []
        (decodeBase64From held' 0 cs).map (base64Octets held x ++ ·)

/-- Decodes a text; a text that breaks off inside a group is none. -/
def decodeBase64? (cs : List Char) : Option (List UInt8) := decodeBase64From [] 0 cs

end FormEngine
