/-!
# ASCII letters and digits

The digits and letters that formats are written in, and the numbers that digits denote in a base.
-/

namespace FormEngine

/-- True of the ten ASCII digits. -/
def isAsciiDigit (c : Char) : Bool := '0' ≤ c && c ≤ '9'

/-- True of the letters from `a` to `z`, small and capital. -/
def isAsciiLetter (c : Char) : Bool := ('a' ≤ c && c ≤ 'z') || ('A' ≤ c && c ≤ 'Z')

/-- The value of a character as a digit of a base up to 16. -/
def digitOfBase? (base : Nat) (c : Char) : Option Nat :=
  let value := if '0' ≤ c ∧ c ≤ '9' then c.toNat - '0'.toNat
    else if 'a' ≤ c ∧ c ≤ 'f' then c.toNat - 'a'.toNat + 10
    else if 'A' ≤ c ∧ c ≤ 'F' then c.toNat - 'A'.toNat + 10
    else base
  if value < base then some value else none

/-- The value of a hexadecimal digit. -/
def hexDigit? (c : Char) : Option Nat := digitOfBase? 16 c

/-- The number that digits denote in a base; other characters count as zero. -/
def numeralIn (base : Nat) (cs : List Char) : Nat :=
  cs.foldl (fun n c => base * n + (digitOfBase? base c).getD 0) 0

/-- The number that digits denote in a base, if there is nothing else among them; no digits denote
zero. -/
def numeralIn? (base : Nat) (cs : List Char) : Option Nat :=
  (cs.mapM (digitOfBase? base)).map fun ds => ds.foldl (fun n d => base * n + d) 0

end FormEngine
