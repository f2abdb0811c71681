/-!
# Tables of code point ranges

A property of characters is given as ascending closed ranges of code points, written in hexadecimal:
`"30-39 5f"` stands for the ten digits and the underscore.  `RangeTable.ofText` reads such a text
and `RangeTable.contains` searches it by halving.
-/

namespace FormEngine

/-- Ascending closed ranges of code points. -/
abbrev RangeTable := Array (Nat × Nat)

namespace RangeTable

/-- The value of a hexadecimal digit in lower case, 0 for anything else. -/
def hexValue (c : Char) : Nat :=
  if '0' ≤ c ∧ c ≤ '9' then c.toNat - '0'.toNat
  else if 'a' ≤ c ∧ c ≤ 'f' then c.toNat - 'a'.toNat + 10
  else 0

/-- The number that hexadecimal digits denote. -/
def hexNumber (cs : List Char) : Nat := cs.foldl (fun n c => 16 * n + hexValue c) 0

/-- The words of a text: its longest runs without blanks or line ends. -/
def words (text : String) : List (List Char) :=
  (text.toList.splitBy fun a b => isGap a == isGap b).filter fun w => !w.any isGap
where
  /-- True of the characters between words. -/
  isGap (c : Char) : Bool := c = ' ' || c = '\n'

/-- The range that a word denotes: one code point, or two joined by a hyphen. -/
def rangeOfWord (word : List Char) : Nat × Nat :=
  let (low, rest) := word.span (· ≠ '-')
  match rest with
  | [] => (hexNumber low, hexNumber low)
  | _ :: high => (hexNumber low, hexNumber high)

/-- Reads a table. -/
def ofText (text : String) : RangeTable :=
  ((words text).map rangeOfWord).toArray

/-- Searches the ranges between two positions; `fuel` bounds the halvings. -/
def search (table : RangeTable) (n : Nat) : Nat → Nat → Nat → Option (Nat × Nat)
  | 0, _, _ => none
  | fuel + 1, low, high =>
    if low < high then
      let middle := (low + high) / 2
      match table[middle]? with
      | none => none
      | some (first, last) =>
        if n < first then search table n fuel low middle
        else if last < n then search table n fuel (middle + 1) high
        else some (first, last)
    else none

/-- The range that holds a code point. -/
def find? (table : RangeTable) (n : Nat) : Option (Nat × Nat) :=
  search table n (table.size + 1) 0 table.size

/-- Whether a code point lies in one of the ranges. -/
def contains (table : RangeTable) (n : Nat) : Bool := (table.find? n).isSome

end RangeTable

end FormEngine
