import FormEngine.Calendar.Date
import FormEngine.Calendar.Phrase.Words

/-!
# Year, month and day of a date phrase

The numbers of a phrase that may be a year, a month or a day, in the order in which they stand, with
what is known about their roles.  `Parts.resolve?` decides which is which: known roles first, then
numbers that can only be years, then the order month, day, year.
-/

namespace FormEngine.Calendar.Phrase

/-- The role of a number. -/
inductive Role where
  | year
  | month
  | day
deriving DecidableEq, Repr

/-- Numbers of a date in the order of the phrase, and the places whose role is known. -/
structure Parts where
  numbers : List Nat := []
  yearAt : Option Nat := none
  monthAt : Option Nat := none
  dayAt : Option Nat := none
  /-- Whether a year was written with its century. -/
  century : Bool := false
deriving Repr, Inhabited

namespace Parts

/-- Adds a number with its role if that is known; a role can be given once only. -/
def add? (p : Parts) (n : Nat) (role : Option Role) : Option Parts :=
  let here := p.numbers.length
  let p := { p with numbers := p.numbers ++ [n] }
  match role with
  | none => some p
  | some .year => if p.yearAt.isSome then none else some { p with yearAt := some here }
  | some .month => if p.monthAt.isSome then none else some { p with monthAt := some here }
  | some .day => if p.dayAt.isSome then none else some { p with dayAt := some here }

/-- Adds a number written as a token.  Three digits or more are a year. -/
def addToken? (p : Parts) (token : Token) (role : Option Role) : Option Parts :=
  let long := token.all isNumberChar && 2 < token.length
  match wholeNumber? token with
  | none => none
  | some n =>
    if !long then p.add? n role
    else if role = none ∨ role = some .year then { p with century := true }.add? n (some .year)
    else none

/-- Adds the whole part of a quantity.  More than a hundred is a year. -/
def addQuantity? (p : Parts) (q : Quantity) : Option Parts :=
  if q.atMost 100 then p.add? q.whole none
  else { p with century := true }.add? q.whole (some .year)

/-- The number at a known place. -/
def at? (p : Parts) (place : Option Nat) : Option Nat := place.bind fun i => p.numbers[i]?

/-- The length of a month; years outside the calendar stand for years of its cycle. -/
def monthLength? (year month : Nat) : Option Nat :=
  if 1 ≤ month ∧ month ≤ 12 then
    let year := if 1 ≤ year ∧ year ≤ 9999 then year else 2000 + year % 400
    some (daysInMonth year month)
  else none

/-- Whether a quantity may still be the day. -/
def couldBeDay? (p : Parts) (q : Quantity) : Option Bool :=
  if p.dayAt.isSome then some false
  else match p.at? p.monthAt with
    | none => some (1 ≤ q.whole && q.atMost 31)
    | some month =>
      (monthLength? ((p.at? p.yearAt).getD 2000) month).map fun days =>
        1 ≤ q.whole && q.atMost days

/-- Year, month and day, each if the phrase gives it. -/
structure Resolved where
  year : Option Nat := none
  month : Option Nat := none
  day : Option Nat := none
deriving Repr

/-- The place of three that is not among two. -/
def missingPlace (i j : Nat) : Nat := 3 - i - j

/-- The places of the known roles, completed if two of three are known. -/
def completed (p : Parts) : Parts :=
  if p.numbers.length ≠ 3 then p
  else match p.yearAt, p.monthAt, p.dayAt with
    | none, some m, some d => { p with yearAt := some (missingPlace m d) }
    | some y, none, some d => { p with monthAt := some (missingPlace y d) }
    | some y, some m, none => { p with dayAt := some (missingPlace y m) }
    | _, _, _ => p

/-- How many roles are known. -/
def known (p : Parts) : Nat :=
  p.yearAt.toList.length + p.monthAt.toList.length + p.dayAt.toList.length

/-- Which of three numbers is which when the roles are not all known. -/
def resolveThree (p : Parts) (a b c : Nat) : Resolved :=
  match p.monthAt with
  | some 0 => if 31 < b then ⟨b, a, c⟩ else ⟨c, a, b⟩
  | some 1 => if 31 < a then ⟨a, b, c⟩ else ⟨c, b, a⟩
  | some _ => if 31 < b then ⟨b, c, a⟩ else ⟨a, c, b⟩
  | none =>
    if 31 < a ∨ p.yearAt = some 0 then ⟨a, b, c⟩
    else if 12 < a then ⟨c, b, a⟩
    else ⟨c, a, b⟩

/-- One number that is a year or a day. -/
def yearOrDay (n : Nat) (r : Resolved) : Resolved :=
  if 31 < n then { r with year := some n } else { r with day := some n }

/-- Decides which number is the year, the month and the day. -/
def resolve? (p : Parts) : Option Resolved :=
  let p := p.completed
  if p.numbers.length = p.known ∧ 0 < p.known then
    some ⟨p.at? p.yearAt, p.at? p.monthAt, p.at? p.dayAt⟩
  else match p.numbers, p.monthAt with
    | [], _ => some {}
    | [a], none => some (yearOrDay a {})
    | [a], some _ => some { month := some a }
    | [a, b], some 0 => some (yearOrDay b { month := some a })
    | [a, b], some _ => some (yearOrDay a { month := some b })
    | [a, b], none =>
      if 31 < a then some { year := some a, month := some b }
      else if 31 < b then some { year := some b, month := some a }
      else some { month := some a, day := some b }
    | [a, b, c], _ => some (p.resolveThree a b c)
    | _, _ => none

/-- The year that two digits stand for: the one closest to the current year, less than fifty years
ahead and at most fifty years back. -/
def fullYear (current year : Nat) : Nat :=
  if 100 ≤ year then year
  else
    let near := current / 100 * 100 + year
    if current + 50 ≤ near then near - 100
    else if near + 50 < current then near + 100
    else near

end Parts

end FormEngine.Calendar.Phrase
