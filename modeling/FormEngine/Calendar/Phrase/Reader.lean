import FormEngine.Calendar.Phrase.Parts

/-!
# Reading date phrases

`dateOf` reads a date from a phrase: numeric dates in the usual orders, names of months and
weekdays, times of day and time zones.  What the phrase leaves out is taken from the current day.
Every token has to make sense.

The tokens are read from left to right.  `Found` collects what they say; the token at an index may
be read together with some that follow it, and `readFrom` goes on behind the last of them.
-/

namespace FormEngine.Calendar.Phrase

/-- Why no date can be read from a phrase. -/
inductive Unreadable where
  /-- The phrase is no date. -/
  | noDate
  /-- A number is too large for its fraction to be computed. -/
  | fractionLost
deriving DecidableEq, Repr

/-- What has been read. -/
structure Found where
  parts : Parts := {}
  weekday : Option Nat := none
  hour : Option Nat := none
  minute : Option Nat := none
  second : Option Nat := none
  zone : Option Token := none
  /-- The offset from universal time in seconds. -/
  offset : Option Int := none
deriving Inhabited

/-- A result that is missing means that there is no date. -/
def found {α : Type} : Option α → Except Unreadable α
  | some a => .ok a
  | none => .error .noDate

/-- Whether the token at an index is the given character. -/
def isAt (tokens : Array Token) (index : Nat) (c : Char) : Bool := tokens[index]? = some [c]

/-! ## Times of day -/

/-- The hour of a twelve-hour clock on the clock of the day. -/
def clockHour (hour : Nat) (afternoon : Bool) : Nat :=
  if hour < 12 ∧ afternoon then hour + 12
  else if hour = 12 ∧ !afternoon then 0
  else hour

/-- Whole seconds of a token, which may have a fraction. -/
def wholeSeconds? (token : Token) : Option Nat :=
  let (whole, rest) := token.span (· ≠ '.')
  match rest with
  | [] => wholeNumber? whole
  | _ :: fraction =>
    (digitValues? (fraction.take 6)).bind fun _ => wholeNumber? whole

/-- Sets minutes, and the seconds that the fraction gives. -/
def setMinutes (f : Found) (q : Quantity) : Except Unreadable Found :=
  if q.fractionLost then .error .fractionLost
  else .ok { f with
    minute := some q.whole, second := if q.hasFraction then some q.sixtieths else none }

/-- Sets the value of a unit. -/
def setUnit (f : Found) (token : Token) (q : Quantity) : TimeUnit → Except Unreadable Found
  | .hour =>
    if q.fractionLost then .error .fractionLost
    else .ok { f with
      hour := some q.whole, minute := if q.hasFraction then some q.sixtieths else f.minute }
  | .minute => setMinutes f q
  | .second => (found (wholeSeconds? token)).map fun s => { f with second := some s }

/-- The unit of the number at an index, and the index of the last token read with it.  The unit
follows the number, with or without a space; or the number follows a larger unit, in which case
there may be no unit left for it. -/
def unitAt? (tokens : Array Token) (index : Nat) : Option (Nat × Option TimeUnit) :=
  let unit (i : Nat) : Option TimeUnit := tokens[i]?.bind timeUnit?
  let before (back : Nat) : Option TimeUnit := if back ≤ index then unit (index - back) else none
  match unit (index + 1) with
  | some u => some (index + 1, some u)
  | none =>
    match (if isAt tokens (index + 1) ' ' then unit (index + 2) else none) with
    | some u => some (index + 2, some u)
    | none =>
      match (if 0 < index then before 1 else none) with
      | some u => some (index, u.smaller?)
      | none =>
        if 1 < index ∧ index + 1 = tokens.size ∧ isAt tokens (index - 1) ' ' then
          (before 2).map fun u => (index, u.smaller?)
        else none

/-! ## Numbers -/

/-- Two digits, or two and two, after a whole date: hour and minute. -/
def readCompactTime (f : Found) (token : Token) : Except Unreadable Found := do
  let hour ← found (wholeNumber? (token.take 2))
  let f := { f with hour := some hour }
  if token.length = 4 then
    let minute ← found (wholeNumber? (token.drop 2))
    return { f with minute := some minute }
  else return f

/-- Six digits: a date of two digits each, or a time. -/
def readSixDigits (f : Found) (token : Token) : Except Unreadable Found := do
  if f.parts.numbers = [] ∧ !token.contains '.' then
    let p ← found (f.parts.addToken? (token.take 2) none)
    let p ← found (p.addToken? ((token.drop 2).take 2) none)
    let p ← found (p.addToken? (token.drop 4) none)
    return { f with parts := p }
  else
    let hour ← found (wholeNumber? (token.take 2))
    let minute ← found (wholeNumber? ((token.drop 2).take 2))
    let second ← found (wholeSeconds? (token.drop 4))
    return { f with hour := some hour, minute := some minute, second := some second }

/-- Eight digits or more: a date with its century, and perhaps a time. -/
def readLongDigits (f : Found) (token : Token) : Except Unreadable Found := do
  let p ← found (f.parts.addToken? (token.take 4) (some .year))
  let p ← found (p.addToken? ((token.drop 4).take 2) none)
  let p ← found (p.addToken? ((token.drop 6).take 2) none)
  let f := { f with parts := p }
  if token.length = 8 then return f
  else
    let hour ← found (wholeNumber? ((token.drop 8).take 2))
    let minute ← found (wholeNumber? ((token.drop 10).take 2))
    let f := { f with hour := some hour, minute := some minute }
    if token.length = 12 then return f
    else
      let second ← found (wholeNumber? (token.drop 12))
      return { f with second := some second }

/-- Hours, minutes and perhaps seconds with colons between them; the index is that of the hours. -/
def readColons (tokens : Array Token) (index : Nat) (q : Quantity) (f : Found) :
    Except Unreadable (Nat × Found) := do
  let minutes ← found (tokens[index + 2]?.bind quantity?)
  let f ← setMinutes { f with hour := some q.whole } minutes
  match isAt tokens (index + 3) ':', tokens[index + 4]? with
  | true, some token =>
    let second ← found (wholeSeconds? token)
    return (index + 4, { f with second := some second })
  | _, _ => return (index + 2, f)

/-- Adds the name of a month, or a number. -/
def addMonthOrNumber? (p : Parts) (token : Token) : Option Parts :=
  match month? token with
  | some m => p.add? m (some .month)
  | none => p.addToken? token none

/-- Two or three members of a date with the same separator between them. -/
def readSeparated (tokens : Array Token) (index : Nat) (separator token : Token) (f : Found) :
    Except Unreadable (Nat × Found) := do
  let p ← found (f.parts.addToken? token none)
  match tokens[index + 2]? with
  | none => return (index + 1, { f with parts := p })
  | some second =>
    if isFiller second then return (index + 1, { f with parts := p })
    else
      let p ← found (addMonthOrNumber? p second)
      if tokens[index + 3]? = some separator then
        let third ← found tokens[index + 4]?
        let p ← found (addMonthOrNumber? p third)
        return (index + 4, { f with parts := p })
      else return (index + 2, { f with parts := p })

/-- A number that is followed by nothing that joins it. -/
def readLone (tokens : Array Token) (index : Nat) (q : Quantity) (f : Found) :
    Except Unreadable (Nat × Found) := do
  let atFiller := tokens[index + 1]?.all isFiller
  if atFiller then
    match tokens[index + 2]?.bind afternoon? with
    | some afternoon =>
      return (index + 2, { f with hour := some (clockHour q.whole afternoon) })
    | none =>
      let p ← found (f.parts.addQuantity? q)
      return (index + 1, { f with parts := p })
  else
    match tokens[index + 1]?.bind afternoon?, decide (q.whole < 24) with
    | some afternoon, true =>
      return (index + 1, { f with hour := some (clockHour q.whole afternoon) })
    | _, _ =>
      if ← found (f.parts.couldBeDay? q) then
        let p ← found (f.parts.addQuantity? q)
        return (index, { f with parts := p })
      else throw .noDate

/-- The number at an index: the index of the last token read with it, and what it says. -/
def readNumber (tokens : Array Token) (index : Nat) (token : Token) (q : Quantity) (f : Found) :
    Except Unreadable (Nat × Found) := do
  let length := token.length
  let joined := tokens[index + 1]?.any fun t => t = [':'] || (timeUnit? t).isSome
  if f.parts.numbers.length = 3 ∧ (length = 2 ∨ length = 4) ∧ f.hour.isNone ∧ !joined then
    return (index, ← readCompactTime f token)
  else if length = 6 ∨ (6 < length ∧ token.idxOf? '.' = some 6) then
    return (index, ← readSixDigits f token)
  else if length = 8 ∨ length = 12 ∨ length = 14 then
    return (index, ← readLongDigits f token)
  else
    match unitAt? tokens index with
    | some (last, some unit) => return (last, ← setUnit f token q unit)
    | some (last, none) => return (last, f)
    | none =>
      let separator := tokens[index + 1]?.getD []
      if isAt tokens (index + 1) ':' ∧ index + 2 < tokens.size then readColons tokens index q f
      else if separator = ['-'] ∨ separator = ['/'] ∨ separator = ['.'] then
        readSeparated tokens index separator token f
      else readLone tokens index q f

/-! ## Words and signs -/

/-- What follows the name of a month at an index: a separator and a number or two, or `of` and a
year.  A word behind `of` that is no number says nothing. -/
def readAfterMonth (currentYear : Nat) (tokens : Array Token) (index : Nat) (p : Parts) :
    Except Unreadable (Nat × Parts) := do
  let separator := tokens[index + 1]?.getD []
  if separator = ['-'] ∨ separator = ['/'] then
    let p ← found (tokens[index + 2]?.bind fun t => p.addToken? t none)
    if tokens[index + 3]? = some separator then
      let p ← found (tokens[index + 4]?.bind fun t => p.addToken? t none)
      return (index + 4, p)
    else return (index + 2, p)
  else if isAt tokens (index + 1) ' ' ∧ isAt tokens (index + 3) ' '
      ∧ tokens[index + 2]?.any isOf then
    match tokens[index + 4]? with
    | none => return (index, p)
    | some year =>
      if year.all isNumberChar then
        let n ← found (wholeNumber? year)
        let p ← found ({ p with century := true }.add? (Parts.fullYear currentYear n) (some .year))
        return (index + 4, p)
      else return (index + 4, p)
  else return (index, p)

/-- Whether the name of a zone may stand here. -/
def awaitsZone (f : Found) (offset : Option Int) : Bool :=
  f.hour.isSome && f.zone.isNone && offset.isNone

/-- The name of a zone at an index.  A sign right behind it counts the other way round, and a name
of universal time is then no name. -/
def readZone (tokens : Array Token) (index : Nat) (token : Token) (f : Found) :
    Array Token × Found :=
  let offset : Option Int := if token = ['z'] then some 0 else none
  let flipped : Option Token :=
    if isAt tokens (index + 1) '+' then some ['-']
    else if isAt tokens (index + 1) '-' then some ['+']
    else none
  match flipped with
  | none => (tokens, { f with zone := some token, offset })
  | some sign =>
    (tokens.setIfInBounds (index + 1) sign,
      { f with zone := if isUniversalTime token then none else some token, offset := none })

/-- The offset behind a sign at an index: four digits, digits with a colon between them, or one or
two digits; and perhaps the name of the zone in parentheses. -/
def readOffset (tokens : Array Token) (index : Nat) (sign : Int) (f : Found) :
    Except Unreadable (Nat × Found) := do
  let digits ← found tokens[index + 1]?
  let (index, hours, minutes) ←
    if digits.length = 4 then
      pure (index, ← found (wholeNumber? (digits.take 2)), ← found (wholeNumber? (digits.drop 2)))
    else if isAt tokens (index + 2) ':' then
      let hours ← found (wholeNumber? digits)
      let minutes ← found (tokens[index + 3]?.bind wholeNumber?)
      pure (index + 2, hours, minutes)
    else if digits.length ≤ 2 then pure (index, ← found (wholeNumber? digits), 0)
    else throw .noDate
  let f := { f with offset := some (sign * (hours * 3600 + minutes * 60)) }
  match tokens[index + 4]? with
  | some name =>
    if tokens[index + 2]?.any isFiller ∧ isAt tokens (index + 3) '(' ∧ isAt tokens (index + 5) ')'
        ∧ 3 ≤ name.length ∧ awaitsZone f none ∧ looksLikeZone name then
      return (index + 5, { f with zone := some name })
    else return (index + 1, f)
  | none => return (index + 1, f)

/-- The word or sign at an index: the tokens as they stand afterwards, the index of the last token
read with it, and what it says. -/
def readWord (currentYear : Nat) (tokens : Array Token) (index : Nat) (token : Token) (f : Found) :
    Except Unreadable (Array Token × Nat × Found) := do
  match weekday? token, month? token, afternoon? token with
  | some day, _, _ => return (tokens, index, { f with weekday := some day })
  | none, some month, _ =>
    let p ← found (f.parts.add? month (some .month))
    let (index, p) ← readAfterMonth currentYear tokens index p
    return (tokens, index, { f with parts := p })
  | none, none, some afternoon =>
    match f.hour with
    | none => throw .noDate
    | some hour =>
      if 12 < hour then throw .noDate
      else return (tokens, index, { f with hour := some (clockHour hour afternoon) })
  | none, none, none =>
    if awaitsZone f f.offset ∧ looksLikeZone token then
      let (tokens, f) := readZone tokens index token f
      return (tokens, index, f)
    else if f.hour.isSome ∧ (token = ['+'] ∨ token = ['-']) then
      let (index, f) ← readOffset tokens index (if token = ['+'] then 1 else -1) f
      return (tokens, index, f)
    else if isFiller token then return (tokens, index, f)
    else throw .noDate

/-! ## The whole phrase -/

/-- Reads the tokens from an index on; `fuel` bounds their number. -/
def readFrom (currentYear : Nat) :
    Nat → Array Token → Nat → Found → Except Unreadable Found
  | 0, _, _, f => .ok f
  | fuel + 1, tokens, index, f =>
    match tokens[index]? with
    | none => .ok f
    | some token =>
      if isNonNumber token then .error .noDate
      else match quantity? token with
        | some q => do
          let (last, f) ← readNumber tokens index token q f
          readFrom currentYear fuel tokens (last + 1) f
        | none => do
          let (tokens, last, f) ← readWord currentYear tokens index token f
          readFrom currentYear fuel tokens (last + 1) f

/-- Whether anything at all has been found. -/
def Found.isEmpty (f : Found) : Bool :=
  f.parts.numbers.isEmpty && f.weekday.isNone && f.hour.isNone && f.minute.isNone
    && f.second.isNone && f.zone.isNone && f.offset.isNone

/-- Whether the time of day is one, and the offset can be expressed. -/
def Found.hasTime (f : Found) : Bool :=
  let universal := f.zone.any isUniversalTime
  f.hour.all (· < 24) && f.minute.all (· < 60) && f.second.all (· < 60)
    && (universal || f.offset.all fun s => (Int.fdiv s 86400).natAbs ≤ 999999999)

/-- The first day of the given weekday from a day on. -/
def onWeekday? (d : Date) (weekday : Nat) : Option Date :=
  d.addDays? ((7 - d.weekday + weekday) % 7)

/-- The date that was found; what is missing is taken from the current day. -/
def Found.date? (today : Date) (f : Found) : Option Date := do
  if f.isEmpty then none
  let r ← f.parts.resolve?
  let year := (r.year.map fun y =>
    if f.parts.century then y else Parts.fullYear today.year y).getD today.year
  let month := r.month.getD today.month
  let day ← match r.day with
    | some day => some day
    | none => (Parts.monthLength? year month).map (min today.day)
  let date ← (Date.ofParts year month day).toOption
  if !f.hasTime then none
  match r.day, f.weekday with
  | none, some weekday => onWeekday? date weekday
  | _, _ => some date

/-- The date that a phrase denotes on a day. -/
def dateOf (today : Date) (text : Text) : Except Unreadable Date := do
  let tokens := (tokens text).toArray
  let f ← readFrom today.year (tokens.size + 1) tokens 0 {}
  found (f.date? today)

end FormEngine.Calendar.Phrase
