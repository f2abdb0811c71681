import FormEngine.Calendar.Phrase.Token

/-!
# The vocabulary of date phrases

Names of weekdays, months and units of time, the marks of the two halves of the day, the words that
mean nothing, and the names of universal time.  Case is ignored; every name is written in ASCII.
-/

namespace FormEngine.Calendar.Phrase

/-- A token with its ASCII letters in lower case. -/
def lower (token : Token) : String := String.ofList (token.map Char.toLower)

/-- The place of a list that holds a name. -/
def indexOfName (names : List (List String)) (name : String) : Option Nat :=
  names.findIdx? (·.contains name)

/-- The number of a weekday, Monday being 0. -/
def weekday? (token : Token) : Option Nat :=
  indexOfName
    [["mon", "monday"], ["tue", "tuesday"], ["wed", "wednesday"], ["thu", "thursday"],
     ["fri", "friday"], ["sat", "saturday"], ["sun", "sunday"]] (lower token)

/-- The number of a month, January being 1. -/
def month? (token : Token) : Option Nat :=
  (indexOfName
    [["jan", "january"], ["feb", "february"], ["mar", "march"], ["apr", "april"], ["may"],
     ["jun", "june"], ["jul", "july"], ["aug", "august"], ["sep", "sept", "september"],
     ["oct", "october"], ["nov", "november"], ["dec", "december"]] (lower token)).map (· + 1)

/-- Units of a time of day. -/
inductive TimeUnit where
  | hour
  | minute
  | second
deriving DecidableEq, Repr

/-- The unit of a name. -/
def timeUnit? (token : Token) : Option TimeUnit :=
  let name := lower token
  if ["h", "hour", "hours"].contains name then some .hour
  else if ["m", "minute", "minutes"].contains name then some .minute
  else if ["s", "second", "seconds"].contains name then some .second
  else none

/-- The next smaller unit. -/
def TimeUnit.smaller? : TimeUnit → Option TimeUnit
  | .hour => some .minute
  | .minute => some .second
  | .second => none

/-- The half of the day that a token marks: whether it is the second one. -/
def afternoon? (token : Token) : Option Bool :=
  let name := lower token
  if ["am", "a"].contains name then some false
  else if ["pm", "p"].contains name then some true
  else none

/-- True of the words and characters that may stand between the parts of a date. -/
def isFiller (token : Token) : Bool :=
  [" ", ".", ",", ";", "-", "/", "'", "at", "on", "and", "ad", "m", "t", "of", "st", "nd", "rd",
   "th"].contains (lower token)

/-- True of the word between a month and its year. -/
def isOf (token : Token) : Bool := lower token = "of"

/-- True of the names of universal time in any case. -/
def isUniversalTime (token : Token) : Bool := ["utc", "gmt", "z"].contains (lower token)

/-- Whether a token looks like the name of a time zone: at most five upper case letters, or `z`. -/
def looksLikeZone (token : Token) : Bool :=
  token.length ≤ 5 && (token.all (fun c => 'A' ≤ c && c ≤ 'Z') || token = ['z'])

/-- True of the words that are read as numbers but denote none. -/
def isNonNumber (token : Token) : Bool := ["nan", "inf", "infinity"].contains (lower token)

end FormEngine.Calendar.Phrase
