import FormEngine.Calendar.Date
import FormEngine.Number.Literal
import FormEngine.Value.Display
import FormEngine.Value.Equality

/-!
# Faults of YAML documents

Why a text is no YAML document.  Whatever violates the grammar, names an anchor or a tag that does
not exist, or has the wrong shape for its tag, is malformed, and no more is said.  The other faults
concern documents that are well formed: keys that repeat or can be no keys, and scalars that do not
denote what their form or their tag promises.
-/

namespace FormEngine.Yaml

/-- The three kinds of nodes. -/
inductive Kind where
  | scalar
  | sequence
  | mapping
deriving DecidableEq, Repr

/-- The name of a kind in messages. -/
def Kind.name : Kind → String
  | .scalar => "ScalarNode"
  | .sequence => "SequenceNode"
  | .mapping => "MappingNode"

/-- The parts of a time of day. -/
inductive ClockPart where
  | hour
  | minute
  | second
deriving DecidableEq, Repr

/-- Why a text has no value. -/
inductive Fault where
  | malformed
  /-- A mapping has two entries with this key. -/
  | duplicateKey (key : Value)
  /-- A mapping has two entries with the same integer as key, which has too many digits to be
  told. -/
  | untellableKey
  /-- A key of a mapping can be no key. -/
  | unhashableKey (kind : Value.Unhashable)
  /-- A number is no literal. -/
  | literal (fault : LiteralFault)
  /-- A number has no characters. -/
  | emptyNumber
  /-- A number in base 60 has more parts than binary64 numbers can weigh. -/
  | weightTooLarge
  /-- A boolean is no word for one. -/
  | notBoolean (points : List Nat)
  /-- A point in time has another form. -/
  | notMoment
  /-- A mapping stands where a point in time is expected. -/
  | entriesForMoment
  | date (fault : Date.Fault)
  | clock (part : ClockPart)
  /-- An offset from universal time is a day or more. -/
  | offset (seconds : Int)
  /-- An escape denotes no code point. -/
  | character (code : Nat)
  /-- An item stands where the entry of a mapping is expected. -/
  | notEntry (kind : Kind)
  /-- A text stands where the entries of a mapping are expected. -/
  | textForEntries

/-- The text of a part of a time of day out of its range. -/
def ClockPart.message : ClockPart → String
  | .hour => "hour must be in 0..23"
  | .minute => "minute must be in 0..59"
  | .second => "second must be in 0..59"

/-- The text of a fault. -/
def Fault.message : Fault → Text
  | .malformed => "Invalid YAML schema document"
  | .duplicateKey key => "Duplicate key in schema document: '" ++ key.plain ++ "'"
  | .untellableKey => "Exceeds the limit (" ++ toString digitLimit
      ++ " digits) for integer string conversion; use sys.set_int_max_str_digits() to increase "
      ++ "the limit"
  | .unhashableKey kind => kind.message
  | .literal fault => fault.message
  | .emptyNumber => "string index out of range"
  | .weightTooLarge => "int too large to convert to float"
  | .notBoolean points => quotedPoints points
  | .notMoment => "'NoneType' object has no attribute 'groupdict'"
  | .entriesForMoment => "expected string or bytes-like object, got 'list'"
  | .date fault => fault.message
  | .clock part => part.message
  | .offset seconds => "offset must be a timedelta strictly between -timedelta(hours=24) and "
      ++ "timedelta(hours=24), not " ++ displaySpan seconds ++ "."
  | .character code =>
    if code < Nat.pow 2 31 then "chr() arg not in range(0x110000)"
    else "Python int too large to convert to C int"
  | .notEntry kind => "cannot unpack non-iterable " ++ kind.name ++ " object"
  | .textForEntries => "not enough values to unpack (expected 2, got 1)"

end FormEngine.Yaml
