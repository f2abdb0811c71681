import FormEngine.Calendar.Date
import FormEngine.Mapping
import FormEngine.Number.Basic
import FormEngine.Text.Basic

/-!
# Values

What a form holds and a document is made of: `Value`, the one dynamic type of the library.
-/

namespace FormEngine

/-- What a host application may hand over ready-made in place of a description: a predicate, a
field, or a condition. -/
inductive Prepared where
  | predicate
  | field
  | condition
deriving DecidableEq, Repr

/-- A value of a form or a document. -/
inductive Value where
  | null
  | bool (b : Bool)
  | int (i : Int)
  | float (x : Double)
  | text (t : Text)
  | bytes (octets : List UInt8)
  | date (d : Date)
  | dateTime (t : DateTime)
  | list (items : List Value)
  /-- A fixed collection in order; never the same as a list. -/
  | tuple (items : List Value)
  /-- A collection without order or repetition. -/
  | set (items : List Value)
  /-- A mapping in insertion order; keys may be any hashable values. -/
  | map (entries : List (Value × Value))
  /-- An object prepared by the host application, with the description it was made from. -/
  | prepared (kind : Prepared) (description : Value)
deriving Inhabited

namespace Value

/-- The text of a sequence of code points. -/
def ofPoints (points : List Nat) : Value := .text (.ofPoints points)

/-- Whether a value is a given text. -/
def isText (text : Text) : Value → Bool
  | .text t => t = text
  | _ => false

/-- Whether a value is a float that is not a number. -/
def isNan : Value → Bool
  | .float .nan => true
  | _ => false

/-- The code points of a text; other values have none. -/
def points? : Value → Option (List Nat)
  | .text t => some t.points
  | _ => none

/-- The items of a collection; text, octets and mappings are no collections. -/
def items? : Value → Option (List Value)
  | .list items => some items
  | .tuple items => some items
  | .set items => some items
  | _ => none

/-- A mapping with text keys. -/
def ofMapping (m : Mapping Value) : Value :=
  .map (m.entries.map fun e => (.text e.1, e.2))

/-- The number that a value is; the booleans count as 0 and 1. -/
def number? : Value → Option Number
  | .bool b => some (.int (if b then 1 else 0))
  | .int i => some (.int i)
  | .float x => some (.float x)
  | _ => none

end Value

end FormEngine
