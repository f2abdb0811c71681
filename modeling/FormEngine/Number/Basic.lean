import FormEngine.Number.Double

/-!
# Numbers

A `Number` is an integer of any size or a binary64 number.  Numbers are compared by exact value,
whatever their kinds: `Number.extent?` places every number except not-a-number on the extended
rational line, and equality and order are those of the line.
-/

namespace FormEngine

/-- An integer of any size or a binary64 number. -/
inductive Number where
  | int (i : Int)
  | float (x : Double)
deriving DecidableEq, Repr

/-- A point of the rational line extended by its two ends. -/
inductive Extent where
  | lowest
  | at (q : Rat)
  | highest
deriving DecidableEq

namespace Extent

/-- The order of the line. -/
def lt : Extent → Extent → Bool
  | .lowest, .lowest => false
  | .lowest, _ => true
  | .at _, .lowest => false
  | .at p, .at q => p < q
  | .at _, .highest => true
  | .highest, _ => false

end Extent

/-- The place of a binary64 number on the extended line. -/
def Double.extent? : Double → Option Extent
  | .nan => none
  | .infinite negative => some (if negative then .lowest else .highest)
  | .finite negative m e => some (.at (Double.scale (if negative then -(m : Int) else m) e))

namespace Number

/-- The place of a number on the extended line; not-a-number has none. -/
def extent? : Number → Option Extent
  | .int i => some (.at i)
  | .float x => x.extent?

/-- Whether two numbers have the same value. -/
def same (x y : Number) : Bool :=
  match x.extent?, y.extent? with
  | some p, some q => p = q
  | _, _ => false

/-- Whether the first number is less than the second; false if either is not a number. -/
def lt (x y : Number) : Bool :=
  match x.extent?, y.extent? with
  | some p, some q => p.lt q
  | _, _ => false

/-- True of integers and of finite binary64 numbers. -/
def isFinite : Number → Bool
  | .int _ => true
  | .float x => x.isFinite

end Number

end FormEngine
