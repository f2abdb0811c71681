import FormEngine.Number.Literal
import FormEngine.Value.Display
import FormEngine.Value.Equality

/-!
# Faults

What keeps an operation on a form from having an answer.  A value that violates a rule is no fault:
it is an answer of the check.
-/

namespace FormEngine

/-- Why an operation has no answer. -/
inductive Fault where
  /-- An integer has more digits than may be read. -/
  | tooManyDigits (count : Nat)
  /-- A number in a date phrase is too large for its fraction to be computed. -/
  | fractionLost
  /-- A predicate or a callback has failed. -/
  | raised (message : Text)
  /-- No field of the form has this key. -/
  | unknownField (key : Value)
  /-- No check exists for this key. -/
  | uncheckedField (key : Value)
  /-- The key of a field is a value that can be no key. -/
  | unhashableKey (kind : Value.Unhashable)
  /-- A part of a layout shows a field that does not exist. -/
  | unknownShown (id : String)
  /-- A value is no part of a layout. -/
  | noLayout (shown : String)

/-- The text of a fault. -/
def Fault.message : Fault → Text
  | .tooManyDigits count => tooManyDigitsMessage count
  | .fractionLost => "[<class 'decimal.DivisionImpossible'>]"
  | .raised message => message
  | .unknownField key => "Field '" ++ key.plain ++ "' does not exist in the schema"
  | .uncheckedField key => key.display
  | .unhashableKey kind => kind.message
  | .unknownShown id => "Layout references non-existent field '" ++ id ++ "'"
  | .noLayout shown => "Unsupported layout node: " ++ shown

end FormEngine
