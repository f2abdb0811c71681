import FormEngine.Fault
import FormEngine.Number.Notation
import FormEngine.Text.Blank

/-!
# Numbers entered into a form

`enteredNumber` takes what a user enters for a number: an integer or a finite number as it is, or a
text in plain decimal notation, blanks around it allowed.  A text without point and exponent gives
an integer, of any size.

`boundText` writes a bound into a message.
-/

namespace FormEngine

/-- Why a value is not accepted: it violates a rule, or the check itself has no answer. -/
inductive Refusal where
  | violation (message : Text)
  | fault (f : Fault)

/-- The message of a value that is no number. -/
def notANumber : String := "Expected a number"

/-- The number that a text denotes: an integer if it is written as one. -/
def numberOfText (cs : List Char) : Except Refusal Number :=
  match readInteger? cs with
  | some i =>
    let count := (takeSign cs).2.length
    if digitLimit < count then .error (.fault (.tooManyDigits count)) else .ok (.int i)
  | none =>
    match readDecimal? cs with
    | some x => .ok (.float x)
    | none => .error (.violation notANumber)

/-- A number that is finite. -/
def finiteNumber (x : Number) : Except Refusal Number :=
  if x.isFinite then .ok x else .error (.violation notANumber)

/-- The number that a value stands for. -/
def enteredNumber : Value → Except Refusal Number
  | .int i => .ok (.int i)
  | .float x => finiteNumber (.float x)
  | .text (.plain s) => (numberOfText (trim s.toList)).bind finiteNumber
  | _ => .error (.violation notANumber)

/-- True of null and of text that holds nothing but blanks. -/
def isVacant : Value → Bool
  | .null => true
  | .text (.plain s) => s.toList.all isBlankChar
  | _ => false

/-- A number as a value. -/
def Number.value : Number → Value
  | .int i => .int i
  | .float x => .float x

/-- The text of a bound: an integer without a point if it is one. -/
def boundText (bound : Double) : String :=
  match bound.toInt? with
  | some i => toString i
  | none => bound.render

end FormEngine
