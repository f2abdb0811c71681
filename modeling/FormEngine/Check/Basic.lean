import FormEngine.Address.Email
import FormEngine.Address.Url
import FormEngine.Calendar.Phrase.Reader
import FormEngine.Check.Number
import FormEngine.Form.Basic
import FormEngine.Pattern.Match

/-!
# Checks

What the rules of a field demand of its value, in four variants chosen by the widget of the field.
Each variant looks at its rules in a fixed order, and the first rule that is violated gives the
message.  An accepted value is returned, converted where the widget calls for it: digits to a
number, any collection to a list.

Reading a date depends on the current day, from which missing parts are taken.
-/

namespace FormEngine

/-- Refuses with a message if a rule is violated. -/
def refuseIf (violated : Bool) (message : Text) : Except Refusal Unit :=
  if violated then .error (.violation message) else .ok ()

/-- Refuses what is missing if a value is required. -/
def Requirement.enforce (r : Requirement) : Except Refusal Unit :=
  refuseIf r.isDemanded r.reminder

/-- Refuses what violates a rule, if there is one, given the message of a rule that gives none. -/
def Rule.enforce {α : Type} (r : Option (Rule α)) (violates : α → Bool) (own : α → String) :
    Except Refusal Unit :=
  match r with
  | none => .ok ()
  | some r => refuseIf (violates r.demand) (r.messageOr (own r.demand))

/-- Checks of text. -/
structure TextCheck where
  required : Requirement := .flag false
  minLength : Option (Rule Nat) := none
  maxLength : Option (Rule Nat) := none
  pattern : Option (Rule Pattern) := none
  email : Bool := false
  url : Bool := false
  date : Bool := false

/-- Checks of numbers. -/
structure NumericCheck where
  required : Requirement := .flag false
  min : Option (Rule Double) := none
  max : Option (Rule Double) := none

/-- Checks of boxes and switches. -/
structure BoxCheck where
  required : Requirement := .flag false

/-- Checks of selections of several texts. -/
structure SelectionCheck where
  required : Requirement := .flag false

/-! ## Text -/

/-- Whether a value is a text that passes a test; text with unpaired surrogates passes none. -/
def isTextWith (p : String → Bool) : Value → Bool
  | .text (.plain s) => p s
  | _ => false

/-- Refuses a text that denotes no date. -/
def refuseUnlessDate (today : Date) (v : Value) : Except Refusal Unit :=
  match v with
  | .text t =>
    match Calendar.Phrase.dateOf today t with
    | .ok _ => .ok ()
    | .error .noDate => .error (.violation "Invalid date")
    | .error .fractionLost => .error (.fault .fractionLost)
  | _ => .error (.violation "Invalid date")

/-- True of null and of the empty text. -/
def isNothing : Value → Bool
  | .null => true
  | .text t => t = ""
  | _ => false

/-- Judges a value. -/
def TextCheck.run (today : Date) (c : TextCheck) (v : Value) : Except Refusal Value := do
  if isNothing v then
    c.required.enforce
    return v
  else
    match v.points? with
    | none => throw (.violation "Expected text")
    | some points =>
      Rule.enforce c.minLength (points.length < ·)
        fun n => "Must be at least " ++ toString n ++ " characters"
      Rule.enforce c.maxLength (· < points.length)
        fun n => "Must be at most " ++ toString n ++ " characters"
      Rule.enforce c.pattern (fun p => !p.occursIn points) fun _ => "Invalid format"
      refuseIf (c.email && !isTextWith isEmailAddress v) "Invalid email"
      refuseIf (c.url && !isTextWith isWebAddress v) "Invalid URL"
      if c.date then refuseUnlessDate today v
      return v

/-! ## Numbers -/

/-- Judges a value. -/
def NumericCheck.run (c : NumericCheck) (v : Value) : Except Refusal Value := do
  if isVacant v then
    c.required.enforce
    return .null
  else
    let x ← enteredNumber v
    Rule.enforce c.min (fun b => x.lt (.float b)) fun b => "Must be at least " ++ boundText b
    Rule.enforce c.max (fun b => Number.lt (.float b) x) fun b => "Must be at most " ++ boundText b
    return x.value

/-! ## Boxes and selections -/

/-- Judges a value.  A required box has to be ticked. -/
def BoxCheck.run (c : BoxCheck) (v : Value) : Except Refusal Value := do
  match v with
  | .null =>
    c.required.enforce
    return .null
  | .bool ticked =>
    if !ticked then c.required.enforce
    return .bool ticked
  | _ => throw (.violation "Expected true or false")

/-- Judges a value.  A required selection has to hold an item. -/
def SelectionCheck.run (c : SelectionCheck) (v : Value) : Except Refusal Value := do
  match v with
  | .null =>
    c.required.enforce
    return .null
  | v =>
    match v.items? with
    | none => throw (.violation "Expected a list of strings")
    | some items =>
      refuseIf (items.any fun item => item.points?.isNone) "Expected a list of strings"
      if items.isEmpty then c.required.enforce
      return .list items

/-! ## All variants -/

/-- The check of a field. -/
inductive Check where
  | text (c : TextCheck)
  | number (c : NumericCheck)
  | box (c : BoxCheck)
  | selection (c : SelectionCheck)

/-- Judges a value. -/
def Check.run (today : Date) : Check → Value → Except Refusal Value
  | .text c, v => c.run today v
  | .number c, v => c.run v
  | .box c, v => c.run v
  | .selection c, v => c.run v

end FormEngine
