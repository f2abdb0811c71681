import FormEngine.Check.Basic

/-!
# From rules to checks

The check of a field is chosen once, from the widget that shows the field, and carries those rules
that mean something for the widget.  `Gate` joins it with the predicate of the field.
-/

namespace FormEngine

/-- What the value of a field has to pass: a check, and then a predicate if there is one. -/
structure Gate where
  fieldId : Text
  check : Check
  predicate : Option Predicate

namespace Field

/-- Whether the type of input has a name, in any case. -/
def hasInputType (f : Field) (name : String) : Bool :=
  match f.inputType.getD "" with
  | .plain s => String.ofList (s.toList.map Char.toLower) = name
  | .raw .. => false

/-- The check of a field that is shown as text. -/
def textCheck (f : Field) (rules : Rules) : TextCheck where
  required := rules.required
  minLength := rules.minLength
  maxLength := rules.maxLength
  pattern := rules.pattern
  email := f.hasInputType "email"
  url := f.hasInputType "url"
  date := f.widget = .date

/-- The check of a field. -/
def check (f : Field) : Check :=
  let rules := f.rules.getD {}
  match f.widget with
  | .number => .number ⟨rules.required, rules.min, rules.max⟩
  | .checkbox => .box ⟨rules.required⟩
  | .switch => .box ⟨rules.required⟩
  | .multiselect => .selection ⟨rules.required⟩
  | _ => .text (f.textCheck rules)

/-- What the value of a field has to pass. -/
def gate (f : Field) : Gate := ⟨f.id.getD "", f.check, f.rules.bind (·.predicate)⟩

end Field

end FormEngine
