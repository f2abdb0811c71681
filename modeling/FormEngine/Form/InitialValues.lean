import FormEngine.Form.Basic

/-!
# Initial values

Every field starts with the default that its declaration gives, be it null, and otherwise with the
empty value of its widget.
-/

namespace FormEngine

namespace Field

/-- The empty value of the widget of a field. -/
def emptyValue (f : Field) : Value :=
  match f.widget with
  | .checkbox => .bool false
  | .switch => .bool false
  | .multiselect => .list []
  | _ => .text ""

/-- The value that a field starts with. -/
def initialValue (f : Field) : Value := f.default.getD f.emptyValue

end Field

/-- The values that a form starts with, in the order of its fields. -/
def Form.initialValues (form : Form) : Mapping Value :=
  form.fields.mapValues fun _ f => f.initialValue

end FormEngine
