import FormEngine.Form.Basic

/-!
# Writing forms

A declaration written back as a document: every member in its place with its value, defaults
included.  Predicates are left out.
-/

namespace FormEngine

/-- A mapping with the given members. -/
def document (members : List (String × Value)) : Value :=
  .map (members.map fun m => (.text m.1, m.2))

/-- A text, or null. -/
def textOrNull (t : Option Text) : Value := (t.map Value.text).getD .null

/-- What may be missing, or null. -/
def orNull {α : Type} (dump : α → Value) (a : Option α) : Value := (a.map dump).getD .null

/-- A rule, given how its demand is written. -/
def Rule.dump {α : Type} (demand : α → Value) (r : Rule α) : Value :=
  document [("value", demand r.demand), ("message", textOrNull r.message)]

/-- A least or greatest length. -/
def Rule.dumpLength : Rule Nat → Value := Rule.dump fun n => .int n

/-- A least or greatest number. -/
def Rule.dumpBound : Rule Double → Value := Rule.dump Value.float

/-- A rule with a pattern. -/
def Rule.dumpPattern : Rule Pattern → Value := Rule.dump fun p => .text p.source

/-- Whether a field has to be filled in. -/
def Requirement.dump : Requirement → Value
  | .flag required => .bool required
  | .message text => .text text

/-- The rules of a field. -/
def Rules.dump (r : Rules) : Value :=
  document [("required", r.required.dump), ("min_length", orNull Rule.dumpLength r.minLength),
    ("max_length", orNull Rule.dumpLength r.maxLength), ("min", orNull Rule.dumpBound r.min),
    ("max", orNull Rule.dumpBound r.max), ("pattern", orNull Rule.dumpPattern r.pattern)]

/-- A condition. -/
def Condition.dump (c : Condition) : Value :=
  document [("field", .text c.field), ("op", .text c.operator), ("value", c.value)]

/-- One condition or a list of them. -/
def VisibilityRule.dump : VisibilityRule → Value
  | .single c => c.dump
  | .all cs => .list (cs.map Condition.dump)

/-- A field. -/
def Field.dump (f : Field) : Value :=
  document [("id", textOrNull f.id), ("label", .text f.label), ("renderer", .text f.widget.name),
    ("input_type", textOrNull f.inputType), ("placeholder", textOrNull f.placeholder),
    ("default_value", f.default.getD .null), ("props", .ofMapping f.props),
    ("rules", orNull Rules.dump f.rules),
    ("visible_when", orNull VisibilityRule.dump f.visibleWhen)]

namespace Layout

mutual

/-- A part of a layout. -/
def dump : Layout → Value
  | .field span fieldId =>
    document [("col_span", .int span.1), ("kind", .text "field"), ("field_id", .text fieldId)]
  | .stack span distance children =>
    document [("col_span", .int span.1), ("kind", .text "stack"),
      ("spacing", .text distance.name), ("children", .list (dumpAll children))]
  | .grid span cols distance children =>
    document [("col_span", .int span.1), ("kind", .text "grid"), ("cols", .int cols.1),
      ("spacing", .text distance.name), ("children", .list (dumpAll children))]
  | .segment span title subtitle divider collapsible children =>
    document [("col_span", .int span.1), ("kind", .text "section"),
      ("title", textOrNull title), ("subtitle", textOrNull subtitle),
      ("with_divider", .bool divider), ("collapsible", .bool collapsible),
      ("children", .list (dumpAll children))]

/-- The parts of a layout. -/
def dumpAll : List Layout → List Value
  | [] => []
  | node :: nodes => dump node :: dumpAll nodes

end

end Layout

/-- The texts that introduce a form. -/
def Intro.dump (m : Intro) : Value :=
  document [("title", .text m.title), ("subtitle", textOrNull m.subtitle),
    ("description", textOrNull m.description)]

/-- A form. -/
def Form.dump (form : Form) : Value :=
  document [("id", .text form.id), ("meta", form.intro.dump),
    ("fields", .ofMapping (form.fields.mapValues fun _ f => f.dump)),
    ("layout", .list (Layout.dumpAll form.layout))]

end FormEngine
