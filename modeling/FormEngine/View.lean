import FormEngine.Form.Dump
import FormEngine.Draft

/-!
# Views

What a draft looks like right now: the layout of its form without the hidden fields, and in the
place of each visible field whatever a painter makes of it.  `View` is such a painted layout;
stacks, grids and sections stay even when all that they hold is hidden.

`FieldCard.of` is the painter that is used when no other is given: it collects all that a widget
needs to show a field.
-/

namespace FormEngine

/-- A part of a painted layout. -/
inductive View (α : Type) where
  | field (payload : α)
  | stack (distance : Distance) (children : List (View α))
  /-- Cells with the columns that they span. -/
  | grid (cols : Columns) (distance : Distance) (cells : List (Nat × View α))
  /-- A section, whose heading has a title and perhaps a subtitle. -/
  | segment (heading : Option (Text × Option Text)) (divider collapsible : Bool)
      (children : List (View α))

/-- What a painter makes of a field in a draft, if anything. -/
abbrev Painter (α : Type) := Field → Draft → Option α

namespace Layout

variable {α : Type}

/-- The heading of a section: none without a title. -/
def headingOf (title subtitle : Option Text) : Option (Text × Option Text) :=
  match title with
  | none => none
  | some t => if t = "" then none else some (t, subtitle)

/-- What stands in the place of a field. -/
def paintField (d : Draft) (painter : Painter α) (id : String) : Except Fault (Option (View α)) :=
  match d.form.field? id with
  | none => .error (.unknownShown id)
  | some f => if d.shows id then .ok ((painter f d).map .field) else .ok none

mutual

/-- Paints a part of a layout; a hidden field leaves nothing. -/
def paint (d : Draft) (painter : Painter α) : Layout → Except Fault (Option (View α))
  | .field _ id => paintField d painter id
  | .stack _ distance children => do
    let views ← paintAll d painter children
    return some (.stack distance views)
  | .grid _ cols distance children => do
    let cells ← paintCells d painter cols children
    return some (.grid cols distance cells)
  | .segment _ title subtitle divider collapsible children => do
    let views ← paintAll d painter children
    let heading := headingOf title subtitle
    return some (.segment heading (heading.isSome && divider) collapsible views)

/-- Paints parts of a layout, leaving out what leaves nothing. -/
def paintAll (d : Draft) (painter : Painter α) : List Layout → Except Fault (List (View α))
  | [] => .ok []
  | part :: parts => do
    let view ← paint d painter part
    let views ← paintAll d painter parts
    return view.toList ++ views

/-- Paints the cells of a grid, none of which spans more columns than there are. -/
def paintCells (d : Draft) (painter : Painter α) (cols : Columns) :
    List Layout → Except Fault (List (Nat × View α))
  | [] => .ok []
  | part :: parts => do
    let view ← paint d painter part
    let cells ← paintCells d painter cols parts
    return (view.toList.map fun v => (min part.span.1 cols.1, v)) ++ cells

end

end Layout

/-- All that a widget needs to show a field. -/
structure FieldCard where
  fieldId : Text
  label : Text
  widget : Widget
  inputType : Option Text
  placeholder : Option Text
  props : Mapping Value
  required : Bool
  value : Value
  touched : Bool
  error : Option Text

/-- What a widget needs to show a field of a draft. -/
def FieldCard.of (f : Field) (d : Draft) : FieldCard :=
  let id := f.id.getD ""
  { fieldId := id
    label := f.label
    widget := f.widget
    inputType := f.inputType
    placeholder := f.placeholder
    props := f.props
    required := f.isMandatory
    value := (d.values.get? id).getD .null
    touched := d.touched.contains id
    error := (d.shownErrors.get? id).bind List.head? }

/-- A painted draft: the texts and the layout of its form, the names of its visible fields, and the
errors that are shown. -/
structure DraftView (α : Type) where
  formId : String
  intro : Intro
  layout : List (View α)
  visibleKeys : List Text
  errors : Mapping (List Text)

namespace Draft

variable {α : Type}

/-- Paints the layout of the form. -/
def paintLayout (d : Draft) (painter : Painter α) : Except Fault (List (View α)) :=
  Layout.paintAll d painter d.form.layout

/-- Paints the whole draft. -/
def paint (d : Draft) (painter : Painter α) : Except Fault (DraftView α) := do
  let layout ← d.paintLayout painter
  return ⟨d.form.id, d.form.intro, layout, d.visibleIds, d.shownErrors⟩

end Draft

/-! ## Writing -/

/-- The document of a field card. -/
def FieldCard.dump (v : FieldCard) : Value :=
  document [("kind", .text "field"), ("field_id", .text v.fieldId), ("label", .text v.label),
    ("renderer", .text v.widget.name), ("input_type", textOrNull v.inputType),
    ("placeholder", textOrNull v.placeholder), ("props", .ofMapping v.props),
    ("required", .bool v.required), ("value", v.value), ("touched", .bool v.touched),
    ("error", textOrNull v.error)]

/-- The document of a heading. -/
def dumpHeading : Option (Text × Option Text) → Value
  | none => .null
  | some (title, subtitle) => document [("title", .text title), ("subtitle", textOrNull subtitle)]

namespace View

variable {α : Type}

mutual

/-- The document of a painted part. -/
def dump (payload : α → Value) : View α → Value
  | .field p => payload p
  | .stack distance children =>
    document [("kind", .text "stack"), ("spacing", .text distance.name),
      ("children", .list (dumpAll payload children))]
  | .grid cols distance cells =>
    document [("kind", .text "grid"), ("cols", .int cols.1), ("spacing", .text distance.name),
      ("cells", .list (dumpCells payload cells))]
  | .segment heading divider collapsible children =>
    document [("kind", .text "section"), ("header", dumpHeading heading),
      ("divider", .bool divider), ("collapsible", .bool collapsible),
      ("children", .list (dumpAll payload children))]

/-- The documents of painted parts. -/
def dumpAll (payload : α → Value) : List (View α) → List Value
  | [] => []
  | view :: views => dump payload view :: dumpAll payload views

/-- The documents of cells. -/
def dumpCells (payload : α → Value) : List (Nat × View α) → List Value
  | [] => []
  | (span, view) :: cells =>
    document [("col_span", .int span), ("node", dump payload view)] :: dumpCells payload cells

end

end View

/-- The messages of a field as a document. -/
def dumpMessages (messages : List Text) : Value := .list (messages.map Value.text)

/-- Errors as a document. -/
def dumpErrors (errors : Mapping (List Text)) : Value :=
  .ofMapping (errors.mapValues fun _ messages => dumpMessages messages)

/-- The document of a painted draft. -/
def DraftView.dump {α : Type} (payload : α → Value) (v : DraftView α) : Value :=
  document [("form_id", .text v.formId), ("meta", v.intro.dump),
    ("layout", .list (View.dumpAll payload v.layout)),
    ("visible_fields", .list (v.visibleKeys.map Value.text)), ("errors", dumpErrors v.errors)]

end FormEngine
