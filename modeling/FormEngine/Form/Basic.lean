import FormEngine.Pattern.Reader
import FormEngine.Form.Predicate

/-!
# Forms

A form as it is declared: its fields with their rules and conditions, and the layout in which they
are shown.  `Layout.fieldIds` lists the places of a layout where fields are shown, in the order in
which they are met from top to bottom.
-/

namespace FormEngine

/-! ## Vocabulary -/

/-- The kinds of widgets that show a field. -/
inductive Widget where
  | text
  | textarea
  | select
  | multiselect
  | number
  | date
  | checkbox
  | radio
  | switch
  | file
deriving DecidableEq, Repr, Inhabited

namespace Widget

/-- All kinds, in the order in which messages list them. -/
def all : List Widget :=
  [.text, .textarea, .select, .multiselect, .number, .date, .checkbox, .radio, .switch, .file]

/-- The name of a kind. -/
def name : Widget → String
  | .text => "text"
  | .textarea => "textarea"
  | .select => "select"
  | .multiselect => "multiselect"
  | .number => "number"
  | .date => "date"
  | .checkbox => "checkbox"
  | .radio => "radio"
  | .switch => "switch"
  | .file => "file"

/-- The kind of a name. -/
def ofName? (name : String) : Option Widget := all.find? (·.name = name)

end Widget

/-- The distances between the parts of a layout. -/
inductive Distance where
  | small
  | medium
  | large
deriving DecidableEq, Repr, Inhabited

namespace Distance

/-- All distances, in the order in which messages list them. -/
def all : List Distance := [.small, .medium, .large]

/-- The name of a distance. -/
def name : Distance → String
  | .small => "sm"
  | .medium => "md"
  | .large => "lg"

/-- The distance of a name. -/
def ofName? (name : String) : Option Distance := all.find? (·.name = name)

end Distance

/-! ## Rules -/

/-- A rule: the length, the bound or the pattern that it sets, and the message of its violation. -/
structure Rule (α : Type) where
  demand : α
  message : Option Text
deriving Repr

/-- The message of a violation: the one that the rule gives, unless it is empty, or else another. -/
def Rule.messageOr {α : Type} (r : Rule α) (own : String) : Text :=
  match r.message with
  | some text => if text = "" then own else text
  | none => own

/-- Whether a field has to be filled in: a plain answer, or the message of the violation, where an
empty message means no. -/
inductive Requirement where
  | flag (required : Bool)
  | message (text : Text)
deriving DecidableEq, Repr, Inhabited

namespace Requirement

/-- Whether the field has to be filled in. -/
def isDemanded : Requirement → Bool
  | .flag required => required
  | .message text => text ≠ ""

/-- The message of the violation. -/
def reminder : Requirement → Text
  | .flag _ => "Required"
  | .message text => if text = "" then "Required" else text

end Requirement

/-- The rules of a field, each of them optional. -/
structure Rules where
  required : Requirement := .flag false
  /-- The least number of characters. -/
  minLength : Option (Rule Nat) := none
  /-- The greatest number of characters. -/
  maxLength : Option (Rule Nat) := none
  /-- The least number. -/
  min : Option (Rule Double) := none
  /-- The greatest number. -/
  max : Option (Rule Double) := none
  /-- A pattern that occurs in every accepted text. -/
  pattern : Option (Rule Pattern) := none
  predicate : Option Predicate := none
deriving Inhabited

/-! ## Conditions -/

/-- A condition on the value of a field.  The operator is kept as it is written; see
`Condition.holds` for those that have a meaning. -/
structure Condition where
  field : String
  operator : Text
  value : Value

/-- When a field is part of the form: under one condition, or under all of a list. -/
inductive VisibilityRule where
  | single (condition : Condition)
  | all (conditions : List Condition)

/-- The conditions of a rule. -/
def VisibilityRule.conditions : VisibilityRule → List Condition
  | .single c => [c]
  | .all cs => cs

/-! ## Fields -/

/-- The declaration of a field.  A default that is declared as null is not the same as none. -/
structure Field where
  id : Option Text
  label : Text
  widget : Widget
  inputType : Option Text
  placeholder : Option Text
  default : Option Value
  props : Mapping Value
  rules : Option Rules
  visibleWhen : Option VisibilityRule
deriving Inhabited

namespace Field

/-- Whether a default is declared. -/
def declaresDefault (f : Field) : Bool := f.default.isSome

/-- Whether the field has to be filled in. -/
def isMandatory (f : Field) : Bool := f.rules.any (·.required.isDemanded)

/-- The conditions under which the field is part of the form. -/
def conditions (f : Field) : List Condition :=
  (f.visibleWhen.map VisibilityRule.conditions).getD []

end Field

/-! ## Layout -/

/-- A count of columns, at least one. -/
abbrev Columns := { n : Nat // 1 ≤ n }

/-- A part of a layout.  Each claims a number of columns when it stands inside a grid. -/
inductive Layout where
  | field (span : Columns) (fieldId : String)
  | stack (span : Columns) (distance : Distance) (children : List Layout)
  | grid (span : Columns) (cols : Columns) (distance : Distance) (children : List Layout)
  /-- A section with an optional heading. -/
  | segment (span : Columns) (title subtitle : Option Text) (divider collapsible : Bool)
      (children : List Layout)

namespace Layout

/-- The columns that a part claims inside a grid. -/
def span : Layout → Columns
  | .field span _ => span
  | .stack span _ _ => span
  | .grid span _ _ _ => span
  | .segment span _ _ _ _ _ => span

mutual

/-- The fields that a part shows, in order. -/
def fieldIds : Layout → List String
  | .field _ id => [id]
  | .stack _ _ children => fieldIdsOf children
  | .grid _ _ _ children => fieldIdsOf children
  | .segment _ _ _ _ _ children => fieldIdsOf children

/-- The fields that a list of parts shows, in order. -/
def fieldIdsOf : List Layout → List String
  | [] => []
  | node :: nodes => fieldIds node ++ fieldIdsOf nodes

end

end Layout

/-! ## Forms -/

/-- The texts that introduce a form. -/
structure Intro where
  title : Text := ""
  subtitle : Option Text := none
  description : Option Text := none
deriving DecidableEq, Repr, Inhabited

/-- A form as it is declared. -/
structure Form where
  id : String
  intro : Intro
  fields : Mapping Field
  layout : List Layout
deriving Inhabited

namespace Form

/-- The declaration of a field. -/
def field? (form : Form) (id : Text) : Option Field := form.fields.get? id

/-- The fields that the layout shows, in order. -/
def shownFields (form : Form) : List String := Layout.fieldIdsOf form.layout

end Form

end FormEngine
