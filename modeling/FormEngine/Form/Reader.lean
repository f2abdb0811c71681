import FormEngine.Form.Scalar

/-!
# Reading forms

From a document to the form that it declares.  Every part of a declaration is a mapping; its members
are looked up under two spellings, `minLength` before `min_length`, and those that nobody asks for
are ignored.  Problems are told in the order in which the members are declared here.

`Form.read` reads a whole form and then checks that its parts agree: the fields are called what
they say, and every field that the layout shows or a condition names exists.
-/

namespace FormEngine

/-- The members of a mapping. -/
abbrev Members := List (Value × Value)

namespace Members

/-- The value under the first of two spellings that occurs, and that spelling. -/
def find? (es : Members) (spelling other : String) : Option (String × Value) :=
  match Value.lookupText spelling es with
  | some v => some (spelling, v)
  | none => (Value.lookupText other es).map fun v => (other, v)

/-- A member that has to be there. -/
def need {α : Type} (es : Members) (spelling other : String) (read : Value → Checked α) :
    Checked α :=
  match es.find? spelling other with
  | some (key, v) => (read v).within (.name key)
  | none => (Checked.problem .missing).within (.name spelling)

/-- A member that may be missing, and what it is then. -/
def take {α : Type} (es : Members) (spelling other : String) (default : α)
    (read : Value → Checked α) : Checked α :=
  match es.find? spelling other with
  | some (key, v) => (read v).within (.name key)
  | none => .accepted default

end Members

/-- The members of a mapping, or of an object that the host has prepared from one. -/
def membersOf? (kind : Prepared) : Value → Option Members
  | .map es => some es
  | .prepared k (.map es) => if k = kind then some es else none
  | _ => none

/-- Reads a part that is a mapping. -/
def readPart {α : Type} (name : String) (read : Members → Checked α) : Value → Checked α
  | .map es => read es
  | _ => .problem (.notMappingOf name)

/-- The readings of numbered items, each one step inside. -/
def readItems {α : Type} (read : Value → Checked α) : Nat → List Value → Checked (List α)
  | _, [] => .accepted []
  | i, v :: vs => List.cons <$> (read v).within (.index i) <*> readItems read (i + 1) vs

/-- Reads a list. -/
def readList {α : Type} (read : Value → Checked α) (v : Value) : Checked (List α) :=
  match v.items? with
  | some items => readItems read 0 items
  | none => .problem .notList

/-- The step to the value under a key. -/
def stepTo : Value → Step
  | .bool b => .index (if b then 1 else 0)
  | .int i => if -(Nat.pow 2 63 : Int) ≤ i ∧ i < Nat.pow 2 63 then .index i else .name (toString i)
  | .text t => .name t.lossy
  | key => .name key.display

/-- The readings of the entries of a mapping whose keys are texts. -/
def readEntries {α : Type} (read : Value → Checked α) : Members → Checked (List (Text × α))
  | [] => .accepted []
  | (key, v) :: es =>
    let entry := Prod.mk <$> ((Scalar.readText key).within (.name "[key]")).within (stepTo key)
      <*> (read v).within (stepTo key)
    List.cons <$> entry <*> readEntries read es

/-- Reads a mapping whose keys are texts. -/
def readMapping {α : Type} (read : Value → Checked α) (v : Value) : Checked (Mapping α) :=
  match v with
  | .map es => Mapping.ofList <$> readEntries read es
  | _ => .problem .notMapping

/-! ## Rules -/

/-- Reads the message of a rule. -/
def readMessage (es : Members) : Checked (Option Text) :=
  es.take "message" "message" none (Scalar.orNull Scalar.readText)

/-- Reads a rule, given its name and how its demand is read. -/
def Rule.read {α : Type} (name : String) (readDemand : Value → Checked α) :
    Value → Checked (Rule α) :=
  readPart name fun es => Rule.mk <$> es.need "value" "value" readDemand <*> readMessage es

/-- Reads a least or greatest length. -/
def Rule.readLength : Value → Checked (Rule Nat) := Rule.read "LengthRule" Scalar.readCount

/-- Reads a least or greatest number. -/
def Rule.readBound : Value → Checked (Rule Double) := Rule.read "BoundRule" Scalar.readDouble

/-- Reads a pattern from its source. -/
def readPatternSource (v : Value) : Checked Pattern :=
  (Scalar.readText v).bind fun source =>
    match Pattern.read source with
    | .ok p => .accepted p
    | .error (.malformed cause index) => .objected (.invalidPattern source cause index)
    | .error .conflictingOptions => .objected .conflictingPattern
    | .error .countTooLarge => .stopped .countTooLarge

/-- Reads a rule with a pattern. -/
def Rule.readPattern : Value → Checked (Rule Pattern) :=
  Rule.read "PatternRule" readPatternSource

/-- Reads whether a field has to be filled in.  Text is a message, even if it could be read as a
boolean. -/
def Requirement.read (v : Value) : Checked Requirement :=
  match v with
  | .text t => .accepted (.message t)
  | v =>
    match Scalar.readBoolean v, Scalar.readText v with
    | .accepted b, _ => .accepted (.flag b)
    | _, .accepted s => .accepted (.message s)
    | b, s => (fun _ _ => .flag false) <$> b.within (.name "bool") <*> s.within (.name "str")

/-- Reads a predicate. -/
def Predicate.read (v : Value) (host : Predicate.Host := .ofDescription) : Checked Predicate :=
  match v with
  | .prepared .predicate d => .accepted (host d)
  | _ => .problem .notCallable

/-- Reads the rules of a field. -/
def Rules.read (v : Value) (host : Predicate.Host := .ofDescription) : Checked Rules :=
  v |> readPart "RuleSet" fun es =>
    Rules.mk
      <$> es.take "required" "required" (.flag false) Requirement.read
      <*> es.take "minLength" "min_length" none (Scalar.orNull Rule.readLength)
      <*> es.take "maxLength" "max_length" none (Scalar.orNull Rule.readLength)
      <*> es.take "min" "min" none (Scalar.orNull Rule.readBound)
      <*> es.take "max" "max" none (Scalar.orNull Rule.readBound)
      <*> es.take "pattern" "pattern" none (Scalar.orNull Rule.readPattern)
      <*> es.take "validate" "validate_" none (Scalar.orNull (Predicate.read · host))

/-! ## Conditions -/

/-- Reads a condition. -/
def Condition.read (v : Value) : Checked Condition :=
  match membersOf? .condition v with
  | none => .problem (.notMappingOf "VisibilityCondition")
  | some es =>
    Condition.mk
      <$> es.need "field" "field" Scalar.readName
      <*> es.need "op" "op" Scalar.readText
      <*> es.take "value" "value" .null .accepted

/-- Reads one condition or a list of them. -/
def VisibilityRule.read (v : Value) : Checked VisibilityRule :=
  match Condition.read v, readList Condition.read v with
  | .accepted c, _ => .accepted (.single c)
  | _, .accepted cs => .accepted (.all cs)
  | c, cs => (fun _ _ => .all []) <$> c.within (.name "VisibilityCondition")
      <*> cs.within (.name "list[VisibilityCondition]")

/-! ## Fields -/

/-- Reads a field. -/
def Field.read (v : Value) (host : Predicate.Host := .ofDescription) : Checked Field :=
  match membersOf? .field v with
  | none => .problem (.notMappingOf "FieldDefinition")
  | some es =>
    Field.mk
      <$> es.take "id" "id" none (Scalar.orNull Scalar.readText)
      <*> es.take "label" "label" "" Scalar.readText
      <*> es.need "renderer" "renderer"
        (Scalar.readEnum Widget.ofName? (Widget.all.map Widget.name))
      <*> es.take "inputType" "input_type" none (Scalar.orNull Scalar.readText)
      <*> es.take "placeholder" "placeholder" none (Scalar.orNull Scalar.readText)
      <*> es.take "defaultValue" "default_value" none (fun v => .accepted (some v))
      <*> es.take "props" "props" .empty (readMapping .accepted)
      <*> es.take "rules" "rules" none (Scalar.orNull (Rules.read · host))
      <*> es.take "visibleWhen" "visible_when" none (Scalar.orNull VisibilityRule.read)

/-! ## Layout -/

namespace Layout

/-- The kinds of parts of a layout. -/
inductive Kind where
  | field
  | stack
  | grid
  | segment
deriving DecidableEq, Repr

/-- The name of a kind. -/
def Kind.name : Kind → String
  | .field => "field"
  | .stack => "stack"
  | .grid => "grid"
  | .segment => "section"

/-- The kind of a name. -/
def Kind.ofName? (name : String) : Option Kind :=
  [Kind.field, .stack, .grid, .segment].find? (·.name = name)

/-- The name of the declaration of a kind. -/
def Kind.declaration : Kind → String
  | .field => "FieldNode"
  | .stack => "StackNode"
  | .grid => "GridNode"
  | .segment => "SectionNode"

/-- A single column. -/
def oneColumn : Columns := ⟨1, by decide⟩

/-- Two columns. -/
def twoColumns : Columns := ⟨2, by decide⟩

/-- Reads the columns that a part claims. -/
def readSpan (es : Members) : Checked Columns :=
  es.take "colSpan" "col_span" oneColumn Scalar.readColumns

/-- Reads the distance between parts. -/
def readDistance (es : Members) : Checked Distance :=
  es.take "spacing" "spacing" .medium
    (Scalar.readEnum Distance.ofName? (Distance.all.map Distance.name))

/-- Checks that the kind, if it is given, is the expected one. -/
def readKind (kind : Kind) (es : Members) : Checked Unit :=
  es.take "kind" "kind" () fun v =>
    match v with
    | .text (.raw ..) => .problem .notUnicode
    | v => if v.isText kind.name then .accepted () else .problem (.notExactly kind.name)

/-- Reads a part of a kind, given the reading of its children. -/
def readOfKind (kind : Kind) (es : Members) (children : Checked (List Layout)) :
    Checked Layout :=
  match kind with
  | .field =>
    (fun span _ fieldId => .field span fieldId) <$> readSpan es <*> readKind kind es
      <*> es.need "fieldId" "field_id" Scalar.readName
  | .stack =>
    (fun span _ distance children => .stack span distance children) <$> readSpan es
      <*> readKind kind es <*> readDistance es <*> children
  | .grid =>
    (fun span _ cols distance children => .grid span cols distance children)
      <$> readSpan es <*> readKind kind es
      <*> es.take "cols" "cols" twoColumns Scalar.readColumns <*> readDistance es <*> children
  | .segment =>
    (fun span _ title subtitle divider collapsible children =>
      .segment span title subtitle divider collapsible children)
      <$> readSpan es <*> readKind kind es
      <*> es.take "title" "title" none (Scalar.orNull Scalar.readText)
      <*> es.take "subtitle" "subtitle" none (Scalar.orNull Scalar.readText)
      <*> es.take "withDivider" "with_divider" true Scalar.readBoolean
      <*> es.take "collapsible" "collapsible" false Scalar.readBoolean
      <*> children

mutual

/-- Reads a part of a layout, whose kind is told by a member. -/
def read : Value → Checked Layout
  | .map es =>
    match Value.lookupText "kind" es with
    | none => .problem .kindMissing
    | some tag =>
      match (match tag with | .text (.plain name) => Kind.ofName? name | _ => none) with
      | none => .problem (.kindUnknown tag.plain.lossy)
      | some kind => (readOfKind kind es (readChildren es)).within (.name kind.name)
  | .date _ => .problem .kindMissing
  | .dateTime _ => .problem .kindMissing
  | .prepared .. => .problem .kindMissing
  | _ => .problem .notNode

/-- Reads the children among the members of a part. -/
def readChildren : Members → Checked (List Layout)
  | [] => .accepted []
  | (key, v) :: es =>
    if key.isText "children" then (readAll v).within (.name "children") else readChildren es

/-- Reads a list of parts. -/
def readAll : Value → Checked (List Layout)
  | .list items => readNumbered 0 items
  | .tuple items => readNumbered 0 items
  | .set items => readNumbered 0 items
  | _ => .problem .notList

/-- Reads numbered parts, each one step inside. -/
def readNumbered : Nat → List Value → Checked (List Layout)
  | _, [] => .accepted []
  | i, v :: vs => List.cons <$> (read v).within (.index i) <*> readNumbered (i + 1) vs

end

/-- Reads a part of a known kind. -/
def readAs (kind : Kind) : Value → Checked Layout :=
  readPart kind.declaration fun es => readOfKind kind es (readChildren es)

end Layout

/-! ## Forms -/

/-- Reads the texts that introduce a form. -/
def Intro.read : Value → Checked Intro :=
  readPart "FormMeta" fun es =>
    Intro.mk
      <$> es.take "title" "title" "" Scalar.readText
      <*> es.take "subtitle" "subtitle" none (Scalar.orNull Scalar.readText)
      <*> es.take "description" "description" none (Scalar.orNull Scalar.readText)

namespace Form

/-- Whether a value counts as something: all but null, false, zero and what is empty. -/
def isSomething : Value → Bool
  | .null => false
  | .bool b => b
  | .int i => i ≠ 0
  | .float x => !(Number.float x).same (.int 0)
  | .text t => t ≠ ""
  | .bytes octets => !octets.isEmpty
  | .list items => !items.isEmpty
  | .tuple items => !items.isEmpty
  | .set items => !items.isEmpty
  | .map es => !es.isEmpty
  | _ => true

/-- The id that a field in a list gives. -/
def listedId (v : Value) : Value :=
  ((membersOf? .field v).bind (Value.lookupText "id")).getD .null

/-- The fields of a list under their ids. -/
def underIds : List Value → Members → Checked Members
  | [], acc => .accepted acc
  | v :: vs, acc =>
    let id := listedId v
    if !isSomething id then .objected .idMissing
    else match id.unhashable? with
      | some kind => .stopped (.unhashableId kind)
      | none =>
        if Value.hasKey id acc then .objected (.idRepeated id.plain)
        else underIds vs (acc ++ [(id, v)])

/-- Reads the fields of a form: a mapping, or a list of fields that give their ids. -/
def readFields (v : Value) (host : Predicate.Host) : Checked (Mapping Field) :=
  let entries := match v with
    | .list items => (underIds items []).map Value.map
    | v => .accepted v
  (entries.bind (readMapping (Field.read · host))).bind fun fields =>
    if fields.isEmpty then .problem .noEntries else .accepted fields

/-- The first field that says it is called something else. -/
def otherId? (fields : Mapping Field) : Option Objection :=
  fields.entries.findSome? fun (key, field) =>
    match field.id with
    | none => none
    | some id => if id = key then none else some (.otherId key id)

/-- The first field of the layout that is not declared. -/
def unknownShown? (fields : Mapping Field) (layout : List Layout) : Option Objection :=
  (Layout.fieldIdsOf layout).findSome? fun (id : String) =>
    if fields.contains id then none else some (.unknownShown id)

/-- The first condition that names no declared field, or the field that it belongs to. -/
def wrongCondition? (fields : Mapping Field) : Option Objection :=
  fields.entries.findSome? fun (key, field) =>
    field.conditions.findSome? fun c =>
      if !fields.contains c.field then some (.unknownCondition key c.field)
      else if c.field = key then some (.ownCondition key)
      else none

/-- The first disagreement between the parts of a form. -/
def disagreement? (form : Form) : Option Objection :=
  ((otherId? form.fields).or (unknownShown? form.fields form.layout)).or
    (wrongCondition? form.fields)

/-- The form with every field called by its key. -/
def named (form : Form) : Form :=
  { form with fields := form.fields.mapValues fun key field => { field with id := some key } }

/-- The form, if its parts agree. -/
def agreed (form : Form) : Checked Form :=
  match form.disagreement? with
  | some objection => .objected objection
  | none => .accepted form.named

/-- The parts of a form, before they are compared. -/
def readParts (v : Value) (host : Predicate.Host) : Checked Form :=
  v |> readPart "FormSchema" fun es =>
    Form.mk
      <$> es.need "id" "id" Scalar.readName
      <*> es.take "meta" "meta" {} Intro.read
      <*> es.need "fields" "fields" (readFields · host)
      <*> es.take "layout" "layout" [] Layout.readAll

/-- Reads a form; what its predicates answer is up to the host. -/
def read (v : Value) (host : Predicate.Host := .ofDescription) : Checked Form :=
  (readParts v host).bind agreed

end Form

end FormEngine
