import FormEngine.Checklist
import FormEngine.Form.InitialValues
import FormEngine.Form.Visibility

/-!
# Drafts

A draft is a form that is being filled in: the value of every field, which fields have been touched,
which are visible, and what is wrong with the visible ones.

Visibility and errors always belong to the current values: whatever writes values derives both anew,
and stores nothing before everything is derived.  An operation with a fault therefore leaves the
draft as it was; `Draft.Step` gives the draft after an operation in either case.

Hidden fields keep their values.  They are neither judged nor submitted.
-/

namespace FormEngine

/-- What receives submitted data; it may fail with a message. -/
abbrev Receiver := Mapping Value → Except Text Unit

/-- A form that is being filled in. -/
structure Draft where
  form : Form
  checklist : Checklist
  receiver : Option Receiver
  values : Mapping Value
  /-- The touched fields in the order of the form. -/
  touched : List Text
  visibility : Mapping Bool
  errors : Mapping (List Text)
  /-- Whether a submission has failed since the last reset. -/
  attempted : Bool
  /-- How many submissions have been accepted. -/
  submissions : Nat
deriving Inhabited

namespace Draft

/-- What an operation answers, and the draft after it. -/
structure Step (α : Type) where
  outcome : Traced α
  draft : Draft

/-! ## Reading -/

/-- The key of a declared field. -/
def fieldKey (d : Draft) (key : Value) : Except Fault Text :=
  match key.unhashable? with
  | some kind => .error (.unhashableKey kind)
  | none =>
    match key with
    | .text id => if d.form.fields.contains id then .ok id else .error (.unknownField key)
    | _ => .error (.unknownField key)

/-- The value of a field. -/
def value (d : Draft) (key : Value) : Except Fault Value := do
  let id ← d.fieldKey key
  return (d.values.get? id).getD .null

/-- Whether the field with an id is visible; no other id is. -/
def shows (d : Draft) (id : Text) : Bool := (d.visibility.get? id).getD false

/-- Whether a declared field is visible. -/
def showsField (d : Draft) (key : Value) : Except Fault Bool := do
  let id ← d.fieldKey key
  return d.shows id

/-- Whether a key, declared or not, has been touched.  A set is never touched. -/
def hasTouched (d : Draft) (key : Value) : Except Fault Bool :=
  match key with
  | .set _ => .ok false
  | .text id => .ok (d.touched.contains id)
  | key =>
    match key.unhashable? with
    | some kind => .error (.unhashableKey kind)
    | none => .ok false

/-- The keys of the visible fields in the order of the form. -/
def visibleKeys (d : Draft) : List Text := d.form.fields.keys.filter d.shows

/-- The visible fields in the order of the form. -/
def visibleFields (d : Draft) : Mapping Field := d.form.fields.filter fun id _ => d.shows id

/-- The names that the visible fields give themselves, in the order of the form. -/
def visibleIds (d : Draft) : List Text := d.visibleFields.entries.filterMap (·.2.id)

/-- The values of the fields that are not hidden. -/
def visibleValues (d : Draft) : Mapping Value :=
  d.values.filter fun id _ => (d.visibility.get? id).getD true

/-- The errors that are shown: those of touched fields, or all once a submission has failed. -/
def shownErrors (d : Draft) : Mapping (List Text) :=
  d.errors.filter fun id _ => d.attempted || d.touched.contains id

/-- The error that is shown for a key, declared or not. -/
def shownError (d : Draft) (key : Value) : Except Fault (Option Text) :=
  match key.unhashable? with
  | some kind => .error (.unhashableKey kind)
  | none =>
    match key with
    | .text id => .ok ((d.shownErrors.get? id).bind List.head?)
    | _ => .ok none

/-- Whether there are no errors. -/
def isClean (d : Draft) : Bool := d.errors.isEmpty

/-- Judges the visible fields anew, chosen by the names that they give themselves. -/
def judge (today : Date) (d : Draft) : Traced Report :=
  d.checklist.judge today d.values (some d.visibleIds)

/-! ## Writing -/

/-- The verdict on every field, in the order of the form. -/
def judgeVisibility (values : Mapping Value) :
    List (Text × Field) → Traced (List (Text × Bool))
  | [] => pure []
  | (id, f) :: rest => do
    let visible ← f.visibleUnder values
    let others ← judgeVisibility values rest
    return (id, visible) :: others

/-- The draft with new values and touched fields, everything else derived from them. -/
def settle (today : Date) (d : Draft) (values : Mapping Value) (touched : List Text) :
    Traced Draft := do
  let visibility ← judgeVisibility values d.form.fields.entries
  let visible := (visibility.filter (·.2)).map (·.1)
  let report ← d.checklist.judge today values (some visible)
  return { d with values, touched, visibility := .ofList visibility, errors := report.errors }

/-- The touched fields together with some more, in the order of the form. -/
def touching (d : Draft) (more : List Text) : List Text :=
  d.form.fields.keys.filter fun id => d.touched.contains id || more.contains id

/-- The step of an operation that answers nothing: its draft, or the old one after a fault. -/
def stepTo (d : Draft) (next : Traced Draft) : Step Unit :=
  { outcome := ⟨next.events, next.result.map fun _ => ()⟩
    draft := match next.result with
      | .ok d' => d'
      | .error _ => d }

/-- The line of the log about written fields. -/
def writeLine (d : Draft) (what : Text) : Text :=
  "Form '" ++ d.form.id ++ "': set " ++ what

/-- Writes one value and marks its field as touched. -/
def write (today : Date) (d : Draft) (key value : Value) : Step Unit :=
  d.stepTo do
    let id ← Traced.ofExcept (d.fieldKey key)
    Traced.log .debug .draft (d.writeLine id)
    d.settle today (d.values.set id value) (d.touching [id])

/-- The entries to write under the keys of declared fields. -/
def fieldEntries (d : Draft) (entries : List (Value × Value)) :
    Except Fault (List (Text × Value)) :=
  entries.mapM fun e => do
    let id ← d.fieldKey e.1
    return (id, e.2)

/-- Writes several values at once and marks their fields as touched.  All keys are looked at before
anything is written. -/
def writeAll (today : Date) (d : Draft) (entries : List (Value × Value)) : Step Unit :=
  d.stepTo do
    let written ← Traced.ofExcept (d.fieldEntries entries)
    let ids := written.map (·.1)
    Traced.log .debug .draft (d.writeLine (Text.join ", " ids))
    d.settle today (d.values.setAll written) (d.touching ids)

/-- Marks a field as touched. -/
def touch (d : Draft) (key : Value) : Step Unit :=
  d.stepTo do
    let id ← Traced.ofExcept (d.fieldKey key)
    return { d with touched := d.touching [id] }

/-- Goes back to the initial values and forgets touched fields and failed submissions. -/
def reset (today : Date) (d : Draft) : Step Unit :=
  d.stepTo do
    let d' ← d.settle today d.form.initialValues []
    return { d' with attempted := false }

/-- A new draft of a form whose checklist has been made. -/
def start (today : Date) (form : Form) (checklist : Checklist) (receiver : Option Receiver) :
    Traced Draft :=
  let blank : Draft :=
    { form, checklist, receiver, values := .empty, touched := [], visibility := .empty,
      errors := .empty, attempted := false, submissions := 0 }
  blank.settle today form.initialValues []

/-- Makes the checklist of a form and starts a draft. -/
def mount (today : Date) (form : Form) (receiver : Option Receiver) : Traced Draft := do
  let checklist ← form.compile
  start today form checklist receiver

/-! ## Submitting -/

/-- The line of the log about a submission that has been refused. -/
def rejectionLine (d : Draft) (r : Report) : Text :=
  "Form '" ++ d.form.id ++ "' submit rejected: " ++ toString r.errors.size
    ++ " field error(s) (" ++ Text.join ", " r.errors.keys ++ ")"

/-- The line of the log about a submission that has been accepted. -/
def submissionLine (d : Draft) (r : Report) : Text :=
  "Form '" ++ d.form.id ++ "' submitted with " ++ toString r.data.size ++ " field(s)"

/-- Hands the data of a submission to the receiver of the call, else to the one of the draft, if
there is any. -/
def handOver (d : Draft) (receiver : Option Receiver) (data : Mapping Value) : Traced Unit := do
  match receiver.map (·, false) <|> d.receiver.map (·, true) with
  | none => return ()
  | some (receive, own) =>
    Traced.event (.submitted own data)
    match receive data with
    | .ok () => return ()
    | .error message => Traced.fault (.raised message)

/-- Judges the visible fields; if all are accepted, counts the submission and hands the data over.
A receiver that fails is a fault, but the submission counts. -/
def submit (today : Date) (d : Draft) (receiver : Option Receiver) : Step Report :=
  let judged := d.judge today
  match judged.result with
  | .error fault => ⟨⟨judged.events, .error fault⟩, d⟩
  | .ok r =>
    if r.isClean then
      let d' := { d with errors := r.errors, submissions := d.submissions + 1 }
      let after : Traced Report := do
        Traced.log .info .draft (d.submissionLine r)
        d'.handOver receiver r.data
        return r
      ⟨⟨judged.events ++ after.events, after.result⟩, d'⟩
    else
      let d' := { d with errors := r.errors, attempted := true }
      let after : Traced Report := do
        Traced.log .info .draft (d.rejectionLine r)
        return r
      ⟨⟨judged.events ++ after.events, after.result⟩, d'⟩

end Draft

end FormEngine
