import FormEngine.Check.Compile
import FormEngine.Traced

/-!
# Checklists

The `Checklist` of a form holds what each of its fields has to pass.  `Checklist.judge` judges all
values at once, or those of some fields only: every field is judged for itself, in the order of the
form, and ends up in the `Report` either among the accepted data or, with one message, among the
errors.
-/

namespace FormEngine

/-- What is said about the value of a field: the converted value, or the value as it was and a
message. -/
structure Judgement where
  value : Value
  message : Option Text

/-- What a predicate says about a converted value. -/
def Predicate.judge (p : Predicate) (field : Text) (given converted : Value)
    (values : Mapping Value) : Traced Judgement := do
  Traced.event (.asked field converted values)
  match p.answer converted values with
  | .error message => Traced.fault (.raised message)
  | .ok answer =>
    match Predicate.verdictOf answer with
    | .accepted => return ⟨converted, none⟩
    | .rejected message => return ⟨given, some message⟩

/-- Judges a value in the light of all values: first the check, then the predicate. -/
def Gate.judge (today : Date) (g : Gate) (v : Value) (values : Mapping Value) : Traced Judgement :=
  match g.check.run today v with
  | .error (.violation message) => pure ⟨v, some message⟩
  | .error (.fault f) => Traced.fault f
  | .ok converted =>
    match g.predicate with
    | none => pure ⟨converted, none⟩
    | some p => p.judge g.fieldId v converted values

/-- What is said about the values of a form: the converted values of the accepted fields, and the
messages of the others. -/
structure Report where
  data : Mapping Value := .empty
  errors : Mapping (List Text) := .empty
deriving Inhabited

namespace Report

/-- Whether there are no errors. -/
def isClean (r : Report) : Bool := r.errors.isEmpty

/-- Adds what was said about a field. -/
def add (r : Report) (field : Text) (j : Judgement) : Report :=
  match j.message with
  | none => { r with data := r.data.set field j.value }
  | some message => { r with errors := r.errors.set field [message] }

end Report

/-- What the fields of a form have to pass, in the order of the form. -/
structure Checklist where
  formId : String
  gates : Mapping Gate
deriving Inhabited

namespace Checklist

/-- The value of a field; a missing one is null. -/
def valueOf (values : Mapping Value) (field : Text) : Value := (values.get? field).getD .null

/-- Judges the fields of a list one after the other. -/
def judgeFrom (today : Date) (values : Mapping Value) (only : Option (List Text)) :
    List (Text × Gate) → Report → Traced Report
  | [], r => pure r
  | (field, g) :: rest, r =>
    if only.all (·.contains field) then do
      let j ← g.judge today (valueOf values field) values
      judgeFrom today values only rest (r.add field j)
    else judgeFrom today values only rest r

/-- Judges all values, or those of some fields only. -/
def judge (today : Date) (list : Checklist) (values : Mapping Value)
    (only : Option (List Text)) : Traced Report :=
  judgeFrom today values only list.gates.entries {}

/-- Judges the value of one field. -/
def judgeField (today : Date) (list : Checklist) (field : Text) (values : Mapping Value) :
    Traced Judgement :=
  match list.gates.get? field with
  | none => Traced.fault (.uncheckedField (.text field))
  | some g => g.judge today (valueOf values field) values

end Checklist

/-- The checklist of a form. -/
def Form.checklist (form : Form) : Checklist := ⟨form.id, form.fields.mapValues fun _ f => f.gate⟩

/-- Makes the checklist of a form and says so in the log. -/
def Form.compile (form : Form) : Traced Checklist := do
  Traced.log .debug .checklist
    ("Compiled validation for form '" ++ form.id ++ "' (" ++ toString form.fields.size
      ++ " fields)")
  return form.checklist

end FormEngine
