import FormEngine.Form.InitialValues
import FormEngine.Proofs.Check.Interpretation

/-!
# Values that leave a field empty

Each of the four checks decides for itself which values count as nothing at all, and the widget of a
field decides with which value the field begins.  `Field.LeavesEmpty` puts the first decisions
together: for text null and the empty text, for a number also text of blanks, for a box null and a
box without a tick, for a selection null and any collection without items.  About such a value
nothing but the requirement speaks, whatever the other rules are (`Field.run_of_leavesEmpty`).

That both decisions agree is `Field.leavesEmpty_emptyValue`.  What follows for a field that declares
neither a default nor a predicate is `Field.BeginsEmpty`.
-/

namespace FormEngine

/-- True of null and of a box without a tick. -/
def isUnticked : Value → Bool
  | .null => true
  | .bool ticked => !ticked
  | _ => false

/-- True of null and of a collection without items. -/
def isUnselected : Value → Bool
  | .null => true
  | v => v.items?.any List.isEmpty

/-! ## Requirements alone -/

section

variable {α : Type} {v : Value}

/-- What a requirement leaves of an answer. -/
lemma Requirement.enforce_bind (r : Requirement) (a : α) :
    (r.enforce >>= fun _ => .ok a) =
      if r.isDemanded then .error (.violation r.reminder) else .ok a := by
  rw [enforce, refuseIf]
  split <;> rfl

lemma TextCheck.run_of_isNothing (today : Date) (c : TextCheck) (h : isNothing v = true) :
    c.run today v = c.required.enforce >>= fun _ => .ok v := by
  rw [TextCheck.run, if_pos h]
  rfl

lemma NumericCheck.run_of_isVacant (c : NumericCheck) (h : isVacant v = true) :
    c.run v = c.required.enforce >>= fun _ => .ok .null := by
  rw [NumericCheck.run, if_pos h]
  rfl

lemma BoxCheck.run_of_isUnticked (c : BoxCheck) (h : isUnticked v = true) :
    c.run v = c.required.enforce >>= fun _ => .ok v := by
  cases v with
  | null => rfl
  | bool ticked =>
      cases ticked with
      | false => rfl
      | true => cases h
  | _ => cases h

/-- A collection without items holds no item that is not a text. -/
lemma SelectionCheck.run_of_isUnselected (c : SelectionCheck) : isUnselected v = true →
    c.run v = c.required.enforce >>= fun _ => .ok (match v with
      | .null => .null
      | v => .list (v.items?.getD [])) := by
  intro h
  cases v with
  | null => rfl
  | list items | tuple items | set items =>
      obtain rfl : items = [] := List.isEmpty_iff.1 h
      rfl
  | _ => cases h

end

namespace Field

variable {today : Date} {f : Field} {v : Value}

/-! ## Fields that are left empty -/

/-- Whether a value leaves a field empty, by what the check of its widget counts as nothing. -/
def LeavesEmpty (f : Field) (v : Value) : Prop :=
  match f.widget with
  | .number => isVacant v = true
  | .checkbox | .switch => isUnticked v = true
  | .multiselect => isUnselected v = true
  | .text | .textarea | .select | .radio | .date | .file => isNothing v = true

/-- The message about a field that has to be filled in and is not. -/
def reminder (f : Field) : Text := f.ownRules.required.reminder

lemma isMandatory_eq (f : Field) : f.isMandatory = f.ownRules.required.isDemanded := by
  rw [isMandatory, ownRules]
  cases f.rules <;> rfl

/-- Only the requirement is enforced on a value that leaves the field empty: no other rule, the type
of input or the widget has anything against it. -/
theorem run_of_leavesEmpty (h : f.LeavesEmpty v) :
    f.check.run today v = f.ownRules.required.enforce >>= fun _ => .ok (f.converted v) := by
  unfold LeavesEmpty at h
  unfold check converted
  cases hwidget : f.widget with
  | number =>
      rw [hwidget] at h
      have hvacant : isVacant v = true := h
      rw [hvacant]
      exact NumericCheck.run_of_isVacant _ hvacant
  | checkbox | switch =>
      rw [hwidget] at h
      exact BoxCheck.run_of_isUnticked _ h
  | multiselect =>
      rw [hwidget] at h
      exact SelectionCheck.run_of_isUnselected _ h
  | _ =>
      rw [hwidget] at h
      exact TextCheck.run_of_isNothing today _ h

/-- What is said about a value that leaves a field empty. -/
def saidOfEmpty (f : Field) (v : Value) : Judgement :=
  if f.isMandatory then ⟨v, some f.reminder⟩ else ⟨f.converted v, none⟩

/-- Without a predicate nothing else is said, and nothing happens on the way. -/
theorem judge_of_leavesEmpty (plain : f.rules.bind (·.predicate) = none) (h : f.LeavesEmpty v)
    (values : Mapping Value) : f.gate.judge today v values = pure (f.saidOfEmpty v) := by
  have hrun : f.gate.check.run today v =
      if f.isMandatory then .error (.violation f.reminder) else .ok (f.converted v) := by
    rw [isMandatory_eq, reminder, ← Requirement.enforce_bind]
    exact run_of_leavesEmpty h
  have hpredicate : f.gate.predicate = none := plain
  rw [Gate.judge, hrun, hpredicate, saidOfEmpty]
  cases f.isMandatory <;> rfl

/-- The empty value of its widget leaves a field empty. -/
theorem leavesEmpty_emptyValue (f : Field) : f.LeavesEmpty f.emptyValue := by
  unfold LeavesEmpty emptyValue
  cases f.widget <;> rfl

/-! ## Fields that begin empty -/

/-- Whether a field declares neither a default nor a predicate. -/
def IsBare (f : Field) : Prop := f.default = none ∧ f.rules.bind (·.predicate) = none

/-- The same field with all of its rules but the requirement. -/
def optional (f : Field) : Field :=
  { f with rules := f.rules.map fun rules => { rules with required := .flag false } }

/-- The value with which a field begins is empty for the check of the field. -/
structure BeginsEmpty (today : Date) (f : Field) : Prop where
  empty : f.LeavesEmpty f.initialValue
  /-- It is told if and only if the field has to be filled in, and then with the message of the
  requirement and no other. -/
  told : ∀ values message,
    (f.gate.judge today f.initialValue values).result = .ok ⟨f.initialValue, some message⟩ ↔
      f.isMandatory = true ∧ message = f.reminder
  /-- In all other fields it is accepted. -/
  accepted : ∀ values,
    (f.gate.judge today f.initialValue values).result = .ok ⟨f.converted f.initialValue, none⟩ ↔
      f.isMandatory = false
  /-- All rules but the requirement are idle: they let the value through. -/
  idle : f.optional.check.run today f.initialValue = .ok (f.converted f.initialValue)

lemma IsBare.initialValue_eq (bare : f.IsBare) : f.initialValue = f.emptyValue := by
  rw [initialValue, bare.1, Option.getD_none]

/-- What is said about the value with which a field begins that declares neither a default nor a
predicate. -/
lemma IsBare.judge_initialValue (bare : f.IsBare) (today : Date) (values : Mapping Value) :
    f.gate.judge today f.initialValue values = pure (f.saidOfEmpty f.initialValue) := by
  rw [bare.initialValue_eq]
  exact judge_of_leavesEmpty bare.2 f.leavesEmpty_emptyValue values

lemma run_optional (h : f.LeavesEmpty v) : f.optional.check.run today v = .ok (f.converted v) := by
  have hlifted : f.optional.ownRules.required.isDemanded = false := by
    rw [ownRules, optional]
    cases f.rules <;> rfl
  have hempty : f.optional.LeavesEmpty v := h
  rw [run_of_leavesEmpty hempty, Requirement.enforce_bind, hlifted]
  rfl

/-- A field that declares neither a default nor a predicate begins empty. -/
theorem IsBare.beginsEmpty (bare : f.IsBare) (today : Date) : f.BeginsEmpty today := by
  have hempty : f.LeavesEmpty f.initialValue := by
    rw [bare.initialValue_eq]
    exact f.leavesEmpty_emptyValue
  refine ⟨hempty, fun values message => ?_, fun values => ?_, run_optional hempty⟩
  · rw [bare.judge_initialValue, saidOfEmpty]
    cases f.isMandatory <;> simp [eq_comm]
  · rw [bare.judge_initialValue, saidOfEmpty]
    cases f.isMandatory <;> simp

end Field

end FormEngine
