import FormEngine.Proofs.Check.Emptiness
import FormEngine.Proofs.Draft.Renewal

/-!
# Drafts that begin empty

If no field of a form declares a default or a predicate, every field begins with the empty value of
its widget, and all that can be said against such a value is that the field has to be filled in.
The first report on the form can therefore be written down without judging anything:
`Form.firstReport`, with the reminders of the shown fields that have to be filled in as its errors.
Which fields are shown depends on the same empty values.

`Form.IsBare.judge_initialValues` says that judging comes to this report on every day, so that
mounting and resetting never fail; `beginsEmpty_of_isBare` states what a draft holds after either.
-/

namespace FormEngine

namespace Form

variable {form : Form} {today : Date}

/-- Whether no field declares a default or a predicate. -/
def IsBare (form : Form) : Prop := ∀ e ∈ form.fields.entries, e.2.IsBare

/-! ## The first report -/

/-- The fields that the initial values show. -/
def shownFirst (form : Form) : Mapping Field :=
  form.fields.filter fun _ f => f.isShownBy form.initialValues

/-- The report on the shown fields of a form whose fields begin empty. -/
def firstReport (form : Form) : Report where
  data := (form.shownFirst.filter fun _ f => !f.isMandatory).mapValues fun _ f =>
    f.converted f.initialValue
  errors := (form.shownFirst.filter fun _ f => f.isMandatory).mapValues fun _ f => [f.reminder]

lemma valueOf_initialValues {e : Text × Field} (he : e ∈ form.fields.entries) :
    Checklist.valueOf form.initialValues e.1 = e.2.initialValue := by
  rw [Checklist.valueOf, initialValues, Mapping.get?_mapValues, (Mapping.mem_entries_iff _).1 he]
  rfl

lemma accepted_saidOfEmpty (fields : List (Text × Field)) :
    Report.accepted (fields.map fun e => (e.1, e.2.saidOfEmpty e.2.initialValue)) =
      (fields.filter fun e => !e.2.isMandatory).map fun e =>
        (e.1, e.2.converted e.2.initialValue) := by
  rw [Report.accepted, List.filterMap_map, ← List.filterMap_eq_map, List.filterMap_filter]
  refine List.filterMap_congr fun e _ => ?_
  rw [Function.comp_apply, Field.saidOfEmpty]
  cases e.2.isMandatory <;> rfl

lemma refused_saidOfEmpty (fields : List (Text × Field)) :
    Report.refused (fields.map fun e => (e.1, e.2.saidOfEmpty e.2.initialValue)) =
      (fields.filter fun e => e.2.isMandatory).map fun e => (e.1, [e.2.reminder]) := by
  rw [Report.refused, List.filterMap_map, ← List.filterMap_eq_map, List.filterMap_filter]
  refine List.filterMap_congr fun e _ => ?_
  rw [Function.comp_apply, Field.saidOfEmpty]
  cases e.2.isMandatory <;> rfl

/-- Judging the initial values of a form whose fields begin empty comes to the first report. -/
theorem IsBare.judge_initialValues (bare : form.IsBare) (today : Date) :
    (form.checklist.judge today form.initialValues
      (some (form.shownKeys form.initialValues))).result = .ok form.firstReport := by
  rw [Checklist.judge_result_eq_ok, Form.chosen_gates]
  refine ⟨form.shownFirst.entries.map fun e => (e.1, e.2.saidOfEmpty e.2.initialValue), ?_, ?_, ?_⟩
  · rw [Checklist.Judged, List.forall₂_map_left_iff, List.forall₂_map_right_iff]
    refine List.forall₂_same.2 fun e he => ⟨rfl, ?_⟩
    have hmem : e ∈ form.fields.entries := List.mem_of_mem_filter he
    rw [valueOf_initialValues hmem, (bare e hmem).judge_initialValue]
    rfl
  · exact (accepted_saidOfEmpty _).symm
  · exact (refused_saidOfEmpty _).symm

end Form

namespace Draft

open Sitting

variable {form : Form} {today : Date} {receiver : Option Receiver}

/-! ## Mounting and resetting -/

/-- A draft whose fields are all empty, and which has nothing to say but that the visible fields
that have to be filled in are not. -/
structure BeginsEmpty (form : Form) (d : Draft) : Prop where
  /-- Every field holds the empty value of its widget. -/
  values : d.values = form.fields.mapValues fun _ f => f.emptyValue
  /-- The stored verdict on a field is the one that its conditions give for these values. -/
  visibility : ∀ key f, form.fields.get? key = some f →
    ∃ shown, (f.visibleUnder d.values).result = .ok shown ∧ d.visibility.get? key = some shown
  /-- The errors are the reminders of the visible fields that have to be filled in, in the order of
  the form, and no others. -/
  errors : d.errors =
    (form.fields.filter fun key f => d.shows key && f.isMandatory).mapValues fun _ f => [f.reminder]

lemma initialValues_of_isBare (bare : form.IsBare) :
    form.initialValues = form.fields.mapValues fun _ f => f.emptyValue :=
  Mapping.eq_of_entries_eq (List.map_congr_left fun e he =>
    congrArg (e.1, ·) (bare e he).initialValue_eq)

/-- The errors of the first report are those about the fields that a new draft shows. -/
lemma errors_firstReport {d : Draft} (h : Coherent form receiver ⟨d, today⟩)
    (initial : d.values = form.initialValues) : form.firstReport.errors =
      (form.fields.filter fun key f => d.shows key && f.isMandatory).mapValues
        fun _ f => [f.reminder] := by
  refine Mapping.eq_of_entries_eq (congrArg (List.map _) ?_)
  have hshown : ∀ e ∈ form.fields.entries,
      (e.2.isMandatory && e.2.isShownBy form.initialValues) =
        (d.shows e.1 && e.2.isMandatory) := by
    intro e he
    rw [← initial, ← h.shows_of_get? ((Mapping.mem_entries_iff _).1 he), Bool.and_comm]
  exact List.filter_filter.trans (List.filter_congr hshown)

/-- A form whose fields begin empty is mounted without a fault, and the draft begins empty. -/
lemma exists_mount_of_isBare (bare : form.IsBare) (today : Date) (receiver : Option Receiver) :
    ∃ d, (mount today form receiver).result = .ok d ∧ d.BeginsEmpty form := by
  have hreport := bare.judge_initialValues today
  obtain ⟨d, hmount⟩ : ∃ d, (mount today form receiver).result = .ok d :=
    ⟨_, mount_eq_ok.2 ⟨_, hreport, rfl⟩⟩
  have h := coherent_of_mount hmount
  obtain ⟨r, hr, hdraft⟩ := mount_eq_ok.1 hmount
  obtain rfl : form.firstReport = r := Except.ok.inj (hreport.symm.trans hr)
  have hvalues : d.values = form.initialValues := by rw [hdraft]
  have herrors : d.errors = form.firstReport.errors := by rw [hdraft]
  refine ⟨d, hmount, ?_, ?_, ?_⟩
  · rw [hvalues, initialValues_of_isBare bare]
  · intro key f hf
    exact ⟨f.isShownBy d.values, f.visibleUnder_result _, h.visibility_of_get? hf⟩
  · rw [herrors, errors_firstReport h hvalues]

/-- A field that declares neither a default nor a predicate begins with a value that its own check
takes for empty: the value is told exactly if the field has to be filled in, with the message of
the requirement, and no other rule has anything against it.  A form of such fields is mounted on
every day without a fault, and so is a draft of it reset after every run; the errors are then
exactly the reminders of the visible fields that have to be filled in. -/
theorem beginsEmpty_of_isBare (today : Date) :
    (∀ f : Field, f.IsBare → f.BeginsEmpty today) ∧
      ∀ form : Form, form.IsBare →
        (∀ receiver, ∃ d, (mount today form receiver).result = .ok d ∧ d.BeginsEmpty form) ∧
        ∀ receiver s, Reached form receiver s →
          (s.draft.reset today).outcome.result = .ok () ∧
            (s.draft.reset today).draft.BeginsEmpty form := by
  refine ⟨fun f bare => bare.beginsEmpty today, fun form bare => ⟨?_, ?_⟩⟩
  · exact exists_mount_of_isBare bare today
  · intro receiver s reached
    obtain ⟨fresh, hmount, hfresh⟩ := exists_mount_of_isBare bare today receiver
    obtain ⟨hok, hdraft⟩ := reached.coherent.reset_eq hmount
    refine ⟨hok, ?_⟩
    -- the number of submissions is all that a reset draft has of its own
    rw [hdraft]
    exact ⟨hfresh.values, hfresh.visibility, hfresh.errors⟩

/-! ## A form with rules that no value meets -/

/-- A form that invites to a dinner.  No address is as long and as short as it has to be, and no
number of seats lies between the bounds. -/
def dinnerDocument : Value := .map [
  (.text "id", .text "dinner"),
  (.text "fields", .map [
    (.text "email", .map [
      (.text "renderer", .text "text"), (.text "inputType", .text "email"),
      (.text "rules", .map [
        (.text "required", .text "Where do we write?"),
        (.text "minLength", .map [(.text "value", .int 9)]),
        (.text "maxLength", .map [(.text "value", .int 3)]),
        (.text "pattern", .map [(.text "value", .text "@")])])]),
    (.text "seats", .map [
      (.text "renderer", .text "number"),
      (.text "rules", .map [
        (.text "required", .bool true),
        (.text "min", .map [(.text "value", .int 4)]),
        (.text "max", .map [(.text "value", .int 0)])])]),
    (.text "joining", .map [
      (.text "renderer", .text "switch"),
      (.text "rules", .map [(.text "required", .bool true)])]),
    (.text "excuse", .map [
      (.text "renderer", .text "textarea"),
      (.text "rules", .map [(.text "required", .bool true)]),
      (.text "visibleWhen", .map [
        (.text "field", .text "joining"), (.text "op", .text "equals"),
        (.text "value", .bool false)])]),
    (.text "dishes", .map [
      (.text "renderer", .text "multiselect"),
      (.text "rules", .map [(.text "required", .bool true)]),
      (.text "visibleWhen", .map [
        (.text "field", .text "joining"), (.text "op", .text "equals"),
        (.text "value", .bool true)])]),
    (.text "arrival", .map [
      (.text "renderer", .text "date"),
      (.text "rules", .map [(.text "minLength", .map [(.text "value", .int 10)])])])])]

/-- What the document declares. -/
def dinner : Form where
  id := "dinner"
  intro := {}
  fields := ⟨[
    ("email", ⟨some "email", "", .text, some "email", none, none, .empty,
      some { required := .message "Where do we write?", minLength := some ⟨9, none⟩,
             maxLength := some ⟨3, none⟩,
             pattern := some ⟨⟨"@", [.literal .exact 64], [none]⟩, none⟩ }, none⟩),
    ("seats", ⟨some "seats", "", .number, none, none, none, .empty,
      some { required := .flag true, min := some ⟨.ofInt 4, none⟩, max := some ⟨.ofInt 0, none⟩ },
      none⟩),
    ("joining", ⟨some "joining", "", .switch, none, none, none, .empty,
      some { required := .flag true }, none⟩),
    ("excuse", ⟨some "excuse", "", .textarea, none, none, none, .empty,
      some { required := .flag true }, some (.single ⟨"joining", "equals", .bool false⟩)⟩),
    ("dishes", ⟨some "dishes", "", .multiselect, none, none, none, .empty,
      some { required := .flag true }, some (.single ⟨"joining", "equals", .bool true⟩)⟩),
    ("arrival", ⟨some "arrival", "", .date, none, none, none, .empty,
      some { minLength := some ⟨10, none⟩ }, none⟩)], by decide⟩
  layout := []

/-- The draft with which the answer to an invitation begins. -/
def emptyDinner : Draft where
  form := dinner
  checklist := dinner.checklist
  receiver := none
  values := ⟨[("email", .text ""), ("seats", .text ""), ("joining", .bool false),
    ("excuse", .text ""), ("dishes", .list []), ("arrival", .text "")], by decide⟩
  touched := []
  visibility := ⟨[("email", true), ("seats", true), ("joining", true), ("excuse", true),
    ("dishes", false), ("arrival", true)], by decide⟩
  errors := ⟨[("email", ["Where do we write?"]), ("seats", ["Required"]),
    ("joining", ["Required"]), ("excuse", ["Required"])], by decide⟩
  attempted := false
  submissions := 0

lemma read_dinnerDocument : Form.read dinnerDocument = .accepted dinner := rfl

lemma mount_dinner : (mount tripDay dinner none).result = .ok emptyDinner := rfl

lemma dinner_isBare : dinner.IsBare := by
  simp only [Form.IsBare, dinner, List.forall_mem_cons]
  exact ⟨⟨rfl, rfl⟩, ⟨rfl, rfl⟩, ⟨rfl, rfl⟩, ⟨rfl, rfl⟩, ⟨rfl, rfl⟩, ⟨rfl, rfl⟩,
    List.forall_mem_nil _⟩

/-- A guest who joins, gives half an address and tries to answer. -/
def hastyDinner : Sitting :=
  (⟨emptyDinner, tripDay⟩ : Sitting).after
    ([.write (.text "joining") (.bool true), .write (.text "email") (.text "m@"),
      .submit none].map fun op => ⟨tripDay, op⟩)

theorem beginsEmpty_of_dinner :
    dinner.IsBare ∧ (∀ e ∈ dinner.fields.entries, e.2.BeginsEmpty tripDay) ∧
      (mount tripDay dinner none).result = .ok emptyDinner ∧ emptyDinner.BeginsEmpty dinner ∧
      Reached dinner none hastyDinner ∧
      hastyDinner.draft.errors.entries = ([("email", ["Must be at least 9 characters"]),
        ("seats", ["Required"]), ("dishes", ["Required"])] : List (Text × List Text)) ∧
      (hastyDinner.draft.reset tripDay).draft.BeginsEmpty dinner ∧
      (hastyDinner.draft.reset tripDay).draft.errors.entries = ([("email", ["Where do we write?"]),
        ("seats", ["Required"]), ("joining", ["Required"]), ("excuse", ["Required"])] :
          List (Text × List Text)) := by
  have reached : Reached dinner none hastyDinner :=
    (Reached.mounted read_dinnerDocument mount_dinner).after _
  obtain ⟨hfields, hforms⟩ := beginsEmpty_of_isBare tripDay
  obtain ⟨hmount, hreset⟩ := hforms dinner dinner_isBare
  obtain ⟨d, hd, hbegins⟩ := hmount none
  obtain rfl : emptyDinner = d := Except.ok.inj (mount_dinner.symm.trans hd)
  exact ⟨dinner_isBare, fun e he => hfields e.2 (dinner_isBare e he), hd, hbegins, reached, rfl,
    (hreset none hastyDinner reached).2, rfl⟩

end Draft

end FormEngine
