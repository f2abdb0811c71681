import FormEngine.Proofs.Draft.Days
import FormEngine.Proofs.Draft.Run

/-!
# The derived parts of a draft belong to its values

A draft stores what it could derive: which fields are visible, and what is wrong with the visible
ones.  Three operations write these parts in three ways: settling writes all of them, a reset goes
back to the start, and a submission writes the errors alone.  `Coherent` is the invariant that they
share, and `Coherent.next` says that every operation keeps it, also one that fails.

A submission chooses the visible fields by the names that they give themselves, while settling
chooses them by their keys.  That both choices are the same (`Coherent.visibleIds_eq`) rests on the
agreement of a form that has been read, and nowhere else is that agreement used.

`faithful_after_run` states for every run what a reader of a draft can rely on.
-/

namespace FormEngine

namespace Draft

open Sitting

/-- What a draft stores belongs to its form and to its current values; its errors are those of the
day on which they have been derived. -/
structure Coherent (form : Form) (receiver : Option Receiver) (s : Sitting) : Prop where
  form_eq : s.draft.form = form
  checklist_eq : s.draft.checklist = form.checklist
  receiver_eq : s.draft.receiver = receiver
  keys_values : s.draft.values.keys = form.fields.keys
  visibility_eq : s.draft.visibility = form.verdicts s.draft.values
  errors_eq : ∃ r, (form.checklist.judge s.day s.draft.values
    (some (form.shownKeys s.draft.values))).result = .ok r ∧ s.draft.errors = r.errors
  touched_declared : s.draft.touched ⊆ form.fields.keys

namespace Coherent

variable {form : Form} {receiver : Option Receiver} {s : Sitting}

/-! ## Visible fields -/

/-- The stored verdict on a field is the one that its conditions give. -/
lemma visibility_of_get? (h : Coherent form receiver s) {key : Text} {f : Field}
    (hf : form.fields.get? key = some f) :
    s.draft.visibility.get? key = some (f.isShownBy s.draft.values) := by
  rw [h.visibility_eq, Form.get?_verdicts, hf, Option.map_some]

lemma shows_eq (h : Coherent form receiver s) (key : Text) :
    s.draft.shows key = ((form.fields.get? key).map (·.isShownBy s.draft.values)).getD false := by
  rw [shows, h.visibility_eq, Form.get?_verdicts]

lemma shows_of_get? (h : Coherent form receiver s) {key : Text} {f : Field}
    (hf : form.fields.get? key = some f) : s.draft.shows key = f.isShownBy s.draft.values := by
  rw [h.shows_eq, hf]
  rfl

/-- The visible keys are those of the fields that are shown under the current values. -/
lemma visibleKeys_eq (h : Coherent form receiver s) :
    s.draft.visibleKeys = form.shownKeys s.draft.values := by
  rw [visibleKeys, h.form_eq, Form.shownKeys, Mapping.keys_filter, Mapping.keys, List.filter_map]
  refine congrArg (List.map _) (List.filter_congr fun e he => ?_)
  exact h.shows_of_get? ((Mapping.mem_entries_iff _).1 he)

/-- The names that visible fields give themselves are their keys. -/
lemma visibleIds_eq (h : Coherent form receiver s) (named : form.NamesFields) :
    s.draft.visibleIds = s.draft.visibleKeys := by
  have hkeys : s.draft.visibleKeys = s.draft.visibleFields.entries.map (·.1) :=
    (Mapping.keys_filter_key s.draft.shows s.draft.form.fields).symm
  rw [visibleIds, hkeys, ← List.filterMap_eq_map]
  refine List.filterMap_congr fun e he => ?_
  have hmem : e ∈ form.fields.entries := h.form_eq ▸ List.mem_of_mem_filter he
  exact named e hmem

/-- Judging a draft is judging its current values on the shown fields. -/
lemma judge_eq (h : Coherent form receiver s) (named : form.NamesFields) (today : Date) :
    s.draft.judge today = form.checklist.judge today s.draft.values
      (some (form.shownKeys s.draft.values)) := by
  rw [judge, h.checklist_eq, h.visibleIds_eq named, h.visibleKeys_eq]

/-- As long as the values last, judging a draft finds the errors that it holds. -/
lemma judge_result (h : Coherent form receiver s) (named : form.NamesFields) {today : Date}
    (lasts : form.Lasts s.day today s.draft.values) :
    ∃ r, (s.draft.judge today).result = .ok r ∧ s.draft.errors = r.errors := by
  rw [h.judge_eq named, lasts.judge_eq]
  exact h.errors_eq

/-! ## What a step keeps -/

lemma touching_declared (h : Coherent form receiver s) (more : List Text) :
    s.draft.touching more ⊆ form.fields.keys := by
  rw [← h.form_eq]
  exact List.filter_sublist.subset

/-- A draft that has settled is coherent on the day on which it has. -/
lemma settled (h : Coherent form receiver s) {today : Date} {values : Mapping Value}
    {touched : List Text} {r : Report} (hkeys : values.keys = form.fields.keys)
    (htouched : touched ⊆ form.fields.keys)
    (hr : (s.draft.checklist.judge today values
      (some (s.draft.form.shownKeys values))).result = .ok r) :
    Coherent form receiver ⟨s.draft.settled values touched r.errors, today⟩ where
  form_eq := h.form_eq
  checklist_eq := h.checklist_eq
  receiver_eq := h.receiver_eq
  keys_values := hkeys
  visibility_eq := by rw [Draft.settled, h.form_eq]
  errors_eq := ⟨r, by rw [← h.checklist_eq, ← h.form_eq]; exact hr, rfl⟩
  touched_declared := htouched

/-- Errors that have been found anew, whatever else is remembered of a submission. -/
lemma rejudged (h : Coherent form receiver s) (named : form.NamesFields) {today : Date}
    {r : Report} (hr : (s.draft.judge today).result = .ok r) (attempted : Bool)
    (submissions : Nat) :
    Coherent form receiver ⟨{ s.draft with errors := r.errors, attempted, submissions }, today⟩ :=
  ⟨h.form_eq, h.checklist_eq, h.receiver_eq, h.keys_values, h.visibility_eq,
    ⟨r, h.judge_eq named today ▸ hr, rfl⟩, h.touched_declared⟩

lemma next_of_kept {e : Dated} {d : Draft} (h : Coherent form receiver ⟨d, s.day⟩)
    (hdraft : (s.draft.perform e.day e.operation).draft = d)
    (hday : s.draft.rejudges e.day e.operation = false) : Coherent form receiver (s.next e) := by
  rw [Sitting.next, hdraft, hday]
  exact h

lemma next_of_rejudged {e : Dated} {d : Draft} (h : Coherent form receiver ⟨d, e.day⟩)
    (hdraft : (s.draft.perform e.day e.operation).draft = d)
    (hday : s.draft.rejudges e.day e.operation = true) : Coherent form receiver (s.next e) := by
  rw [Sitting.next, hdraft, if_pos hday]
  exact h

lemma next_writeAll (h : Coherent form receiver s) (today : Date)
    (entries : List (Value × Value)) :
    Coherent form receiver (s.next ⟨today, .writeAll entries⟩) := by
  rcases writeAll_cases today s.draft entries with
    hfails | ⟨written, r, -, hmem, hr, hok, hdraft⟩
  · exact next_of_kept h hfails.2 (hfails.map_succeeds _)
  · have hkeys : (s.draft.values.setAll written).keys = form.fields.keys := by
      rw [Mapping.keys_setAll _ (by rwa [h.keys_values, ← h.form_eq]), h.keys_values]
    have hsettled := h.settled hkeys (h.touching_declared (written.map (·.1))) hr
    exact next_of_rejudged hsettled hdraft (Step.map_succeeds_of_ok _ hok)

lemma next_touch (h : Coherent form receiver s) (today : Date) (key : Value) :
    Coherent form receiver (s.next ⟨today, .touch key⟩) := by
  rcases touch_cases s.draft key with hfails | ⟨id, -, -, -, hdraft⟩
  · exact next_of_kept h hfails.2 rfl
  · have htouched : Coherent form receiver
        ⟨{ s.draft with touched := s.draft.touching [id] }, s.day⟩ :=
      { h with touched_declared := h.touching_declared _ }
    exact next_of_kept htouched hdraft rfl

lemma next_reset (h : Coherent form receiver s) (today : Date) :
    Coherent form receiver (s.next ⟨today, .reset⟩) := by
  rcases reset_cases today s.draft with hfails | ⟨r, hr, hok, hdraft⟩
  · exact next_of_kept h hfails.2 (hfails.map_succeeds _)
  · have hkeys : s.draft.form.initialValues.keys = form.fields.keys := by
      rw [h.form_eq]
      exact Mapping.keys_mapValues ..
    have hreset : Coherent form receiver
        ⟨{ s.draft.settled s.draft.form.initialValues [] r.errors with attempted := false },
          today⟩ :=
      { h.settled hkeys (List.nil_subset _) hr with }
    exact next_of_rejudged hreset hdraft (Step.map_succeeds_of_ok _ hok)

lemma next_submit (h : Coherent form receiver s) (named : form.NamesFields) (today : Date)
    (given : Option Receiver) : Coherent form receiver (s.next ⟨today, .submit given⟩) := by
  cases hr : (s.draft.judge today).result with
  | error fault =>
      exact next_of_kept h (submit_unjudged hr given).1 (by rw [rejudges, hr]; rfl)
  | ok r =>
      have hday : s.draft.rejudges today (.submit given) = true := by rw [rejudges, hr]; rfl
      cases hclean : r.isClean with
      | true =>
          have haccepted := h.rejudged named hr s.draft.attempted (s.draft.submissions + 1)
          exact next_of_rejudged haccepted (submit_accepted hr hclean given).1 hday
      | false =>
          have hrefused := h.rejudged named hr true s.draft.submissions
          exact next_of_rejudged hrefused (submit_refused hr hclean given).1 hday

/-- Every operation keeps a draft coherent, also one that fails. -/
theorem next (h : Coherent form receiver s) (named : form.NamesFields) (e : Dated) :
    Coherent form receiver (s.next e) := by
  obtain ⟨today, op⟩ := e
  cases op with
  | write key value =>
      rw [Sitting.next_write]
      exact h.next_writeAll today [(key, value)]
  | writeAll entries => exact h.next_writeAll today entries
  | touch key => exact h.next_touch today key
  | reset => exact h.next_reset today
  | judge => exact next_of_kept h rfl rfl
  | submit given => exact h.next_submit named today given

end Coherent

/-- A new draft is coherent. -/
lemma coherent_of_mount {form : Form} {receiver : Option Receiver} {today : Date} {d : Draft}
    (h : (mount today form receiver).result = .ok d) : Coherent form receiver ⟨d, today⟩ := by
  obtain ⟨r, hr, rfl⟩ := mount_eq_ok.1 h
  exact ⟨rfl, rfl, rfl, Mapping.keys_mapValues .., rfl, ⟨r, hr, rfl⟩, List.nil_subset _⟩

/-- Every run of a mounted form comes to a coherent draft. -/
theorem Sitting.Reached.coherent {form : Form} {receiver : Option Receiver} {s : Sitting}
    (h : Reached form receiver s) : Coherent form receiver s := by
  induction h with
  | mounted _ hmount => exact coherent_of_mount hmount
  | next e hs ih =>
      -- a submission needs the names of the fields, which only the reading gives
      obtain ⟨_, _, hread⟩ := hs.read
      exact ih.next (Form.namesFields_of_read hread) e

/-! ## What a reader can rely on -/

/-- What a draft says of itself is right for its current values. -/
structure Faithful (form : Form) (s : Sitting) : Prop where
  /-- There is a value for every field and no other, in the order of the form. -/
  values_keys : s.draft.values.keys = form.fields.keys
  visibility_keys : s.draft.visibility.keys = form.fields.keys
  /-- The stored verdict on a field is the one that its conditions give now. -/
  visibility_current : ∀ key f, form.fields.get? key = some f →
    ∃ shown, (f.visibleUnder s.draft.values).result = .ok shown ∧
      s.draft.visibility.get? key = some shown
  /-- The stored errors are those of a report on the visible fields, whether these are chosen by
  their keys or by the names that they give themselves, on every day until which the values last. -/
  errors_current : ∀ today, form.Lasts s.day today s.draft.values → ∃ r,
    (form.checklist.judge today s.draft.values (some s.draft.visibleKeys)).result = .ok r ∧
      (s.draft.judge today).result = .ok r ∧ s.draft.errors = r.errors
  /-- Only visible fields have errors, each a single message that is not empty. -/
  errors_told : ∀ key messages, s.draft.errors.get? key = some messages →
    s.draft.visibility.get? key = some true ∧ ∃ message : Text, message ≠ "" ∧ messages = [message]
  touched_declared : s.draft.touched ⊆ form.fields.keys

lemma Coherent.errors_told {form : Form} {receiver : Option Receiver} {s : Sitting}
    (h : Coherent form receiver s) {key : Text} {messages : List Text}
    (herror : s.draft.errors.get? key = some messages) :
    s.draft.visibility.get? key = some true ∧
      ∃ message : Text, message ≠ "" ∧ messages = [message] := by
  obtain ⟨r, hr, herrors⟩ := h.errors_eq
  obtain ⟨hchosen, htold⟩ := Checklist.error_of_judge hr (herrors ▸ herror)
  rw [Form.chosen_keys, Form.mem_shownKeys] at hchosen
  obtain ⟨f, hf, hshown⟩ := hchosen
  refine ⟨?_, htold⟩
  rw [h.visibility_of_get? hf, hshown]

/-- However a form that has been read is mounted, whatever its predicates answer and whatever is
done then, the draft stays faithful to it.  What it says of its values and of visibility holds
whatever the day is.  Its errors are those of the day on which the form was mounted or an operation
was carried out, and of every other until which the values last. -/
theorem faithful_after_run {doc : Value} {host : Predicate.Host} {form : Form}
    {receiver : Option Receiver} {today : Date} {d : Draft}
    (read : Form.read doc host = .accepted form)
    (mounted : (mount today form receiver).result = .ok d) (run : List Dated) :
    Faithful form ((⟨d, today⟩ : Sitting).after run) ∧
      (((⟨d, today⟩ : Sitting).after run).day = today ∨
        ∃ e ∈ run, ((⟨d, today⟩ : Sitting).after run).day = e.day) := by
  have named := Form.namesFields_of_read read
  have h := ((Reached.mounted read mounted).after run).coherent
  refine ⟨⟨h.keys_values, ?_, ?_, ?_, fun _ _ => h.errors_told, h.touched_declared⟩,
    day_after ⟨d, today⟩ run⟩
  · rw [h.visibility_eq, Form.keys_verdicts]
  · intro key f hf
    exact ⟨f.isShownBy _, f.visibleUnder_result _, h.visibility_of_get? hf⟩
  · intro later lasts
    rw [h.visibleKeys_eq, h.judge_eq named, lasts.judge_eq]
    obtain ⟨r, hr, herrors⟩ := h.errors_eq
    exact ⟨r, hr, hr, herrors⟩

/-! ## A form with a field that comes and goes -/

/-- A predicate that fails on one value and accepts all others. -/
def platePredicate : Value :=
  .map [(.text "kind", .text "raise_if"), (.text "value", .text "X"),
    (.text "message", .text "offline")]

/-- A form that asks for the plate of a car once there is one. -/
def tripDocument : Value := .map [
  (.text "id", .text "trip"),
  (.text "fields", .map [
    (.text "car", .map [(.text "renderer", .text "checkbox")]),
    (.text "plate", .map [
      (.text "renderer", .text "text"),
      (.text "rules", .map [
        (.text "required", .bool true),
        (.text "validate", .prepared .predicate platePredicate)]),
      (.text "visibleWhen", .map [
        (.text "field", .text "car"), (.text "op", .text "equals"),
        (.text "value", .bool true)])])])]

/-- What the document declares. -/
def trip : Form where
  id := "trip"
  intro := {}
  fields := ⟨[
    ("car", ⟨some "car", "", .checkbox, none, none, none, .empty, none, none⟩),
    ("plate", ⟨some "plate", "", .text, none, none, none, .empty,
      some { required := .flag true, predicate := some (.ofDescription platePredicate) },
      some (.single ⟨"car", "equals", .bool true⟩)⟩)], by decide⟩
  layout := []

/-- The draft with which a trip begins. -/
def emptyTrip : Draft where
  form := trip
  checklist := trip.checklist
  receiver := none
  values := ⟨[("car", .bool false), ("plate", .text "")], by decide⟩
  touched := []
  visibility := ⟨[("car", true), ("plate", false)], by decide⟩
  errors := .empty
  attempted := false
  submissions := 0

/-- The day of the trip. -/
def tripDay : Date := ⟨2023, 4, 30⟩

lemma read_tripDocument : Form.read tripDocument = .accepted trip := rfl

/-- A trip asks for no date, so what is said about it is said for every day. -/
lemma trip_lasts : ∀ day today values, trip.Lasts day today values :=
  Form.lasts_of_no_dates (by decide)

lemma mount_trip : (mount tripDay trip none).result = .ok emptyTrip := rfl

/-- A run in which a predicate fails, a field does not exist, and a submission is refused. -/
def tripRun : List Dated :=
  [.write (.text "car") (.bool true), .write (.text "plate") (.text "X"),
    .writeAll [(.text "car", .bool false), (.text "wheel", .int 3)], .touch (.text "plate"),
    .submit none].map fun op => ⟨tripDay, op⟩

/-- A trip whose car and plate have been filled in. -/
def filledTrip : Sitting :=
  (⟨emptyTrip, tripDay⟩ : Sitting).after
    [⟨tripDay, .write (.text "car") (.bool true)⟩, ⟨tripDay, .write (.text "plate") (.text "A 1")⟩]

/-- A receiver that takes nothing. -/
def fullReceiver : Receiver := fun _ => .error "full"

lemma reached_filledTrip : Reached trip none filledTrip :=
  (Reached.mounted read_tripDocument mount_trip).after _

theorem faithful_after_tripRun :
    Form.read tripDocument = .accepted trip ∧ (mount tripDay trip none).result = .ok emptyTrip ∧
      Faithful trip ((⟨emptyTrip, tripDay⟩ : Sitting).after tripRun) ∧
      ((⟨emptyTrip, tripDay⟩ : Sitting).after tripRun).draft.errors.entries =
        [(("plate" : Text), [("Required" : Text)])] :=
  ⟨read_tripDocument, mount_trip, (faithful_after_run read_tripDocument mount_trip tripRun).1, rfl⟩

end Draft

end FormEngine
