import FormEngine.Proofs.Checklist.Questions
import FormEngine.Proofs.Draft.Atomicity

/-!
# Which predicates an operation on a draft asks

An operation on a draft asks predicates only where it judges values, and it judges them once: the
values that it would store, or those of the draft if it stores none.  Conditions, the log and
receivers ask nothing, and an operation without values to judge, or with a key that is not that of
a field, asks nothing either (`Draft.AsksFor`).  What is judged are the fields that these values
show, so that the predicate of a field that they hide is not asked (`Form.AsksShown`).

`predicates_asked_in_turn` puts this together with what is asked during a judgement, and says which
fields of a form keep the predicates after them from being asked although these are due: those that
stall.
-/

namespace FormEngine

/-! ## Judging the shown fields -/

namespace Form

/-- Questions that come of judging the fields that some values show. -/
structure AsksShown (form : Form) (today : Date) (values : Mapping Value)
    (questions : List Question) : Prop where
  judged : questions =
    (form.checklist.judge today values (some (form.shownKeys values))).questions
  /-- Each is about a field that is visible, in the light of these values. -/
  shown : ∀ q ∈ questions, q.values = values ∧
    ∃ f, form.fields.get? q.field = some f ∧ (f.visibleUnder values).result = .ok true
  /-- No predicate is asked twice. -/
  once : (questions.map (·.field)).Nodup

variable {form : Form} {today : Date} {values : Mapping Value}

/-- The gates of a form whose fields are named are those of their keys. -/
lemma fieldId_gates (named : form.NamesFields) :
    ∀ e ∈ form.checklist.gates.entries, e.2.fieldId = e.1 := by
  intro e he
  obtain ⟨⟨key, f⟩, hf, rfl⟩ := List.mem_map.1 he
  have hname : f.id = some key := named _ hf
  show f.id.getD "" = key
  rw [hname, Option.getD_some]

lemma asksShown (named : form.NamesFields) (today : Date) (values : Mapping Value) :
    form.AsksShown today values
      (form.checklist.judge today values (some (form.shownKeys values))).questions where
  judged := rfl
  shown := by
    intro q hq
    have hkeys := (Checklist.questions_sublist (fieldId_gates named)).subset
      (List.mem_map_of_mem hq)
    rw [Form.chosen_keys, mem_shownKeys] at hkeys
    obtain ⟨f, hf, hshown⟩ := hkeys
    rw [Checklist.judge_questions, List.mem_filterMap] at hq
    obtain ⟨e, -, hq⟩ := hq
    obtain ⟨-, converted, -, rfl⟩ := Gate.question?_eq_some_iff.1 hq
    exact ⟨rfl, f, hf, hshown ▸ f.visibleUnder_result values⟩
  once := (Checklist.asksInTurn today form.checklist values _).once (fieldId_gates named)

end Form

namespace Draft

open Sitting

variable {today : Date} {d : Draft}

/-- Settling on values asks what judging the fields asks that they show. -/
lemma settle_questions (values : Mapping Value) (touched : List Text) :
    (d.settle today values touched).questions =
      (d.checklist.judge today values (some (d.form.shownKeys values))).questions := by
  rw [settle, Traced.questions_bind_of_ok (judgeVisibility_result values _),
    (judgeVisibility_onlyLogs values _).questions_eq, List.nil_append, keys_of_verdicts]
  exact Traced.questions_bind_of_quiet fun _ => rfl

/-! ## One operation -/

/-- How an operation on a draft asks predicates. -/
structure AsksFor (form : Form) (today : Date) (d : Draft) (op : Operation) : Prop where
  /-- The values of the operation are judged once, as far as they show fields. -/
  judged : ∀ values, d.judgedValues op = some values → (∀ key ∈ op.keys, d.Declares key) →
    form.AsksShown today values (d.perform today op).outcome.questions
  /-- Without values, or with a key that is not that of a field, nothing is asked. -/
  silent : d.judgedValues op = none ∨ (∃ key ∈ op.keys, ¬ d.Declares key) →
    (d.perform today op).outcome.questions = []
  /-- Whoever is asked belongs to a field that the values of the operation show. -/
  visible : ∀ q ∈ (d.perform today op).outcome.questions, ∃ values f,
    d.judgedValues op = some values ∧ q.values = values ∧
      form.fields.get? q.field = some f ∧ (f.visibleUnder values).result = .ok true

/-- An operation that judges its values asks in the light of them. -/
lemma asksFor_of_asked {form : Form} {op : Operation} {values : Mapping Value}
    (hvalues : d.judgedValues op = some values) (declared : ∀ key ∈ op.keys, d.Declares key)
    (asked : form.AsksShown today values (d.perform today op).outcome.questions) :
    AsksFor form today d op where
  judged := by
    intro values' hvalues' _
    obtain rfl : values = values' := Option.some.inj (hvalues.symm.trans hvalues')
    exact asked
  silent := by
    rintro (hnone | ⟨key, hkey, undeclared⟩)
    · cases hvalues.symm.trans hnone
    · exact absurd (declared key hkey) undeclared
  visible := by
    intro q hq
    obtain ⟨heq, f, hf, hshown⟩ := asked.shown q hq
    exact ⟨values, f, hvalues, heq, hf, hshown⟩

lemma asksFor_of_silent {form : Form} {op : Operation}
    (idle : d.judgedValues op = none ∨ ∃ key ∈ op.keys, ¬ d.Declares key)
    (silent : (d.perform today op).outcome.questions = []) : AsksFor form today d op where
  judged := by
    intro values hvalues declared
    rcases idle with hnone | ⟨key, hkey, undeclared⟩
    · cases hvalues.symm.trans hnone
    · exact absurd (declared key hkey) undeclared
  silent := fun _ => silent
  visible := by
    intro q hq
    rw [silent] at hq
    cases hq

lemma stepTo_questions (next : Traced Draft) :
    (d.stepTo next).outcome.questions = next.questions := rfl

lemma writeAll_questions_of_ok {entries : List (Value × Value)} {written : List (Text × Value)}
    (h : d.fieldEntries entries = .ok written) :
    (d.writeAll today entries).outcome.questions =
      (d.checklist.judge today (d.values.setAll written)
        (some (d.form.shownKeys (d.values.setAll written)))).questions := by
  have hwritten : (Traced.ofExcept (d.fieldEntries entries)).result = .ok written := h
  rw [writeAll, stepTo_questions, Traced.questions_bind_of_ok hwritten]
  exact settle_questions ..

lemma writeAll_questions_of_error {entries : List (Value × Value)} {fault : Fault}
    (h : d.fieldEntries entries = .error fault) :
    (d.writeAll today entries).outcome.questions = [] := by
  have hfault : (Traced.ofExcept (d.fieldEntries entries)).result = .error fault := h
  rw [writeAll, stepTo_questions, Traced.questions_bind_of_error hfault]
  rfl

lemma reset_questions : (d.reset today).outcome.questions =
    (d.checklist.judge today d.form.initialValues
      (some (d.form.shownKeys d.form.initialValues))).questions := by
  rw [reset, stepTo_questions, Traced.questions_bind_of_quiet fun _ => rfl]
  exact settle_questions ..

lemma touch_questions (key : Value) : (d.touch key).outcome.questions = [] := by
  rw [touch, stepTo_questions]
  exact Traced.questions_bind_eq_nil rfl fun _ => rfl

lemma handOver_questions (given : Option Receiver) (data : Mapping Value) :
    (d.handOver given data).questions = [] := by
  rw [handOver_eq]
  split
  · rfl
  · refine Traced.questions_bind_eq_nil rfl fun _ => ?_
    split <;> rfl

/-- A submission asks what judging asks; what follows asks nothing. -/
lemma submit_questions (given : Option Receiver) :
    (d.submit today given).outcome.questions = (d.judge today).questions := by
  have hafter : ∀ after : Traced Report, after.questions = [] →
      ((d.judge today).events ++ after.events).filterMap Event.question? =
        (d.judge today).questions := by
    intro after quiet
    rw [List.filterMap_append]
    exact (congrArg _ quiet).trans (List.append_nil _)
  rw [submit]
  cases hr : (d.judge today).result with
  | error fault => rfl
  | ok r =>
      dsimp only
      split
      · refine hafter _ (Traced.questions_bind_eq_nil rfl fun _ => ?_)
        exact Traced.questions_bind_eq_nil (handOver_questions ..) fun _ => rfl
      · exact hafter _ rfl

lemma mount_questions (form : Form) (receiver : Option Receiver) :
    (mount today form receiver).questions =
      (form.checklist.judge today form.initialValues
        (some (form.shownKeys form.initialValues))).questions := by
  have hcompiled : form.compile.result = .ok form.checklist := rfl
  rw [mount, Traced.questions_bind_of_ok hcompiled]
  exact settle_questions ..

/-! ## The operations of a run -/

variable {form : Form} {own : Option Receiver} {s : Sitting}

/-- Entries that cannot be written have a key that is not that of a field. -/
lemma exists_undeclared {entries : List (Value × Value)} {fault : Fault}
    (h : d.fieldEntries entries = .error fault) :
    ∃ key ∈ (Operation.writeAll entries).keys, ¬ d.Declares key := by
  by_contra hnone
  push Not at hnone
  obtain ⟨written, hwritten⟩ := fieldEntries_of_declares hnone
  rw [hwritten] at h
  cases h

lemma Coherent.asksShown (h : Coherent form own s) (named : form.NamesFields) (today : Date)
    (values : Mapping Value) : form.AsksShown today values
      (s.draft.checklist.judge today values (some (s.draft.form.shownKeys values))).questions := by
  rw [h.checklist_eq, h.form_eq]
  exact Form.asksShown named today values

lemma Coherent.writeAll_asks (h : Coherent form own s) (named : form.NamesFields) (today : Date)
    (entries : List (Value × Value)) : AsksFor form today s.draft (.writeAll entries) := by
  cases hentries : s.draft.fieldEntries entries with
  | error fault =>
      exact asksFor_of_silent (.inr (exists_undeclared hentries))
        (writeAll_questions_of_error hentries)
  | ok written =>
      have hasked := h.asksShown named today (s.draft.values.setAll written)
      rw [← writeAll_questions_of_ok hentries] at hasked
      obtain ⟨rfl, hmem⟩ := fieldEntries_eq_ok.1 hentries
      refine asksFor_of_asked ?_ ?_ hasked
      · rw [judgedValues, Operation.entries, named_texts]
      · intro key hkey
        obtain ⟨_, hentry, rfl⟩ := List.mem_map.1 hkey
        obtain ⟨e, he, rfl⟩ := List.mem_map.1 hentry
        exact ⟨e.1, hmem e he, rfl⟩

/-- Every operation on a coherent draft asks only about fields that its values show. -/
lemma Coherent.perform_asks (h : Coherent form own s) (named : form.NamesFields) (today : Date)
    (op : Operation) : AsksFor form today s.draft op := by
  have hcurrent : form.AsksShown today s.draft.values (s.draft.judge today).questions := by
    rw [h.judge_eq named]
    exact Form.asksShown named today s.draft.values
  have hnoKeys : ∀ key ∈ ([] : List Value), s.draft.Declares key := nofun
  cases op with
  | write key value =>
      have hsame : s.draft.perform today (.write key value) =
          s.draft.perform today (.writeAll [(key, value)]) := by
        rw [perform, write_eq_writeAll]
        rfl
      obtain ⟨judged, silent, visible⟩ := h.writeAll_asks named today [(key, value)]
      rw [← hsame] at judged silent visible
      exact ⟨judged, silent, visible⟩
  | writeAll entries => exact h.writeAll_asks named today entries
  | touch key => exact asksFor_of_silent (.inl rfl) (touch_questions key)
  | reset =>
      have hasked := h.asksShown named today s.draft.form.initialValues
      rw [← reset_questions] at hasked
      exact asksFor_of_asked rfl hnoKeys hasked
  | judge => exact asksFor_of_asked rfl hnoKeys hcurrent
  | submit given =>
      rw [← submit_questions given] at hcurrent
      exact asksFor_of_asked rfl hnoKeys hcurrent

/-- A judgement asks predicates one after the other, in the order of the form and at most once each,
about the converted values of the fields that pass their checks, and all in the light of the same
values, whatever they do to what they are given.  It ends at the first fault, and asks all that is
due unless that is the fault of a check without an answer, to which a field of a form has come if it
stalls.  Mounting a form, and every operation on a draft that a run can come to, judges once at
most, and asks only about fields that the judged values show. -/
theorem predicates_asked_in_turn (today : Date) (list : Checklist) (values : Mapping Value)
    (only : Option (List Text)) :
    list.AsksInTurn today values only ∧
    (∀ (f : Field) v fault, f.gate.stuck? today v = some fault ↔ f.Stalls today v fault) ∧
    (∀ doc host form, Form.read doc host = .accepted form → ∀ receiver,
      form.AsksShown today form.initialValues (mount today form receiver).questions) ∧
    ∀ form own s, Reached form own s → ∀ op, AsksFor form today s.draft op := by
  refine ⟨list.asksInTurn today values only, fun f v fault => ?_, ?_, ?_⟩
  · rw [Gate.stuck?_eq_some_iff, ← Field.check_faults_iff]
    rfl
  · intro doc host form hread receiver
    rw [mount_questions]
    exact Form.asksShown (Form.namesFields_of_read hread) today form.initialValues
  · intro form own s hreached op
    obtain ⟨_, _, hread⟩ := hreached.read
    exact hreached.coherent.perform_asks (Form.namesFields_of_read hread) today op

/-- The predicate of a plate is asked once there is a car, and not before. -/
theorem predicates_asked_of_trip :
    Form.read tripDocument = .accepted trip ∧ Reached trip none filledTrip ∧
      trip.AsksShown tripDay trip.initialValues (mount tripDay trip none).questions ∧
      (mount tripDay trip none).questions = [] ∧
      AsksFor trip tripDay filledTrip.draft (.write (.text "plate") (.text "B 2")) ∧
      (filledTrip.draft.perform tripDay
          (.write (.text "plate") (.text "B 2"))).outcome.questions =
        [⟨"plate", .text "B 2", ⟨[("car", .bool true), ("plate", .text "B 2")], by decide⟩⟩] := by
  obtain ⟨-, -, mounting, operating⟩ :=
    predicates_asked_in_turn tripDay trip.checklist trip.initialValues none
  exact ⟨read_tripDocument, reached_filledTrip,
    mounting _ _ _ read_tripDocument none, rfl, operating _ _ _ reached_filledTrip _, rfl⟩

end Draft

end FormEngine
