import FormEngine.Proofs.Draft.Coherence

/-!
# Operations with faults

An operation on a draft ends with a fault for one of two reasons.  It is `Stopped` before it has
stored anything, because a key is not that of a field or because a visible field cannot be judged
under the values that it would store.  Or it is a submission that is `TurnedAway`: it has been
accepted, and the receiver of its data fails.

`atomicity_of_reached` says that there is no other reason, that a stopped operation leaves the draft
as it was, and that a submission that is turned away differs from none only in being counted, as
long as the values last.
-/

namespace FormEngine

namespace Draft

open Sitting

variable {today : Date} {d : Draft}

/-! ## Reasons -/

/-- Whether a key is that of a field. -/
def Declares (d : Draft) (key : Value) : Prop := ∃ id ∈ d.form.fields.keys, key = .text id

/-- Whether some field that is shown under some values cannot be judged under them. -/
def RaisesOn (today : Date) (d : Draft) (values : Mapping Value) : Prop :=
  ∃ key ∈ d.form.shownKeys values, ∃ fault,
    (d.checklist.judgeField today key values).result = .error fault

/-- The values that an operation judges, provided that its keys are those of fields. -/
def judgedValues (d : Draft) : Operation → Option (Mapping Value)
  | .write key value => some (d.values.setAll (Operation.write key value).entries)
  | .writeAll entries => some (d.values.setAll (Operation.writeAll entries).entries)
  | .touch _ => none
  | .reset => some d.form.initialValues
  | .judge => some d.values
  | .submit _ => some d.values

/-- An operation with a key that is not that of a field, at whatever place, or on whose values a
visible field cannot be judged. -/
def Stopped (today : Date) (d : Draft) (op : Operation) : Prop :=
  (∃ key ∈ op.keys, ¬ d.Declares key) ∨
    ∃ values, d.judgedValues op = some values ∧ d.RaisesOn today values

/-- A submission that is accepted and whose receiver fails. -/
def TurnedAway (today : Date) (d : Draft) (op : Operation) : Prop :=
  ∃ given r own receive message, op = .submit given ∧ (d.judge today).result = .ok r ∧
    r.isClean = true ∧ receiverFor given d.receiver = some (own, receive) ∧
    receive r.data = .error message

/-- An operation that judges values is not stopped exactly if its keys are those of fields and every
field that the values show can be judged. -/
lemma not_stopped_iff {op : Operation} {values : Mapping Value}
    (h : d.judgedValues op = some values) :
    ¬ d.Stopped today op ↔ (∀ key ∈ op.keys, d.Declares key) ∧ ¬ d.RaisesOn today values := by
  simp [Stopped, h]

/-! ## When a step comes to a next draft -/

lemma faults_iff {α : Type} {x : Except Fault α} :
    (∃ fault, x = .error fault) ↔ ¬ ∃ a, x = .ok a := by
  cases x <;> simp

lemma stepTo_ok_iff {next : Traced Draft} :
    (∃ a, (d.stepTo next).outcome.result = .ok a) ↔ ∃ d', next.result = .ok d' := by
  rw [stepTo]
  cases next.result <;> simp [Except.map]

lemma Step.map_ok_iff {α β : Type} {f : α → β} {s : Step α} :
    (∃ b, (s.map f).outcome.result = .ok b) ↔ ∃ a, s.outcome.result = .ok a := by
  rw [Step.map]
  cases s.outcome.result <;> simp [Except.map]

/-- Entries can be written if all their keys are those of fields. -/
lemma fieldEntries_of_declares {entries : List (Value × Value)}
    (h : ∀ key ∈ entries.map (·.1), d.Declares key) :
    ∃ written, d.fieldEntries entries = .ok written := by
  induction entries with
  | nil => exact ⟨[], rfl⟩
  | cons e entries ih =>
      obtain ⟨key, value⟩ := e
      obtain ⟨⟨id, hid, hkey⟩, hrest⟩ := List.forall_mem_cons.1 h
      obtain ⟨written, hwritten⟩ := ih hrest
      obtain ⟨rfl, hmem⟩ := fieldEntries_eq_ok.1 hwritten
      obtain rfl : key = .text id := hkey
      exact ⟨(id, value) :: written,
        fieldEntries_eq_ok.2 ⟨rfl, List.forall_mem_cons.2 ⟨hid, hmem⟩⟩⟩

/-- Judging the fields that values show succeeds unless one of them cannot be judged. -/
lemma judge_ok_iff (made : d.checklist = d.form.checklist) (values : Mapping Value) :
    (∃ r, (d.checklist.judge today values (some (d.form.shownKeys values))).result = .ok r) ↔
      ¬ d.RaisesOn today values := by
  have hkeys : d.checklist.gates.keys = d.form.fields.keys := by
    rw [made]
    exact Mapping.keys_mapValues ..
  have hknown : d.form.shownKeys values ⊆ d.checklist.gates.keys := by
    intro key hkey
    obtain ⟨f, hf, -⟩ := Form.mem_shownKeys.1 hkey
    rw [hkeys]
    exact Mapping.mem_keys_of_get? hf
  rw [RaisesOn, ← Checklist.judge_faults_iff hknown, faults_iff, not_not]

lemma settle_ok_iff (made : d.checklist = d.form.checklist) {values : Mapping Value}
    {touched : List Text} :
    (∃ d', (d.settle today values touched).result = .ok d') ↔ ¬ d.RaisesOn today values := by
  rw [← judge_ok_iff made]
  constructor
  · rintro ⟨d', hd'⟩
    obtain ⟨r, hr, -⟩ := settle_eq_ok.1 hd'
    exact ⟨r, hr⟩
  · rintro ⟨r, hr⟩
    exact ⟨_, settle_eq_ok.2 ⟨r, hr, rfl⟩⟩

lemma writeAll_ok_iff (made : d.checklist = d.form.checklist) (entries : List (Value × Value)) :
    (∃ a, (d.writeAll today entries).outcome.result = .ok a) ↔
      ¬ d.Stopped today (.writeAll entries) := by
  rw [not_stopped_iff rfl, writeAll, stepTo_ok_iff]
  simp only [Traced.bind_result_eq_ok]
  constructor
  · rintro ⟨d', written, hentries, -, -, hsettle⟩
    obtain ⟨rfl, hmem⟩ := fieldEntries_eq_ok.1 hentries
    rw [Operation.entries, named_texts]
    refine ⟨?_, (settle_ok_iff made).1 ⟨d', hsettle⟩⟩
    intro key hkey
    obtain ⟨e, he, rfl⟩ := List.mem_map.1 hkey
    obtain ⟨w, hw, rfl⟩ := List.mem_map.1 he
    exact ⟨w.1, hmem w hw, rfl⟩
  · rintro ⟨hkeys, hraises⟩
    obtain ⟨written, hwritten⟩ := fieldEntries_of_declares hkeys
    obtain ⟨rfl, -⟩ := fieldEntries_eq_ok.1 hwritten
    rw [Operation.entries, named_texts] at hraises
    obtain ⟨d', hsettle⟩ := (settle_ok_iff made).2 hraises
    exact ⟨d', written, hwritten, (), rfl, hsettle⟩

lemma write_ok_iff (made : d.checklist = d.form.checklist) (key value : Value) :
    (∃ a, (d.write today key value).outcome.result = .ok a) ↔
      ¬ d.Stopped today (.write key value) := by
  rw [write_eq_writeAll]
  exact writeAll_ok_iff made [(key, value)]

lemma touch_ok_iff (today : Date) (key : Value) :
    (∃ a, (d.touch key).outcome.result = .ok a) ↔ ¬ d.Stopped today (.touch key) := by
  have hstopped : d.Stopped today (.touch key) ↔ ¬ d.Declares key := by
    simp [Stopped, Operation.keys, judgedValues]
  rw [hstopped, not_not, touch, stepTo_ok_iff]
  simp only [Traced.bind_result_eq_ok]
  constructor
  · rintro ⟨d', id, hkey, -⟩
    obtain ⟨rfl, hid⟩ := fieldKey_eq_ok.1 hkey
    exact ⟨id, hid, rfl⟩
  · rintro ⟨id, hid, rfl⟩
    exact ⟨_, id, fieldKey_eq_ok.2 ⟨rfl, hid⟩, rfl⟩

lemma reset_ok_iff (made : d.checklist = d.form.checklist) :
    (∃ a, (d.reset today).outcome.result = .ok a) ↔ ¬ d.Stopped today .reset := by
  rw [not_stopped_iff rfl, reset, stepTo_ok_iff]
  simp only [Traced.bind_result_eq_ok]
  constructor
  · rintro ⟨-, d', hsettle, -⟩
    exact ⟨fun _ hkey => absurd hkey List.not_mem_nil, (settle_ok_iff made).1 ⟨d', hsettle⟩⟩
  · rintro ⟨-, hraises⟩
    obtain ⟨d', hsettle⟩ := (settle_ok_iff made).2 hraises
    exact ⟨_, d', hsettle, rfl⟩

/-! ## Steps with faults -/

lemma settle_handOvers (values : Mapping Value) (touched : List Text) :
    (d.settle today values touched).handOvers = [] := by
  refine Traced.handOvers_bind_eq_nil (judgeVisibility_onlyLogs values _).handOvers_eq fun _ => ?_
  exact Traced.handOvers_bind_eq_nil (Checklist.judgeFrom_handOvers ..) fun _ => rfl

/-- A step that comes to no next draft has changed nothing. -/
lemma stepTo_kept {next : Traced Draft} (quiet : next.handOvers = [])
    (h : ¬ ∃ a, (d.stepTo next).outcome.result = .ok a) :
    (d.stepTo next).draft = d ∧ (d.stepTo next).outcome.handOvers = [] := by
  rcases d.stepTo_cases next with hfails | ⟨d', -, hok, -⟩
  · exact ⟨hfails.2, quiet⟩
  · exact absurd ⟨(), hok⟩ h

lemma writeAll_kept (made : d.checklist = d.form.checklist) {entries : List (Value × Value)}
    (stopped : d.Stopped today (.writeAll entries)) :
    (d.writeAll today entries).draft = d ∧ (d.writeAll today entries).outcome.handOvers = [] := by
  refine stepTo_kept ?_ fun hok => (writeAll_ok_iff made entries).1 hok stopped
  refine Traced.handOvers_bind_eq_nil rfl fun _ => ?_
  exact Traced.handOvers_bind_eq_nil rfl fun _ => settle_handOvers ..

variable {form : Form} {own : Option Receiver} {s : Sitting}

lemma Coherent.made (h : Coherent form own s) : s.draft.checklist = s.draft.form.checklist := by
  rw [h.checklist_eq, h.form_eq]

/-- Judging the draft itself is stopped exactly if it ends with a fault. -/
lemma Coherent.stopped_iff (h : Coherent form own s) (named : form.NamesFields) {op : Operation}
    (hkeys : op.keys = []) (hvalues : s.draft.judgedValues op = some s.draft.values) :
    s.draft.Stopped today op ↔ ∃ fault, (s.draft.judge today).result = .error fault := by
  rw [h.judge_eq named, ← h.checklist_eq, ← h.form_eq, faults_iff, judge_ok_iff h.made, not_not]
  simp [Stopped, hkeys, hvalues]

lemma received_faults_iff {called : Option (Bool × Receiver)} {r : Report} :
    (∃ fault, received called r = .error fault) ↔
      ∃ own receive message, called = some (own, receive) ∧ receive r.data = .error message := by
  unfold received
  cases called with
  | none => simp
  | some called =>
      obtain ⟨own, receive⟩ := called
      cases h : receive r.data <;> simp [h]

/-- A submission ends with a fault exactly if it is stopped or turned away. -/
lemma Coherent.submit_faults_iff (h : Coherent form own s) (named : form.NamesFields)
    (given : Option Receiver) :
    (∃ fault, (s.draft.submit today given).outcome.result = .error fault) ↔
      s.draft.Stopped today (.submit given) ∨ s.draft.TurnedAway today (.submit given) := by
  rw [h.stopped_iff named rfl rfl]
  cases hr : (s.draft.judge today).result with
  | error fault =>
      obtain ⟨-, hresult, -⟩ := submit_unjudged hr given
      exact ⟨fun _ => .inl ⟨fault, rfl⟩, fun _ => ⟨fault, hresult⟩⟩
  | ok r =>
      cases hclean : r.isClean with
      | false =>
          obtain ⟨-, hresult, -⟩ := submit_refused hr hclean given
          simp [hresult, TurnedAway, hr, hclean]
      | true =>
          obtain ⟨-, hresult, -⟩ := submit_accepted hr hclean given
          rw [hresult, received_faults_iff]
          simp [TurnedAway, hr, hclean]

/-- No other operation than a submission can be turned away. -/
lemma perform_faults_of_ok_iff {op : Operation} (hop : ∀ given, op ≠ .submit given)
    (h : (∃ a, (d.perform today op).outcome.result = .ok a) ↔ ¬ d.Stopped today op) :
    (∃ fault, (d.perform today op).outcome.result = .error fault) ↔
      d.Stopped today op ∨ d.TurnedAway today op := by
  have hturned : ¬ d.TurnedAway today op := by
    rintro ⟨given, _, _, _, _, heq, -⟩
    exact hop given heq
  rw [faults_iff, h, not_not, or_iff_left hturned]

/-- An operation ends with a fault exactly if it is stopped or turned away. -/
lemma Coherent.perform_faults_iff (h : Coherent form own s) (named : form.NamesFields)
    (op : Operation) :
    (∃ fault, (s.draft.perform today op).outcome.result = .error fault) ↔
      s.draft.Stopped today op ∨ s.draft.TurnedAway today op := by
  cases op with
  | submit given =>
      rw [← h.submit_faults_iff named]
      exact exists_congr fun _ => Step.map_result_eq_error
  | write key value =>
      refine perform_faults_of_ok_iff (fun _ => nofun) ?_
      exact Step.map_ok_iff.trans (write_ok_iff h.made key value)
  | writeAll entries =>
      refine perform_faults_of_ok_iff (fun _ => nofun) ?_
      exact Step.map_ok_iff.trans (writeAll_ok_iff h.made entries)
  | touch key =>
      refine perform_faults_of_ok_iff (fun _ => nofun) ?_
      exact Step.map_ok_iff.trans (touch_ok_iff today key)
  | reset =>
      refine perform_faults_of_ok_iff (fun _ => nofun) ?_
      exact Step.map_ok_iff.trans (reset_ok_iff h.made)
  | judge =>
      have hok : (∃ r, (s.draft.judge today).result = .ok r) ↔ ¬ s.draft.Stopped today .judge := by
        rw [h.stopped_iff named rfl rfl, faults_iff, not_not]
      exact perform_faults_of_ok_iff (fun _ => nofun) (Step.map_ok_iff.trans hok)

/-- A stopped operation has changed nothing and handed nothing over. -/
lemma Coherent.stopped_kept (h : Coherent form own s) (named : form.NamesFields) {op : Operation}
    (stopped : s.draft.Stopped today op) :
    (s.draft.perform today op).draft = s.draft ∧
      (s.draft.perform today op).outcome.handOvers = [] := by
  cases op with
  | write key value =>
      rw [perform, write_eq_writeAll]
      have hstopped : s.draft.Stopped today (.writeAll [(key, value)]) := stopped
      exact writeAll_kept h.made hstopped
  | writeAll entries => exact writeAll_kept h.made stopped
  | touch key =>
      refine stepTo_kept ?_ fun hok => (touch_ok_iff today key).1 hok stopped
      exact Traced.handOvers_bind_eq_nil rfl fun _ => rfl
  | reset =>
      refine stepTo_kept ?_ fun hok => (reset_ok_iff h.made).1 hok stopped
      exact Traced.handOvers_bind_eq_nil (settle_handOvers ..) fun _ => rfl
  | judge => exact ⟨rfl, judge_handOvers ..⟩
  | submit given =>
      obtain ⟨fault, hfault⟩ := (h.stopped_iff named rfl rfl).1 stopped
      obtain ⟨hdraft, -, hover⟩ := submit_unjudged hfault given
      exact ⟨hdraft, hover⟩

/-- A submission that is turned away has been counted and has handed its data over once. -/
lemma Coherent.turnedAway_counted (h : Coherent form own s) (named : form.NamesFields)
    {op : Operation} (turned : s.draft.TurnedAway today op) :
    (s.draft.perform today op).outcome.handOvers.length = 1 ∧
      ∃ errors, (s.draft.perform today op).draft =
          { s.draft with errors, submissions := s.draft.submissions + 1 } ∧
        (form.Lasts s.day today s.draft.values → errors = s.draft.errors) := by
  obtain ⟨given, r, own', receive, message, rfl, hr, hclean, hcalled, -⟩ := turned
  obtain ⟨hdraft, -, hover⟩ := submit_accepted hr hclean given
  refine ⟨?_, r.errors, hdraft, ?_⟩
  · have hone : (s.draft.submit today given).outcome.handOvers = [(own', r.data)] := by
      rw [hover, hcalled]
      rfl
    exact congrArg List.length hone
  · intro lasts
    obtain ⟨r', hr', herrors⟩ := h.judge_result named lasts
    obtain rfl : r = r' := Except.ok.inj (hr.symm.trans hr')
    exact herrors.symm

/-- In every draft that a run can come to, an operation ends with a fault exactly if it is stopped
or turned away.  If it is stopped, the draft is the one from before and nothing has been handed
over.  If it is turned away, the draft differs from the one from before in the number of
submissions, which is one larger, and in nothing else but possibly the errors: these are the ones
from before if the values last from the day on which they have been derived until that of the
submission. -/
theorem atomicity_of_reached (reached : Reached form own s) (e : Dated) :
    ((∃ fault, (s.draft.perform e.day e.operation).outcome.result = .error fault) ↔
        s.draft.Stopped e.day e.operation ∨ s.draft.TurnedAway e.day e.operation) ∧
      (s.draft.Stopped e.day e.operation →
        (s.draft.perform e.day e.operation).draft = s.draft ∧
          (s.draft.perform e.day e.operation).outcome.handOvers = []) ∧
      (s.draft.TurnedAway e.day e.operation →
        (s.draft.perform e.day e.operation).outcome.handOvers.length = 1 ∧
          ∃ errors, (s.draft.perform e.day e.operation).draft =
              { s.draft with errors, submissions := s.draft.submissions + 1 } ∧
            (form.Lasts s.day e.day s.draft.values → errors = s.draft.errors)) := by
  obtain ⟨_, _, hread⟩ := reached.read
  have named := Form.namesFields_of_read hread
  have h := reached.coherent
  exact ⟨h.perform_faults_iff named e.operation, h.stopped_kept named, h.turnedAway_counted named⟩

theorem atomicity_of_filledTrip :
    Reached trip none filledTrip ∧
      (filledTrip.draft.perform tripDay (.write (.text "plate") (.text "X"))).outcome.result =
        .error (.raised "offline") ∧
      (filledTrip.draft.perform tripDay (.write (.text "plate") (.text "X"))).draft =
        filledTrip.draft ∧
      (filledTrip.draft.perform tripDay (.submit (some fullReceiver))).outcome.result =
        .error (.raised "full") ∧
      (filledTrip.draft.perform tripDay (.submit (some fullReceiver))).draft.submissions =
        filledTrip.draft.submissions + 1 := by
  have hplate : filledTrip.draft.Stopped tripDay (.write (.text "plate") (.text "X")) :=
    .inr ⟨_, rfl, "plate", by decide, .raised "offline", rfl⟩
  have hsubmit : filledTrip.draft.TurnedAway tripDay (.submit (some fullReceiver)) :=
    ⟨some fullReceiver, _, false, fullReceiver, "full", rfl, rfl, rfl, rfl, rfl⟩
  obtain ⟨-, kept, -⟩ := atomicity_of_reached reached_filledTrip
    ⟨tripDay, .write (.text "plate") (.text "X")⟩
  obtain ⟨-, -, counted⟩ := atomicity_of_reached reached_filledTrip
    ⟨tripDay, .submit (some fullReceiver)⟩
  obtain ⟨-, errors, hdraft, -⟩ := counted hsubmit
  refine ⟨reached_filledTrip, rfl, (kept hplate).1, rfl, ?_⟩
  rw [hdraft]

end Draft

end FormEngine
