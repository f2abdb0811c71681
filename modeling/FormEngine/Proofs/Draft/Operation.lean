import FormEngine.Draft
import FormEngine.Proofs.Form.Visibility
import FormEngine.Proofs.HandOver
import FormEngine.Proofs.Mapping

/-!
# What an operation on a draft can do

Each operation on a draft is answered by a `Draft.Step`: an outcome, which may be a fault, and the
draft afterwards.  This file says once and for all what that draft can be, so that no later proof
opens the operations again.

`settle_eq_ok` is the heart: a settled draft is the old one with the new values and touched fields,
with the verdicts of the form on these values, and with the errors of a report on the fields that
the verdicts show.  The lemmas `writeAll_cases`, `write_cases`, `touch_cases` and `reset_cases` then
split an operation into its ends, and a fault leaves the draft from before.  A submission ends in
one of three ways, told by the report on the visible fields: `submit_accepted`, `submit_refused`
and `submit_unjudged`.
-/

namespace FormEngine

/-! ## Verdicts and shown fields -/

/-- The verdict on every field of a form under some values. -/
def Form.verdicts (form : Form) (values : Mapping Value) : Mapping Bool :=
  form.fields.mapValues fun _ f => f.isShownBy values

/-- The keys of the fields that are shown under some values, in the order of the form. -/
def Form.shownKeys (form : Form) (values : Mapping Value) : List Text :=
  (form.fields.filter fun _ f => f.isShownBy values).keys

lemma Form.keys_verdicts (form : Form) (values : Mapping Value) :
    (form.verdicts values).keys = form.fields.keys :=
  Mapping.keys_mapValues ..

lemma Form.get?_verdicts (form : Form) (values : Mapping Value) (key : Text) :
    (form.verdicts values).get? key = (form.fields.get? key).map (·.isShownBy values) :=
  Mapping.get?_mapValues ..

lemma Form.mem_shownKeys {form : Form} {values : Mapping Value} {key : Text} :
    key ∈ form.shownKeys values ↔
      ∃ f, form.fields.get? key = some f ∧ f.isShownBy values = true := by
  rw [shownKeys, Mapping.mem_keys_iff]
  simp [Mapping.get?_filter, Option.filter_eq_some_iff]

namespace Draft

lemma judgeVisibility_result (values : Mapping Value) (fields : List (Text × Field)) :
    (judgeVisibility values fields).result =
      .ok (fields.map fun e => (e.1, e.2.isShownBy values)) := by
  induction fields with
  | nil => rfl
  | cons e fields ih =>
      obtain ⟨id, f⟩ := e
      rw [judgeVisibility, Traced.bind_result_eq_ok]
      refine ⟨f.isShownBy values, f.visibleUnder_result values, ?_⟩
      rw [Traced.bind_result_eq_ok]
      exact ⟨_, ih, rfl⟩

lemma judgeVisibility_onlyLogs (values : Mapping Value) (fields : List (Text × Field)) :
    (judgeVisibility values fields).OnlyLogs := by
  induction fields with
  | nil => exact .pure []
  | cons e fields ih =>
      exact (Condition.judgeAll_onlyLogs values _).bind fun _ => ih.bind fun _ => .pure _

/-! ## Settling -/

/-- The draft with new values and touched fields, the verdicts on the values, and some errors. -/
def settled (d : Draft) (values : Mapping Value) (touched : List Text)
    (errors : Mapping (List Text)) : Draft :=
  { d with values, touched, visibility := d.form.verdicts values, errors }

/-- The keys with a positive verdict are those of the shown fields. -/
lemma keys_of_verdicts (form : Form) (values : Mapping Value) :
    ((form.fields.entries.map fun e => (e.1, e.2.isShownBy values)).filter (·.2)).map (·.1) =
      form.shownKeys values := by
  rw [List.filter_map, List.map_map]
  rfl

/-- A draft settles on new values exactly if a report on the fields shown under them comes back,
and then on the errors of that report. -/
theorem settle_eq_ok {today : Date} {d d' : Draft} {values : Mapping Value}
    {touched : List Text} :
    (d.settle today values touched).result = .ok d' ↔
      ∃ r, (d.checklist.judge today values (some (d.form.shownKeys values))).result = .ok r ∧
        d' = d.settled values touched r.errors := by
  have hverdicts : Mapping.ofList (d.form.fields.entries.map fun e => (e.1, e.2.isShownBy values))
      = d.form.verdicts values :=
    Mapping.eq_of_entries_eq (Mapping.entries_ofList (d.form.verdicts values).nodup)
  rw [settle, Traced.bind_result_eq_ok]
  simp only [judgeVisibility_result, Except.ok.injEq, exists_eq_left', keys_of_verdicts, hverdicts,
    Traced.bind_result_eq_ok, Traced.pure_result]
  exact exists_congr fun r => and_congr_right fun _ => eq_comm

/-- A draft that does not settle has the fault of the report. -/
lemma settle_eq_error {today : Date} {d : Draft} {values : Mapping Value} {touched : List Text}
    {fault : Fault} :
    (d.settle today values touched).result = .error fault ↔
      (d.checklist.judge today values (some (d.form.shownKeys values))).result = .error fault := by
  simp [settle, Traced.bind_result_eq_error, judgeVisibility_result, keys_of_verdicts]

/-! ## Keys of fields -/

lemma fieldKey_eq_ok {d : Draft} {key : Value} {id : Text} :
    d.fieldKey key = .ok id ↔ key = .text id ∧ id ∈ d.form.fields.keys := by
  unfold fieldKey
  cases key with
  | text name =>
      by_cases h : d.form.fields.contains name = true
      · simp only [Value.unhashable?, if_pos h, Except.ok.injEq, Value.text.injEq]
        exact ⟨fun e => ⟨e, e ▸ Mapping.contains_iff.1 h⟩, fun e => e.1⟩
      · simp only [Value.unhashable?, if_neg h, Value.text.injEq]
        refine ⟨fun e => by simp at e, fun e => absurd (Mapping.contains_iff.2 e.2) ?_⟩
        rwa [← e.1]
  | tuple items => cases Value.unhashable? (.tuple items) <;> simp
  | _ => simp [Value.unhashable?]

lemma bind_eq_ok {α β ε : Type} {x : Except ε α} {f : α → Except ε β} {b : β} :
    (x >>= f) = .ok b ↔ ∃ a, x = .ok a ∧ f a = .ok b := by
  cases x <;> simp [bind, Except.bind]

lemma pure_eq_ok {α ε : Type} {a b : α} : (pure a : Except ε α) = .ok b ↔ a = b :=
  Except.ok.injEq a b ▸ Iff.rfl

/-- The entries that are written are those that were given, each under the key of a field. -/
lemma fieldEntries_eq_ok {d : Draft} {entries : List (Value × Value)}
    {written : List (Text × Value)} :
    d.fieldEntries entries = .ok written ↔
      entries = written.map (fun e => (.text e.1, e.2)) ∧
        ∀ e ∈ written, e.1 ∈ d.form.fields.keys := by
  unfold fieldEntries
  induction entries generalizing written with
  | nil =>
      rw [List.mapM_nil, pure_eq_ok]
      cases written <;> simp
  | cons e entries ih =>
      obtain ⟨key, v⟩ := e
      simp only [List.mapM_cons, bind_eq_ok, pure_eq_ok, fieldKey_eq_ok, ih]
      constructor
      · rintro ⟨_, ⟨id, ⟨rfl, hid⟩, rfl⟩, rest, ⟨rfl, hrest⟩, rfl⟩
        exact ⟨rfl, List.forall_mem_cons.2 ⟨hid, hrest⟩⟩
      · rintro ⟨heq, hmem⟩
        cases written with
        | nil => cases heq
        | cons w rest =>
            obtain ⟨hw, rfl⟩ := List.cons.inj heq
            obtain ⟨rfl, rfl⟩ := Prod.mk.inj hw
            obtain ⟨hid, hrest⟩ := List.forall_mem_cons.1 hmem
            exact ⟨w, ⟨w.1, ⟨rfl, hid⟩, rfl⟩, rest, ⟨rfl, hrest⟩, rfl⟩

/-! ## The ends of an operation -/

/-- A step that ends with a fault and leaves the draft as it was. -/
def Step.Fails {α : Type} (s : Step α) (d : Draft) : Prop :=
  (∃ fault, s.outcome.result = .error fault) ∧ s.draft = d

/-- A step to a next draft fails, or ends with that draft. -/
lemma stepTo_cases (d : Draft) (next : Traced Draft) :
    (d.stepTo next).Fails d ∨
      ∃ d', next.result = .ok d' ∧ (d.stepTo next).outcome.result = .ok () ∧
        (d.stepTo next).draft = d' := by
  cases h : next.result with
  | error fault => exact .inl ⟨⟨fault, by simp [stepTo, h, Except.map]⟩, by simp [stepTo, h]⟩
  | ok d' => exact .inr ⟨d', rfl, by simp [stepTo, h, Except.map], by simp [stepTo, h]⟩

/-- A write of several values fails, or it stores them all under keys of fields and touches these
fields. -/
theorem writeAll_cases (today : Date) (d : Draft) (entries : List (Value × Value)) :
    (d.writeAll today entries).Fails d ∨
      ∃ written r, entries = written.map (fun e => (.text e.1, e.2)) ∧
        (∀ e ∈ written, e.1 ∈ d.form.fields.keys) ∧
        (d.checklist.judge today (d.values.setAll written)
          (some (d.form.shownKeys (d.values.setAll written)))).result = .ok r ∧
        (d.writeAll today entries).outcome.result = .ok () ∧
        (d.writeAll today entries).draft =
          d.settled (d.values.setAll written) (d.touching (written.map (·.1))) r.errors := by
  refine (stepTo_cases d _).imp_right ?_
  rintro ⟨d', hnext, hok, hdraft⟩
  simp only [Traced.bind_result_eq_ok] at hnext
  obtain ⟨written, hentries, -, -, hsettle⟩ := hnext
  obtain ⟨rfl, hmem⟩ := fieldEntries_eq_ok.1 hentries
  obtain ⟨r, hr, rfl⟩ := settle_eq_ok.1 hsettle
  exact ⟨written, r, rfl, hmem, hr, hok, hdraft⟩

/-- Writing one value is writing several that are just one. -/
lemma write_eq_writeAll (today : Date) (d : Draft) (key value : Value) :
    d.write today key value = d.writeAll today [(key, value)] := by
  rw [write, writeAll]
  congr 1
  have hentries : d.fieldEntries [(key, value)] =
      (d.fieldKey key).map fun id => [(id, value)] := by
    rw [fieldEntries, List.mapM_cons, List.mapM_nil]
    cases d.fieldKey key <;> rfl
  rw [hentries]
  cases d.fieldKey key with
  | error fault => rfl
  | ok id =>
      simp only [Traced.ofExcept, Except.map, bind, Traced.bind, List.map_cons, List.map_nil,
        Text.join]
      rfl

/-- A write fails, or it stores the value under the key of a field and touches the field. -/
theorem write_cases (today : Date) (d : Draft) (key value : Value) :
    (d.write today key value).Fails d ∨
      ∃ id r, key = .text id ∧ id ∈ d.form.fields.keys ∧
        (d.checklist.judge today (d.values.set id value)
          (some (d.form.shownKeys (d.values.set id value)))).result = .ok r ∧
        (d.write today key value).outcome.result = .ok () ∧
        (d.write today key value).draft =
          d.settled (d.values.set id value) (d.touching [id]) r.errors := by
  rw [write_eq_writeAll]
  refine (writeAll_cases today d [(key, value)]).imp_right ?_
  rintro ⟨written, r, hentries, hmem, hr, hok, hdraft⟩
  obtain ⟨e, rfl, he⟩ := List.map_eq_singleton_iff.1 hentries.symm
  obtain ⟨rfl, rfl⟩ := Prod.mk.inj he
  exact ⟨e.1, r, rfl, hmem e (List.mem_singleton_self e), hr, hok, hdraft⟩

/-- A touch fails, or it touches a field and nothing else. -/
theorem touch_cases (d : Draft) (key : Value) :
    (d.touch key).Fails d ∨
      ∃ id, key = .text id ∧ id ∈ d.form.fields.keys ∧ (d.touch key).outcome.result = .ok () ∧
        (d.touch key).draft = { d with touched := d.touching [id] } := by
  refine (stepTo_cases d _).imp_right ?_
  rintro ⟨d', hnext, hok, hdraft⟩
  simp only [Traced.bind_result_eq_ok, Traced.pure_result, Except.ok.injEq] at hnext
  obtain ⟨id, hkey, rfl⟩ := hnext
  obtain ⟨rfl, hid⟩ := fieldKey_eq_ok.1 hkey
  exact ⟨id, rfl, hid, hok, hdraft⟩

/-- A reset fails, or it goes back to the initial values with nothing touched. -/
theorem reset_cases (today : Date) (d : Draft) :
    (d.reset today).Fails d ∨
      ∃ r, (d.checklist.judge today d.form.initialValues
          (some (d.form.shownKeys d.form.initialValues))).result = .ok r ∧
        (d.reset today).outcome.result = .ok () ∧
        (d.reset today).draft =
          { d.settled d.form.initialValues [] r.errors with attempted := false } := by
  refine (stepTo_cases d _).imp_right ?_
  rintro ⟨d', hnext, hok, hdraft⟩
  simp only [Traced.bind_result_eq_ok, Traced.pure_result, Except.ok.injEq] at hnext
  obtain ⟨d'', hsettle, rfl⟩ := hnext
  obtain ⟨r, hr, rfl⟩ := settle_eq_ok.1 hsettle
  exact ⟨r, hr, hok, hdraft⟩

/-- A new draft holds the initial values, the verdicts on them and the errors of a report. -/
theorem mount_eq_ok {today : Date} {form : Form} {receiver : Option Receiver} {d : Draft} :
    (mount today form receiver).result = .ok d ↔
      ∃ r, (form.checklist.judge today form.initialValues
          (some (form.shownKeys form.initialValues))).result = .ok r ∧
        d = { form, checklist := form.checklist, receiver, values := form.initialValues,
              touched := [], visibility := form.verdicts form.initialValues, errors := r.errors,
              attempted := false, submissions := 0 } := by
  rw [mount, Traced.bind_result_eq_ok]
  constructor
  · rintro ⟨checklist, hcompile, hstart⟩
    obtain rfl : form.checklist = checklist := Except.ok.inj hcompile
    exact settle_eq_ok.1 hstart
  · intro h
    exact ⟨form.checklist, rfl, settle_eq_ok.2 h⟩

/-! ## Submitting -/

lemma judge_handOvers (today : Date) (d : Draft) : (d.judge today).handOvers = [] :=
  Checklist.judgeFrom_handOvers ..

/-- Who receives the data of a submission: the receiver of the call, else that of the draft.  The
flag tells the latter. -/
def receiverFor (given own : Option Receiver) : Option (Bool × Receiver) :=
  match given, own with
  | some receive, _ => some (false, receive)
  | none, some receive => some (true, receive)
  | none, none => none

/-- What an accepted submission answers: its report, unless the receiver fails. -/
def received (called : Option (Bool × Receiver)) (r : Report) : Except Fault Report :=
  match called with
  | none => .ok r
  | some (_, receive) =>
    match receive r.data with
    | .ok () => .ok r
    | .error message => .error (.raised message)

lemma handOver_eq (d : Draft) (given : Option Receiver) (data : Mapping Value) :
    d.handOver given data = match receiverFor given d.receiver with
      | none => pure ()
      | some (own, receive) => Traced.event (.submitted own data) >>= fun _ =>
          match receive data with
          | .ok () => pure ()
          | .error message => Traced.fault (.raised message) := by
  unfold handOver
  cases given with
  | some receive => rfl
  | none => cases d.receiver <;> rfl

/-- Handing data over calls the receiver once, if there is any, and answers as it does. -/
lemma handOver_spec (d : Draft) (given : Option Receiver) (r : Report) :
    (d.handOver given r.data >>= fun _ => pure r).handOvers =
        ((receiverFor given d.receiver).map fun called => (called.1, r.data)).toList ∧
      (d.handOver given r.data >>= fun _ => pure r).result =
        received (receiverFor given d.receiver) r := by
  rw [handOver_eq]
  cases receiverFor given d.receiver with
  | none => exact ⟨rfl, rfl⟩
  | some called =>
      obtain ⟨own, receive⟩ := called
      cases h : receive r.data <;>
        simp [h, received, bind, Traced.bind, Traced.event, Traced.fault, pure, Traced.answer,
          Traced.handOvers, Event.handOver?]

/-- A submission whose report is clean hands the data over, answers as the receiver does, and is
counted in either case. -/
lemma submit_accepted {today : Date} {d : Draft} {r : Report}
    (hr : (d.judge today).result = .ok r) (clean : r.isClean = true) (given : Option Receiver) :
    (d.submit today given).draft = { d with errors := r.errors, submissions := d.submissions + 1 } ∧
      (d.submit today given).outcome.result = received (receiverFor given d.receiver) r ∧
      (d.submit today given).outcome.handOvers =
        ((receiverFor given d.receiver).map fun called => (called.1, r.data)).toList := by
  obtain ⟨hover, hresult⟩ :=
    handOver_spec { d with errors := r.errors, submissions := d.submissions + 1 } given r
  simp only [submit, hr, clean, if_true]
  refine ⟨trivial, hresult, ?_⟩
  have hjudge : (d.judge today).events.filterMap Event.handOver? = [] := d.judge_handOvers today
  rw [Traced.handOvers, List.filterMap_append, hjudge, List.nil_append]
  exact hover

/-- A submission whose report has errors is remembered, and hands nothing over. -/
lemma submit_refused {today : Date} {d : Draft} {r : Report}
    (hr : (d.judge today).result = .ok r) (refused : r.isClean = false)
    (given : Option Receiver) :
    (d.submit today given).draft = { d with errors := r.errors, attempted := true } ∧
      (d.submit today given).outcome.result = .ok r ∧
      (d.submit today given).outcome.handOvers = [] := by
  simp only [submit, hr, refused, Bool.false_eq_true, if_false]
  refine ⟨trivial, rfl, ?_⟩
  have hjudge : (d.judge today).events.filterMap Event.handOver? = [] := d.judge_handOvers today
  rw [Traced.handOvers, List.filterMap_append, hjudge]
  rfl

/-- A submission that cannot be judged fails, and hands nothing over. -/
lemma submit_unjudged {today : Date} {d : Draft} {fault : Fault}
    (h : (d.judge today).result = .error fault) (given : Option Receiver) :
    (d.submit today given).draft = d ∧
      (d.submit today given).outcome.result = .error fault ∧
      (d.submit today given).outcome.handOvers = [] := by
  simp only [submit, h]
  exact ⟨trivial, trivial, d.judge_handOvers today⟩

end Draft

end FormEngine
