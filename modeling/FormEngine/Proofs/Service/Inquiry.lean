import FormEngine.Proofs.Check.Interpretation
import FormEngine.Proofs.Checklist
import FormEngine.Proofs.Service.Response

/-!
# What is asked about a draft, and what is answered

An `Inquiry` is what a request asks about the draft of a session, and `Inquiry.reply` is what the
service makes of it.  `Answers` says what the reply means, in terms of what the draft shows and
reports: a view of the draft, of the draft after the change, or the report of the submission.
`answers_reply` is the result: a presentable draft is answered for like that.

Data that are sent back after a submission lack the private fields, those whose ids begin with
`_sa`.  Nothing else gets lost, because all values that checks let through are simple
(`Draft.isSimple_data`).
-/

namespace FormEngine

open Service (Printable)

/-! ## Submitted data -/

/-- Values of the kinds that checks let through.  They hold no mappings and no infinities. -/
inductive Value.IsSimple : Value → Prop
  | null : IsSimple .null
  | bool (b : Bool) : IsSimple (.bool b)
  | number {x : Number} {q : Rat} (h : x.exact? = some q) : IsSimple x.value
  | text {v : Value} (h : v.points?.isSome) : IsSimple v
  | texts {items : List Value} (h : ∀ item ∈ items, item.points?.isSome) : IsSimple (.list items)

lemma Value.eq_text_of_points? {v : Value} (h : v.points?.isSome) : ∃ t, v = .text t := by
  cases v with
  | text t => exact ⟨t, rfl⟩
  | _ => cases h

lemma Value.printable_of_points? {v : Value} (h : v.points?.isSome) : Printable v := by
  obtain ⟨t, rfl⟩ := eq_text_of_points? h
  rfl

lemma Value.echoed_of_points? {v : Value} (h : v.points?.isSome) : Service.echoed v = v := by
  obtain ⟨t, rfl⟩ := eq_text_of_points? h
  rfl

namespace Value.IsSimple

variable {v : Value}

lemma printable (h : v.IsSimple) : Printable v := by
  cases h with
  | null => exact .null
  | bool b => exact .bool b
  | @number x q h =>
      cases x with
      | int i => exact .int i
      | float x =>
          cases x with
          | finite negative m e => rfl
          | infinite negative => cases h
          | nan => cases h
  | text h => exact printable_of_points? h
  | texts h => exact .list fun item hitem => printable_of_points? (h item hitem)

/-- Nothing of a simple value is left out when it is sent back. -/
lemma echoed (h : v.IsSimple) : Service.echoed v = v := by
  cases h with
  | null => rfl
  | bool b => rfl
  | @number x q h => cases x <;> rfl
  | text h => exact echoed_of_points? h
  | @texts items h =>
      refine congrArg Value.list ?_
      induction items with
      | nil => rfl
      | cons item items ih =>
          obtain ⟨hitem, hitems⟩ := List.forall_mem_cons.1 h
          rw [Service.echoedItems, echoed_of_points? hitem, ih hitems]

end Value.IsSimple

namespace Rules

variable {rules : Rules} {v : Value}

lemma isSimple_of_ofText (h : ∀ d ∈ rules.ofText v, d.violated = .ok false) : v.IsSimple := by
  have htext := Except.ok.inj (h _ List.mem_cons_self)
  refine .text ?_
  rwa [decide_eq_false_iff_not, ← ne_eq, ← Option.isSome_iff_ne_none] at htext

lemma isSimple_of_ofBox (h : ∀ d ∈ rules.ofBox v, d.violated = .ok false) : v.IsSimple := by
  cases v with
  | null => exact .null
  | bool b => exact .bool b
  | _ => cases h _ (List.mem_singleton_self _)

lemma isSimple_of_ofSelection (h : ∀ d ∈ rules.ofSelection v, d.violated = .ok false)
    (hv : v ≠ .null) : (Value.list (v.items?.getD [])).IsSimple := by
  have hsome : v.items?.any (fun items => items.all (·.points?.isSome)) = true := by
    have hfirst : ∃ ds, rules.ofSelection v =
        .plain (¬ v.items?.any fun items => items.all (·.points?.isSome))
          "Expected a list of strings" :: ds := by
      cases v with
      | null => exact absurd rfl hv
      | _ => exact ⟨_, rfl⟩
    obtain ⟨ds, hds⟩ := hfirst
    have := Except.ok.inj (h _ (hds ▸ List.mem_cons_self))
    simpa using this
  obtain ⟨items, hitems, hall⟩ := (Option.any_eq_true _ _).1 hsome
  rw [hitems]
  exact .texts (List.all_eq_true.1 hall)

end Rules

namespace Field

variable {today : Date} {f : Field} {v w : Value}

/-- What becomes of a value that meets all demands is simple. -/
lemma isSimple_converted (h : ∀ d ∈ f.demands today v, d.violated = .ok false) :
    (f.converted v).IsSimple := by
  unfold demands at h
  unfold converted
  cases hwidget : f.widget with
  | number =>
      simp only
      split
      · exact .null
      · rcases enteredNumber_enters v with hnone | ⟨fault, hnone⟩ | ⟨x, q, hx, hq⟩
        · rw [hnone]
          exact .null
        · rw [hnone]
          exact .null
        · rw [hx]
          exact .number hq
  | checkbox | switch =>
      simp only [hwidget] at h
      exact Rules.isSimple_of_ofBox h
  | multiselect =>
      simp only [hwidget] at h
      simp only
      split
      · exact .null
      · exact Rules.isSimple_of_ofSelection h ‹_›
  | _ =>
      simp only [hwidget] at h
      split at h
      next hnothing =>
        cases v with
        | null => exact .null
        | text s => exact .text rfl
        | _ => cases hnothing
      next => exact Rules.isSimple_of_ofText fun d hd => h d (List.mem_append_left _ hd)

end Field

/-- What a report on a draft of a form hands over is simple. -/
lemma Draft.isSimple_data {d : Draft} (hlist : d.checklist = d.form.checklist) {today : Date}
    {r : Report} (hr : (d.judge today).result = .ok r) : r.data.Holds Value.IsSimple := by
  intro key w hw
  rw [Draft.judge, hlist] at hr
  obtain ⟨f, -, hrun⟩ := Form.run_of_data hr hw
  rw [f.check_run, Demand.letThrough_eq_ok_iff] at hrun
  obtain ⟨rfl, hmet⟩ := hrun
  exact Field.isSimple_converted hmet

namespace Service

/-- Whether a field is left out when submitted data are sent back. -/
def isPrivate (key : Text) : Bool := ['_', 's', 'a'].isPrefixOf key.glyphs

/-- The submitted data as they are sent back. -/
def told (r : Report) : Mapping Value := r.data.filter fun key _ => !isPrivate key

lemma echoedMembers_texts {es : List (Text × Value)} (h : ∀ e ∈ es, e.2.IsSimple) :
    echoedMembers (es.map fun e => (.text e.1, e.2)) =
      (es.filter fun e => !isPrivate e.1).map fun e => (.text e.1, e.2) := by
  induction es with
  | nil => rfl
  | cons e es ih =>
      obtain ⟨he, hes⟩ := List.forall_mem_cons.1 h
      rw [List.map_cons, echoedMembers, ih hes, he.echoed, List.filter_cons]
      show (if isPrivate e.1 = true then _ else _) = _
      cases isPrivate e.1 <;> rfl

/-- All that is left out of simple data are private fields. -/
lemma echoed_data {r : Report} (h : r.data.Holds Value.IsSimple) :
    echoed (.ofMapping r.data) = .ofMapping (told r) :=
  congrArg Value.map (echoedMembers_texts fun _ he => h.of_mem he)

/-! ## Answers -/

/-- What a request can change about a draft. -/
inductive Change where
  | write (values : Mapping Value)
  | touch (field : Text)

/-- The operation by which a change is carried out. -/
def Change.operation : Change → Draft.Operation
  | .write values => .writeAll (values.entries.map fun e => (.text e.1, e.2))
  | .touch field => .touch (.text field)

/-- Carries out a change. -/
def Change.step (today : Date) (d : Draft) : Change → Draft.Step Unit
  | .write values => d.writeAll today (values.entries.map fun e => (.text e.1, e.2))
  | .touch field => d.touch (.text field)

/-- What a request can ask about the draft of a session. -/
inductive Inquiry where
  | look
  | change (c : Change)
  | submit

/-- The operation that an inquiry carries out on the draft, if any. -/
def Inquiry.operation? : Inquiry → Option Draft.Operation
  | .look => none
  | .change c => some c.operation
  | .submit => some (.submit (some fun _ => .ok ()))

/-- The reply to an inquiry, and the draft after it. -/
def Inquiry.reply (today : Date) (id : Text) (d : Draft) : Inquiry → Except Crash Response × Draft
  | .look => (draftResponse id d, d)
  | .change c => (stepResponse id (c.step today d), (c.step today d).draft)
  | .submit =>
    let step := d.submit today (some fun _ => .ok ())
    (match step.outcome.result with
      | .ok r => .ok (submissionResponse r)
      | .error fault => .error (.operation fault), step.draft)

/-- An inquiry that writes printable values, if any. -/
def Inquiry.IsFinite (q : Inquiry) : Prop := ∀ values, q = .change (.write values) →
  values.Holds Printable

/-- What a draft has to answer to an inquiry: a view of itself, of itself after the change, or the
report of the submission; and if a fault comes up, the fault. -/
inductive Answers (today : Date) (id : Text) (d : Draft) : Inquiry → Outcome → Prop
  | looked {view : DraftView FieldCard} (painted : d.paint paintCard = .ok view) :
      Answers today id d .look (delivered (shown id d view))
  | changed {c : Change} {view : DraftView FieldCard} (done : (c.step today d).succeeds = true)
      (painted : (c.step today d).draft.paint paintCard = .ok view) :
      Answers today id d (.change c) (delivered (shown id (c.step today d).draft view))
  | unknown {c : Change} {key : Value}
      (failed : (c.step today d).outcome.result = .error (.unknownField key)) :
      Answers today id d (.change c)
        (delivered (refusalText 400 (Fault.unknownField key).message))
  | unchanged {c : Change} {fault : Fault}
      (failed : (c.step today d).outcome.result = .error fault)
      (known : ∀ key, fault ≠ .unknownField key) :
      Answers today id d (.change c) (.crash (.operation fault))
  | accepted {r : Report} (judged : (d.judge today).result = .ok r) (clean : r.isClean = true) :
      Answers today id d .submit (delivered
        ⟨200, document [("submitted", .bool true), ("data", .ofMapping (told r))]⟩)
  | refused {r : Report} (judged : (d.judge today).result = .ok r) (faulty : r.isClean = false) :
      Answers today id d .submit (delivered
        ⟨422, document [("submitted", .bool false), ("errors", dumpErrors r.errors)]⟩)
  | unjudged {fault : Fault} (failed : (d.judge today).result = .error fault) :
      Answers today id d .submit (.crash (.operation fault))

variable {today : Date} {id : Text} {d : Draft}

lemma Change.perform_operation (c : Change) :
    d.perform today c.operation = (c.step today d).map fun _ => none := by
  cases c <;> rfl

/-- A change is carried out, or it fails and changes nothing. -/
lemma Change.step_cases (c : Change) :
    (c.step today d).succeeds = true ∨ (c.step today d).Fails d := by
  have hcases (next : Traced Draft) :
      (d.stepTo next).succeeds = true ∨ (d.stepTo next).Fails d := by
    rcases d.stepTo_cases next with hfails | ⟨-, -, hok, -⟩
    · exact .inr hfails
    · refine .inl ?_
      rw [Draft.Step.succeeds, hok]
      rfl
  cases c with
  | write values => exact hcases _
  | touch field => exact hcases _

/-- The draft after an inquiry is the one after its operation. -/
lemma Inquiry.reply_draft (q : Inquiry) :
    (q.reply today id d).2 =
      match q.operation? with
      | none => d
      | some op => (d.perform today op).draft := by
  cases q with
  | look => rfl
  | change c =>
      simp only [operation?, Change.perform_operation]
      rfl
  | submit => rfl

lemma Inquiry.presentable_reply (h : d.Presentable) {q : Inquiry} (hq : q.IsFinite) :
    (q.reply today id d).2.Presentable := by
  rw [reply_draft]
  cases q with
  | look => exact h
  | change c =>
      refine h.perform fun e he => ?_
      cases c with
      | write values =>
          rw [Change.operation, Draft.Operation.entries, Draft.named_texts] at he
          exact (hq values rfl).of_mem he
      | touch field => exact absurd he List.not_mem_nil
  | submit => exact h.perform fun e he => absurd he List.not_mem_nil

/-- The response to a step about a presentable draft. -/
lemma answers_change (c : Change) (h : (c.step today d).draft.Presentable) :
    Answers today id d (.change c) (send (stepResponse id (c.step today d))) := by
  unfold stepResponse
  split
  next hok =>
    obtain ⟨view, hview, hsend⟩ := send_draftResponse id h
    rw [hsend]
    exact .changed (by rw [Draft.Step.succeeds, hok]; rfl) hview
  next key hfailed =>
    rw [send_eq_delivered (printable_refusalText 400 _)]
    exact .unknown hfailed
  next fault hknown hfailed => exact .unchanged hfailed hknown

/-- The response to the submission of a draft with the checklist of its form. -/
lemma answers_submit (hlist : d.checklist = d.form.checklist) :
    Answers today id d .submit (send (Inquiry.submit.reply today id d).1) := by
  cases hjudge : (d.judge today).result with
  | error fault =>
      have hresult := (Draft.submit_unjudged hjudge (some fun _ => .ok ())).2.1
      simp only [Inquiry.reply, hresult]
      exact .unjudged hjudge
  | ok r =>
      have hsimple := Draft.isSimple_data hlist hjudge
      cases hclean : r.isClean with
      | true =>
          have hresult : (d.submit today (some fun _ => .ok ())).outcome.result = .ok r :=
            (Draft.submit_accepted hjudge hclean _).2.1
          simp only [Inquiry.reply, hresult, submissionResponse, hclean, if_true,
            echoed_data hsimple]
          rw [send_eq_delivered]
          · exact .accepted hjudge hclean
          · refine .document ?_
            simp only [List.forall_mem_cons]
            refine ⟨.bool _, .ofMapping fun key v hv => ?_, fun _ h => absurd h List.not_mem_nil⟩
            rw [told, Mapping.get?_filter, Option.filter_eq_some_iff] at hv
            exact (hsimple key v hv.1).printable
      | false =>
          have hresult : (d.submit today (some fun _ => .ok ())).outcome.result = .ok r :=
            (Draft.submit_refused hjudge hclean _).2.1
          simp only [Inquiry.reply, hresult, submissionResponse, hclean, Bool.false_eq_true,
            if_false]
          rw [send_eq_delivered]
          · exact .refused hjudge hclean
          · refine .document ?_
            simp only [List.forall_mem_cons]
            exact ⟨.bool _, eachPart_dumpErrors (fun _ => rfl) _,
              fun _ h => absurd h List.not_mem_nil⟩

/-- A presentable draft is answered for. -/
theorem answers_reply {q : Inquiry} (h : d.Presentable) (hq : q.IsFinite) :
    Answers today id d q (send (q.reply today id d).1) := by
  have hafter : (q.reply today id d).2.Presentable := Inquiry.presentable_reply h hq
  cases q with
  | look =>
      obtain ⟨view, hview, hsend⟩ := send_draftResponse id h
      rw [Inquiry.reply, hsend]
      exact .looked hview
  | change c => exact answers_change c hafter
  | submit => exact answers_submit h.checklist

end Service

end FormEngine
