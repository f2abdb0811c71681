import FormEngine.Proofs.Draft.Robustness
import FormEngine.Proofs.Service.Replay

/-!
# Refused requests spare the sessions

A request is refused at one of several points: its path leads nowhere, its body is not accepted, the
session that it names is not there, a key is that of no field, or a submission has errors.  Up to
the third point nothing has been looked at but the request, which then is for nothing
(`Purpose.nothing`).  After it the session has been accessed, and what is left of its draft is told
by `reply_of_refused`: all of it, or all but what a failed submission remembers.

`Spared` collects what this means for all sessions of a store, expired ones included, and
`spared_after_run` states it for every state that requests can bring a service to.  One clause needs
more than a single step: a failed submission stores the errors that it has found, and these are the
ones already stored if the values last from the days of the earlier requests.  For that, every
session is followed back to the operations on its draft (`Seated`).
-/

namespace FormEngine

open Service

variable {τ : Type}

/-! ## Sessions as runs of operations -/

/-- The draft of every session, also of an expired one, is what operations have made of a form that
has been read, and its errors have been derived on one of some days. -/
def Store.Seated (days : Date → Prop) (st : Store τ) : Prop :=
  ∀ id session, st.sessions.get? id = some session →
    ∃ form day, days day ∧ Draft.Sitting.Reached form none ⟨session.draft, day⟩

/-- A form that a request mounts has been read. -/
lemma Service.Arrival.read_of_mount {a : Arrival τ} {form : Form} {id : Text}
    (h : a.purpose = .mount form id) : ∃ doc host, Form.read doc host = .accepted form := by
  obtain ⟨-, asked, hread, -⟩ := Arrival.purpose_eq_mount h
  obtain ⟨-, request, -, -, hform, -⟩ := readForm_eq_ok.1 hread
  exact ⟨request.document, _, Form.read_of_ofDocument hform⟩

/-- An inquiry carries a draft on, and leaves errors of the same day or of its own. -/
lemma Service.Inquiry.reached_reply {form : Form} {day : Date} {d : Draft}
    (h : Draft.Sitting.Reached form none ⟨d, day⟩) (q : Inquiry) (today : Date) (id : Text) :
    ∃ day', (day' = day ∨ day' = today) ∧
      Draft.Sitting.Reached form none ⟨(q.reply today id d).2, day'⟩ := by
  rw [Inquiry.reply_draft]
  cases q.operation? with
  | none => exact ⟨day, .inl rfl, h⟩
  | some op => exact ⟨_, Draft.Sitting.day_next ⟨d, day⟩ ⟨today, op⟩, h.next ⟨today, op⟩⟩

namespace Store.Seated

variable [Clock τ] {days : Date → Prop} {st st' : Store τ} {a : Arrival τ}

omit [Clock τ] in
lemma empty (timeout : Number) : Seated days ({ timeout } : Store τ) := by
  intro id session h
  cases h

omit [Clock τ] in
lemma of_stored (h : Seated days st)
    (stored : ∀ id session, st'.sessions.get? id = some session →
      st.sessions.get? id = some session) : Seated days st' :=
  fun id session hsession => h id session (stored id session hsession)

lemma dropExpired (h : Seated days st) (now : τ) : Seated days (st.dropExpired now).2 := by
  refine h.of_stored fun id session hsession => ?_
  rw [Store.get?_dropExpired, Store.live?_eq_some_iff] at hsession
  exact hsession.1

lemma mount (h : Seated days st) (hday : days a.today) {form : Form} {id : Text}
    (hread : ∃ doc host, Form.read doc host = .accepted form) :
    Seated days (st.mount a.today a.now id form form.compile).2 := by
  cases hresult : (st.mount a.today a.now id form form.compile).1.result with
  | error fault =>
      rw [mount_of_error hresult]
      exact h.dropExpired a.now
  | ok session =>
      rw [mount_of_ok hresult]
      intro key other hother
      have hother : ((st.dropExpired a.now).2.sessions.set id session).get? key = some other :=
        hother
      rw [Mapping.get?_set] at hother
      split at hother
      next =>
        obtain rfl := Option.some.inj hother
        rw [mount_result, launch_result] at hresult
        cases hmount : (Draft.mount a.today form none).result with
        | error fault =>
            rw [hmount] at hresult
            cases hresult
        | ok draft =>
            rw [hmount] at hresult
            obtain rfl := Except.ok.inj hresult
            obtain ⟨doc, host, hread⟩ := hread
            exact ⟨form, a.today, hday, .mounted hread hmount⟩
      next => exact h.dropExpired a.now key other hother

lemma inquire (h : Seated days st) (hday : days a.today) (id : Text) (q : Inquiry) :
    Seated days (st.inquire a.today a.now id q) := by
  intro key session hsession
  by_cases hkey : key = id
  · subst hkey
    rw [get?_inquire_self, Option.map_eq_some_iff] at hsession
    obtain ⟨found, hfound, rfl⟩ := hsession
    obtain ⟨form, day, hdays, reached⟩ := h key found (live?_eq_some_iff.1 hfound).1
    obtain ⟨day', hday', reached'⟩ := q.reached_reply reached a.today key
    refine ⟨form, day', ?_, reached'⟩
    rcases hday' with rfl | rfl
    · exact hdays
    · exact hday
  · rw [get?_inquire_of_ne hkey] at hsession
    exact h key session hsession

/-- Every request keeps the sessions seated. -/
lemma serve (h : Seated days st) (hday : days a.today) : Seated days (st.serve a) := by
  unfold Store.serve
  cases hpurpose : a.purpose with
  | mount form id => exact h.mount hday (Arrival.read_of_mount hpurpose)
  | inquire id q => exact h.inquire hday id q
  | remove id =>
      refine h.of_stored fun key session hsession => ?_
      have hget : (st.remove id).2.sessions.get? key =
          if key = id then none else st.sessions.get? key := Mapping.get?_erase ..
      rw [hget] at hsession
      split at hsession
      · cases hsession
      · exact hsession
  | nothing => exact h

/-- The days on which errors have been derived are those of the run. -/
lemma serveAll (h : Seated days st) {run : List (Arrival τ)} (hdays : ∀ b ∈ run, days b.today) :
    Seated days (st.serveAll run) := by
  induction run generalizing st with
  | nil => exact h
  | cons b run ih =>
      obtain ⟨hb, hrun⟩ := List.forall_mem_cons.1 hdays
      rw [Store.serveAll, List.foldl_cons]
      exact ih (h.serve hb) hrun

omit [Clock τ] in
/-- A failed submission stores the errors that are stored already, if the values last. -/
lemma errors_eq (h : Seated days st) {today : Date} {id : Text} {session : Session τ}
    (hget : st.sessions.get? id = some session)
    (lasts : ∀ day, days day → session.draft.form.Lasts day today session.draft.values)
    {report : Report} (judged : (session.draft.judge today).result = .ok report) :
    report.errors = session.draft.errors := by
  obtain ⟨form, day, hday, reached⟩ := h id session hget
  obtain ⟨_, _, hread⟩ := reached.read
  have lastsSince := lasts day hday
  rw [reached.coherent.form_eq] at lastsSince
  obtain ⟨report', judged', herrors⟩ :=
    reached.coherent.judge_result (Form.namesFields_of_read hread) lastsSince
  obtain rfl : report = report' := Except.ok.inj (judged.symm.trans judged')
  exact herrors.symm

end Store.Seated

/-- Who asks for a session that is not live at most has it removed, if it has expired. -/
lemma Store.access_of_not_live [Clock τ] {st : Store τ} {now : τ} {id : Text}
    (h : st.live? now id = none) :
    (st.access now id).2 = st ∨ ∃ session, st.sessions.get? id = some session ∧
      session.hasExpired now st.timeout = true ∧ (st.access now id).2 = (st.remove id).2 := by
  rw [Store.live?] at h
  cases hget : st.sessions.get? id with
  | none =>
      refine .inl ?_
      rw [Store.access, hget]
  | some session =>
      have hexpired : session.hasExpired now st.timeout = true := by
        simpa [hget, Option.filter] using h
      refine .inr ⟨session, rfl, hexpired, ?_⟩
      rw [Store.access, hget]
      simp only [hexpired, if_true]
      rfl

/-! ## What is refused -/

namespace Service

variable {today : Date} {id : Text} {d : Draft} {r : Response}

/-- Whether a response refuses a request: something about the request is not accepted, or it names
something that is not there. -/
def Response.Refuses (r : Response) : Prop := r.status ∈ [400, 404, 422]

instance (r : Response) : Decidable r.Refuses := inferInstanceAs (Decidable (r.status ∈ _))

lemma Response.not_refuses_of_200 (h : r.status = 200) : ¬ r.Refuses := by
  rw [Refuses, h]
  decide

/-- A change that ends with a fault changes nothing. -/
lemma fails_of_error {c : Change} {fault : Fault}
    (h : (c.step today d).outcome.result = .error fault) : (c.step today d).Fails d := by
  have hcases : (c.step today d).succeeds = true ∨ (c.step today d).Fails d := c.step_cases
  refine hcases.resolve_left fun hdone => ?_
  rw [Draft.Step.succeeds, h] at hdone
  cases hdone

/-- A step is refused because of a key that is that of no field. -/
lemma unknown_of_stepResponse {step : Draft.Step Unit} (h : stepResponse id step = .ok r)
    (hr : r.Refuses) :
    r.status = 400 ∧ ∃ key, step.outcome.result = .error (.unknownField key) := by
  unfold stepResponse at h
  split at h
  next => exact absurd hr (Response.not_refuses_of_200 (status_of_draftResponse h))
  next key hfailed =>
    obtain rfl := Except.ok.inj h
    exact ⟨rfl, key, hfailed⟩
  next => cases h

/-- What is left of a draft by an inquiry that is refused: all of it, or all but what a failed
submission remembers, which are the errors that it has found. -/
inductive LeftBy (today : Date) (d : Draft) : Inquiry → Nat → Draft → Prop
  | unknown (c : Change) : LeftBy today d (.change c) 400 d
  | refused {report : Report} (judged : (d.judge today).result = .ok report) :
      LeftBy today d .submit 422 { d with errors := report.errors, attempted := true }

/-- An inquiry is refused because of a key that is that of no field, or because of errors. -/
theorem reply_of_refused {q : Inquiry} (h : (q.reply today id d).1 = .ok r) (hr : r.Refuses) :
    LeftBy today d q r.status (q.reply today id d).2 := by
  cases q with
  | look => exact absurd hr (Response.not_refuses_of_200 (status_of_draftResponse h))
  | change c =>
      obtain ⟨hstatus, key, hfailed⟩ := unknown_of_stepResponse h hr
      have hleft : (c.step today d).draft = d := (fails_of_error hfailed).2
      rw [hstatus, Inquiry.reply, hleft]
      exact .unknown c
  | submit =>
      cases hjudge : (d.judge today).result with
      | error fault =>
          have hresult := (Draft.submit_unjudged hjudge (some fun _ => .ok ())).2.1
          simp only [Inquiry.reply, hresult] at h
          cases h
      | ok report =>
          cases hclean : report.isClean with
          | true =>
              have hresult : (d.submit today (some fun _ => .ok ())).outcome.result = .ok report :=
                (Draft.submit_accepted hjudge hclean _).2.1
              simp only [Inquiry.reply, hresult, submissionResponse, hclean, if_true] at h
              obtain rfl := Except.ok.inj h
              exact absurd hr (Response.not_refuses_of_200 rfl)
          | false =>
              obtain ⟨hdraft, hresult, -⟩ :=
                Draft.submit_refused hjudge hclean (some fun _ => .ok ())
              simp only [Inquiry.reply, hresult, submissionResponse, hclean, Bool.false_eq_true,
                if_false] at h
              obtain rfl := Except.ok.inj h
              rw [Inquiry.reply, hdraft]
              exact .refused hjudge

variable [Clock τ] {a : Arrival τ} {st : Store τ} {s : Service τ}

lemma answer_remove (hstore : s.store = some st) (hpurpose : a.purpose = .remove id)
    (h : s.answer a = .response r) : r.status = 200 := by
  obtain ⟨hreset, hread⟩ := Arrival.purpose_eq_remove hpurpose
  rw [answer, handle_of_some hreset] at h
  simp only [handleAt, hread, endSession, hstore] at h
  obtain rfl := Except.ok.inj (eq_of_send h)
  rfl

/-- What a request that is refused was for: nothing, or an inquiry about a session that is not there
or that answers with a refusal. -/
lemma Running.purpose_of_refused (h : Running st s) (hanswer : s.answer a = .response r)
    (hr : r.Refuses) :
    a.purpose = .nothing ∨
      ∃ id q, a.purpose = .inquire id q ∧
        ((r.status = 404 ∧ st.live? a.now id = none) ∨
          ∃ session, st.live? a.now id = some session ∧
            LeftBy a.today session.draft q r.status (q.reply a.today id session.draft).2) := by
  cases hpurpose : a.purpose with
  | mount form id =>
      rw [h.answer_mount hpurpose] at hanswer
      split at hanswer
      next => cases hanswer
      next draft _ =>
        have hstatus := status_of_draftResponse (eq_of_send hanswer)
        exact absurd hr (Response.not_refuses_of_200 hstatus)
  | remove id =>
      have hstatus := answer_remove h.store_eq hpurpose hanswer
      exact absurd hr (Response.not_refuses_of_200 hstatus)
  | nothing => exact .inl rfl
  | inquire id q =>
      refine .inr ⟨id, q, rfl, ?_⟩
      rw [h.answer_inquire hpurpose] at hanswer
      cases hlive : st.live? a.now id with
      | none =>
          rw [hlive] at hanswer
          obtain rfl := Outcome.response.inj hanswer
          exact .inl ⟨rfl, rfl⟩
      | some session =>
          rw [hlive] at hanswer
          exact .inr ⟨session, rfl, reply_of_refused (eq_of_send hanswer) hr⟩

/-! ## What a refused request leaves -/

/-- What stays of a session: it is the same session, and its draft has the same values, touched
fields, verdicts on visibility and accepted submissions. -/
structure Kept (before after : Session τ) : Prop where
  serial : after.serial = before.serial
  created : after.created = before.created
  form : after.draft.form = before.draft.form
  values : after.draft.values = before.draft.values
  touched : after.draft.touched = before.draft.touched
  visibility : after.draft.visibility = before.draft.visibility
  submissions : after.draft.submissions = before.draft.submissions

/-- What a request that has been refused with a status leaves of a store that a run has come to. -/
structure Spared (run : List (Arrival τ)) (a : Arrival τ) (status : Nat) (st st' : Store τ) :
    Prop where
  /-- No session is new, and all that are left are kept, whether they have expired or not. -/
  kept : ∀ id after, st'.sessions.get? id = some after →
    ∃ before, st.sessions.get? id = some before ∧ Kept before after
  /-- No live session is removed. -/
  live : ∀ id session, st.live? a.now id = some session → id ∈ st'.ids
  /-- Nothing at all happens to the sessions that the request is not about. -/
  others : ∀ id, a.purpose.isAbout id = false → st'.sessions.get? id = st.sessions.get? id
  /-- Nothing happens to the draft of any session, unless it is that of a failed submission. -/
  draft : ∀ id before after, st.sessions.get? id = some before →
    st'.sessions.get? id = some after →
      ¬ (a.request.inquiry? = some (id, .ok .submit) ∧ status = 422) → after.draft = before.draft
  /-- A failed submission is remembered, in its own session.  Its errors are those stored before,
  provided that the values last from the days of the earlier requests. -/
  submitted : ∀ id, a.request.inquiry? = some (id, .ok .submit) → status = 422 →
    ∃ before after, st.live? a.now id = some before ∧ st'.sessions.get? id = some after ∧
      after.draft.attempted = true ∧
      ((∀ b ∈ run, before.draft.form.Lasts b.today a.today before.draft.values) →
        after.draft = { before.draft with attempted := true })
  /-- A form that is not mounted removes nothing, not even what has expired. -/
  mount : a.request.endpoint? = some .forms → st' = st
  /-- Where something is not there, at most the expired session that was asked for is removed. -/
  missing : status = 404 → st' = st ∨
    ∃ id session, a.purpose.isAbout id = true ∧ st.sessions.get? id = some session ∧
      session.hasExpired a.now st.timeout = true ∧ st' = (st.remove id).2

variable {run : List (Arrival τ)} {status : Nat} {q : Inquiry}

omit [Clock τ] in
lemma Kept.refl (session : Session τ) : Kept session session := ⟨rfl, rfl, rfl, rfl, rfl, rfl, rfl⟩

/-- A request for nothing spares everything. -/
lemma Spared.of_nothing (h : a.purpose = .nothing) : Spared run a status st st where
  kept _ after hafter := ⟨after, hafter, Kept.refl after⟩
  live id session hlive :=
    Mapping.mem_keys_of_get? (Store.live?_eq_some_iff.1 hlive).1
  others _ _ := rfl
  draft id before after hbefore hafter _ := by
    rw [hbefore] at hafter
    rw [Option.some.inj hafter]
  submitted id hsubmit _ := by
    rw [Arrival.purpose_eq_inquire.2 hsubmit] at h
    cases h
  mount _ := rfl
  missing _ := .inl rfl

omit [Clock τ] in
/-- A request that inquires about a session mounts no form. -/
lemma Arrival.not_forms_of_inquire (h : a.purpose = .inquire id q) :
    a.request.endpoint? ≠ some .forms := by
  intro hforms
  rw [Arrival.purpose_eq_inquire, Request.inquiry?, hforms] at h
  cases h

omit [Clock τ] in
lemma LeftBy.kept {session : Session τ} {d' : Draft} (h : LeftBy today session.draft q status d')
    (now : τ) : Kept session { session.touch now with draft := d' } := by
  cases h <;> exact ⟨rfl, rfl, rfl, rfl, rfl, rfl, rfl⟩

/-- An inquiry spares all sessions if it spares the one that it is about. -/
lemma Spared.of_inquiry (hpurpose : a.purpose = .inquire id q)
    (kept : ∀ after, (st.inquire a.today a.now id q).sessions.get? id = some after →
      ∃ before, st.sessions.get? id = some before ∧ Kept before after ∧
        (¬ (q = .submit ∧ status = 422) → after.draft = before.draft))
    (live : ∀ session, st.live? a.now id = some session →
      id ∈ (st.inquire a.today a.now id q).ids)
    (submitted : q = .submit → status = 422 →
      ∃ before after, st.live? a.now id = some before ∧
        (st.inquire a.today a.now id q).sessions.get? id = some after ∧
        after.draft.attempted = true ∧
        ((∀ b ∈ run, before.draft.form.Lasts b.today a.today before.draft.values) →
          after.draft = { before.draft with attempted := true }))
    (missing : status = 404 → st.inquire a.today a.now id q = st ∨
      ∃ session, st.sessions.get? id = some session ∧
        session.hasExpired a.now st.timeout = true ∧
        st.inquire a.today a.now id q = (st.remove id).2) :
    Spared run a status st (st.inquire a.today a.now id q) := by
  have hothers : ∀ other, other ≠ id →
      (st.inquire a.today a.now id q).sessions.get? other = st.sessions.get? other :=
    fun _ hne => Store.get?_inquire_of_ne hne
  have habout : a.purpose.isAbout id = true := by
    rw [hpurpose]
    exact decide_eq_true rfl
  constructor
  case kept =>
    intro other after hafter
    by_cases hid : other = id
    · subst hid
      obtain ⟨before, hbefore, hkept, -⟩ := kept after hafter
      exact ⟨before, hbefore, hkept⟩
    · rw [hothers other hid] at hafter
      exact ⟨after, hafter, Kept.refl after⟩
  case live =>
    intro other session hlive
    by_cases hid : other = id
    · subst hid
      exact live session hlive
    · have hget := (Store.live?_eq_some_iff.1 hlive).1
      rw [← hothers other hid] at hget
      exact Mapping.mem_keys_of_get? hget
  case others =>
    intro other hother
    refine hothers other ?_
    rintro rfl
    rw [habout] at hother
    cases hother
  case draft =>
    intro other before after hbefore hafter hnot
    by_cases hid : other = id
    · subst hid
      obtain ⟨before', hbefore', -, hdraft⟩ := kept after hafter
      obtain rfl : before = before' := Option.some.inj (hbefore.symm.trans hbefore')
      refine hdraft ?_
      rintro ⟨rfl, hstatus⟩
      exact hnot ⟨Arrival.purpose_eq_inquire.1 hpurpose, hstatus⟩
    · rw [hothers other hid, hbefore] at hafter
      rw [Option.some.inj hafter]
  case submitted =>
    intro other hsubmit hstatus
    have hsame := hpurpose.symm.trans (Arrival.purpose_eq_inquire.2 hsubmit)
    obtain ⟨rfl, hq⟩ := Purpose.inquire.inj hsame
    exact submitted hq hstatus
  case mount =>
    intro hforms
    exact absurd hforms (Arrival.not_forms_of_inquire hpurpose)
  case missing =>
    intro hstatus
    rcases missing hstatus with hsame | ⟨session, hget, hexpired, hremoved⟩
    · exact .inl hsame
    · exact .inr ⟨id, session, habout, hget, hexpired, hremoved⟩

/-- An inquiry about a session that is not there spares all that are. -/
lemma Spared.of_missing (hpurpose : a.purpose = .inquire id q) (gone : st.live? a.now id = none) :
    Spared run a 404 st (st.inquire a.today a.now id q) := by
  have hself : (st.inquire a.today a.now id q).sessions.get? id = none := by
    rw [Store.get?_inquire_self, gone]
    rfl
  have hinquire : st.inquire a.today a.now id q = (st.access a.now id).2 := by
    rw [Store.inquire, gone]
  apply Spared.of_inquiry hpurpose
  · intro after hafter
    rw [hself] at hafter
    cases hafter
  · intro session hlive
    rw [gone] at hlive
    cases hlive
  · intro _ hstatus
    cases hstatus
  · intro _
    rw [hinquire]
    exact Store.access_of_not_live gone

/-- An inquiry that is replied to with a refusal spares the session that it is about. -/
lemma Spared.of_left (seated : st.Seated fun day => ∃ b ∈ run, b.today = day)
    (hpurpose : a.purpose = .inquire id q) {session : Session τ}
    (found : st.live? a.now id = some session) {d' : Draft}
    (hreply : (q.reply a.today id session.draft).2 = d')
    (left : LeftBy a.today session.draft q status d') :
    Spared run a status st (st.inquire a.today a.now id q) := by
  have hget : st.sessions.get? id = some session := (Store.live?_eq_some_iff.1 found).1
  have hself : (st.inquire a.today a.now id q).sessions.get? id = some
      { session.touch a.now with draft := d' } := by
    rw [Store.get?_inquire_self, found, ← hreply]
    rfl
  apply Spared.of_inquiry hpurpose
  · intro after hafter
    rw [hself] at hafter
    obtain rfl := Option.some.inj hafter
    refine ⟨session, hget, left.kept a.now, ?_⟩
    intro hnot
    cases left with
    | unknown c => rfl
    | refused judged => exact absurd ⟨rfl, rfl⟩ hnot
  · intro _ _
    exact Mapping.mem_keys_of_get? hself
  · rintro rfl hstatus
    cases left with
    | refused judged =>
        refine ⟨session, _, found, hself, rfl, ?_⟩
        intro lasts
        have hlasts : ∀ day, (∃ b ∈ run, b.today = day) →
            session.draft.form.Lasts day a.today session.draft.values := by
          rintro day ⟨b, hb, rfl⟩
          exact lasts b hb
        rw [seated.errors_eq hget hlasts judged]
  · rintro rfl
    cases left

/-! ## Unknown keys -/

/-- A write with a key that is that of no field, at whatever place, fails for the first such key. -/
lemma unknown_of_writeAll {values : Mapping Value} {key : Text}
    (h : values.keys.find? (fun id => !d.form.fields.contains id) = some key) :
    ((Change.write values).step today d).outcome.result =
      .error (.unknownField (.text key)) := by
  have hentries : ∀ es : List (Text × Value),
      (es.map (·.1)).find? (fun id => !d.form.fields.contains id) = some key →
        d.fieldEntries (es.map fun e => (.text e.1, e.2)) = .error (.unknownField (.text key)) := by
    intro es hfind
    induction es with
    | nil => cases hfind
    | cons e es ih =>
        rw [List.map_cons, List.find?_cons] at hfind
        rw [Draft.fieldEntries, List.map_cons, List.mapM_cons]
        cases hdeclared : d.form.fields.contains e.1 with
        | false =>
            rw [hdeclared] at hfind
            obtain rfl := Option.some.inj hfind
            have hkey : d.fieldKey (.text e.1) = .error (.unknownField (.text e.1)) := by
              simp [Draft.fieldKey, Value.unhashable?, hdeclared]
            rw [hkey]
            rfl
        | true =>
            rw [hdeclared] at hfind
            have hkey : d.fieldKey (.text e.1) = .ok e.1 := by
              simp [Draft.fieldKey, Value.unhashable?, hdeclared]
            have hrest := ih hfind
            rw [Draft.fieldEntries] at hrest
            rw [hkey, hrest]
            rfl
  rw [Change.step, Draft.writeAll, Draft.stepTo_eq_error, hentries values.entries h]
  rfl

omit [Clock τ] in
lemma Arrival.purpose_eq_write {id : String} {values : Mapping Value}
    (hendpoint : a.request.endpoint? = some (.values id))
    (hread : readValues a.request.body = .ok values) :
    a.purpose = .inquire id (.change (.write values)) := by
  rw [Arrival.purpose_eq_inquire, Request.inquiry?, hendpoint, hread]
  rfl

/-! ## Every state -/

/-- A service without a store stays without one. -/
lemma next_of_no_store (h : s.store = none) : s.next a = s := by
  cases hendpoint : a.request.endpoint? with
  | none => exact handle_of_none hendpoint
  | some endpoint =>
      rw [next, handle_of_some hendpoint]
      cases endpoint with
      | check =>
          simp only [handleAt, check]
          split <;> rfl
      | forms => simp only [handleAt, mount, h]
      | form key => simp only [handleAt, showDraft, withSession, h]
      | values key =>
          simp only [handleAt, changeDraft, withSession, h]
          split <;> rfl
      | touch key =>
          simp only [handleAt, changeDraft, withSession, h]
          split <;> rfl
      | submit key => simp only [handleAt, submitDraft, withSession, h]
      | reset =>
          simp only [handleAt, endSession, h]
          split <;> rfl
      | health => rfl

/-- Whatever requests have come in before, whenever and on whatever days, a request that is refused
spares all sessions; only a failed submission may store other errors than before, where a date has
not lasted.  In particular a request to write values, one of whose keys is that of no field
of the form, is refused for the first such key and writes nothing, even if the refusal is lost.
Without a store there are no sessions, and none come about. -/
theorem spared_after_run (timeout : Number) (run : List (Arrival τ)) (a : Arrival τ) :
    let s := (ofTimeout timeout : Service τ).after run
    (∃ st, s.store = some st ∧
      (∀ r, s.answer a = .response r → r.Refuses →
        ∃ st', (s.next a).store = some st' ∧ Spared run a r.status st st') ∧
      ∀ (id : String) values session key, a.request.endpoint? = some (.values id) →
        readValues a.request.body = .ok values → st.live? a.now id = some session →
        values.keys.find? (fun id => !session.draft.form.fields.contains id) = some key →
          s.answer a = delivered (refusalText 400 (Fault.unknownField (.text key)).message) ∧
            ∃ st' after, (s.next a).store = some st' ∧ st'.sessions.get? id = some after ∧
              after.draft = session.draft) ∧
    s.unconfigure.next a = s.unconfigure := by
  intro s
  have running : Running (({ timeout } : Store τ).serveAll run) s :=
    (running_ofTimeout timeout).after run
  have seated : (({ timeout } : Store τ).serveAll run).Seated
      fun day => ∃ b ∈ run, b.today = day :=
    (Store.Seated.empty timeout).serveAll fun b hb => ⟨b, hb, rfl⟩
  have hnext := (running.next a).store_eq
  refine ⟨⟨_, running.store_eq, ?_, ?_⟩, next_of_no_store rfl⟩
  · intro r hanswer hr
    refine ⟨_, hnext, ?_⟩
    unfold Store.serve
    rcases running.purpose_of_refused hanswer hr with
      hpurpose | ⟨id, q, hpurpose, ⟨hstatus, gone⟩ | ⟨session, found, left⟩⟩
    · rw [hpurpose]
      exact .of_nothing hpurpose
    · rw [hpurpose, hstatus]
      exact .of_missing hpurpose gone
    · rw [hpurpose]
      exact .of_left seated hpurpose found rfl left
  · intro id values session key hendpoint hread found hfind
    have hpurpose := Arrival.purpose_eq_write hendpoint hread
    have hunknown : ((Change.write values).step a.today session.draft).outcome.result =
        .error (.unknownField (.text key)) := unknown_of_writeAll hfind
    refine ⟨?_, _, { session.touch a.now with
      draft := (Inquiry.reply a.today id session.draft (.change (.write values))).2 }, hnext, ?_,
      (fails_of_error hunknown).2⟩
    · rw [running.answer_inquire hpurpose, found]
      simp only [Option.map_some, Inquiry.reply, stepResponse, hunknown]
      exact send_eq_delivered (printable_refusalText 400 _)
    · rw [Store.serve, hpurpose]
      exact (Store.get?_inquire_self).trans (by rw [found]; rfl)

/-- A write to a field of the form and to one that it does not have. -/
def strayVisit : Arrival Rat :=
  posted 1200 "/api/forms/s/values"
    "\x7b\"values\": \x7b\"city\": \"Oslo\", \"country\": \"Norway\"\x7d\x7d"

theorem spared_after_visits :
    ∃ r st st', ((ofTimeout (.int 1800) : Service Rat).after filledVisit).answer strayVisit =
        .response r ∧ r.status = 400 ∧
      ((ofTimeout (.int 1800) : Service Rat).after filledVisit).store = some st ∧
      (((ofTimeout (.int 1800) : Service Rat).after filledVisit).next strayVisit).store =
        some st' ∧
      Spared filledVisit strayVisit 400 st st' := by
  have hstatus : (match ((ofTimeout (.int 1800) : Service Rat).after filledVisit).answer
      strayVisit with
    | .response r => r.status
    | .crash _ => 0) = 400 := by decide +kernel
  obtain ⟨⟨st, hst, spared, -⟩, -⟩ := spared_after_run (.int 1800) filledVisit strayVisit
  cases hanswer : ((ofTimeout (.int 1800) : Service Rat).after filledVisit).answer strayVisit with
  | crash c =>
      rw [hanswer] at hstatus
      cases hstatus
  | response r =>
      rw [hanswer] at hstatus
      have hr : r.status = 400 := hstatus
      have hrefuses : r.Refuses := by
        rw [Response.Refuses, hr]
        decide
      obtain ⟨st', hst', hspared⟩ := spared r hanswer hrefuses
      rw [hr] at hspared
      exact ⟨r, st, st', rfl, hr, hst, hst', hspared⟩

end Service

end FormEngine
