import FormEngine.Proofs.Service.Inquiry
import FormEngine.Proofs.Store.Live

/-!
# What requests are for

As far as sessions go, a request does one of four things: it mounts a form, asks something about the
draft of a session, removes a session, or nothing at all.  `Arrival.purpose` says which, from the
request alone.

The service hides what is left of its state, the cache of checklists and its counters, behind that:
`Running.next` says that it carries the store along as `Store.serve` does, and
`Running.answer_mount` and `Running.answer_inquire` that its answers depend on the store only.  The
reason is in `Running.fresh`: no form has been read twice, so the cache never knows the form that it
is asked for.
-/

namespace FormEngine

namespace Service

/-! ## Purposes -/

/-- The endpoint that a request uses, if it does so by the right method. -/
def Request.endpoint? (r : Request) : Option Endpoint :=
  (Endpoint.ofPath? r.path).filter fun endpoint => r.method = endpoint.method

/-- The session that a request is on, and what it asks about it unless its body is refused. -/
def Request.inquiry? (r : Request) : Option (Text × Except BodyFault Inquiry) :=
  match r.endpoint? with
  | some (.form id) => some (id, .ok .look)
  | some (.values id) => some (id, (readValues r.body).map fun values => .change (.write values))
  | some (.touch id) => some (id, (readFieldId r.body).map fun field => .change (.touch field))
  | some (.submit id) => some (id, .ok .submit)
  | _ => none

/-- A session that is asked about is named by characters, being named in a path. -/
lemma Request.exists_eq_of_inquiry? {r : Request} {id : Text} {asked : Except BodyFault Inquiry}
    (h : r.inquiry? = some (id, asked)) : ∃ path : String, id = path := by
  unfold inquiry? at h
  split at h
  case h_5 => cases h
  all_goals exact ⟨_, (Prod.mk.inj (Option.some.inj h)).1.symm⟩

/-- What a request is for, as far as sessions go. -/
inductive Purpose where
  | mount (form : Form) (id : Text)
  | inquire (id : Text) (q : Inquiry)
  | remove (id : Text)
  | nothing

/-- Whether a purpose is about the session under an id. -/
def Purpose.isAbout (id : Text) : Purpose → Bool
  | .mount _ key => key = id
  | .inquire key _ => key = id
  | .remove key => key = id
  | .nothing => false

/-- A purpose that is about an id is to mount it, to inquire about it or to remove it. -/
lemma Purpose.of_isAbout {p : Purpose} {id : Text} (h : p.isAbout id = true) :
    (∃ form, p = .mount form id) ∨ (∃ q, p = .inquire id q) ∨ p = .remove id := by
  cases p with
  | mount form key =>
      obtain rfl : key = id := of_decide_eq_true h
      exact .inl ⟨form, rfl⟩
  | inquire key q =>
      obtain rfl : key = id := of_decide_eq_true h
      exact .inr (.inl ⟨q, rfl⟩)
  | remove key =>
      obtain rfl : key = id := of_decide_eq_true h
      exact .inr (.inr rfl)
  | nothing => cases h

/-- A request that comes in on a day and at a reading of the clock.  A form that asks for no id is
mounted under the one that is drawn for it. -/
structure Arrival (τ : Type) where
  today : Date
  now : τ
  drawn : String
  request : Request

/-- What a request is for. -/
def Arrival.purpose {τ : Type} (a : Arrival τ) : Purpose :=
  match a.request.endpoint? with
  | some .forms =>
    match readForm FormRequest.readMount a.request.body with
    | .ok (form, asked) => .mount form (asked.getD a.drawn)
    | .error _ => .nothing
  | some .reset =>
    match readSessionId a.request.body with
    | .ok id => .remove id
    | .error _ => .nothing
  | _ =>
    match a.request.inquiry? with
    | some (id, .ok q) => .inquire id q
    | _ => .nothing

variable {τ : Type} {a : Arrival τ} {id : Text}

lemma Arrival.purpose_eq_mount {form : Form} (h : a.purpose = .mount form id) :
    a.request.endpoint? = some .forms ∧ ∃ asked,
      readForm FormRequest.readMount a.request.body = .ok (form, asked) ∧
        asked.getD a.drawn = id := by
  unfold purpose at h
  split at h
  next hforms =>
    split at h
    next form' asked hread =>
      obtain ⟨rfl, rfl⟩ := Purpose.mount.inj h
      exact ⟨hforms, asked, hread, rfl⟩
    next => cases h
  next => split at h <;> cases h
  next => split at h <;> cases h

lemma Arrival.purpose_eq_remove (h : a.purpose = .remove id) :
    a.request.endpoint? = some .reset ∧ readSessionId a.request.body = .ok id := by
  unfold purpose at h
  split at h
  next => split at h <;> cases h
  next hreset =>
    split at h
    next hread =>
      obtain rfl := Purpose.remove.inj h
      exact ⟨hreset, hread⟩
    next => cases h
  next => split at h <;> cases h

lemma Arrival.purpose_eq_inquire {q : Inquiry} :
    a.purpose = .inquire id q ↔ a.request.inquiry? = some (id, .ok q) := by
  unfold purpose
  split
  next hforms =>
    rw [Request.inquiry?, hforms]
    split <;> simp
  next hreset =>
    rw [Request.inquiry?, hreset]
    split <;> simp
  next =>
    split
    next key q' hinquiry =>
      rw [hinquiry]
      simp
    next hnone => simpa using hnone id q

/-! ## Services -/

/-- What comes of a request. -/
def answer [Clock τ] (s : Service τ) (a : Arrival τ) : Outcome :=
  (s.handle a.today a.now (fun _ => a.drawn) a.request).1

/-- The service after a request. -/
def next [Clock τ] (s : Service τ) (a : Arrival τ) : Service τ :=
  (s.handle a.today a.now (fun _ => a.drawn) a.request).2

/-- A service with a store, whose cache knows only forms that have been read. -/
structure Running (st : Store τ) (s : Service τ) : Prop where
  store_eq : s.store = some st
  fresh : ∀ e ∈ s.cache.kept.entries, e.1 < s.forms

lemma running_ofTimeout (timeout : Number) : Running ({ timeout } : Store τ) (ofTimeout timeout) :=
  ⟨rfl, fun _ h => absurd h List.not_mem_nil⟩

variable {st : Store τ} {s : Service τ}

namespace Running

/-- The next form is not known to the cache. -/
lemma peek?_forms (h : Running st s) : s.cache.kept.peek? s.forms = none := by
  rw [RecencyCache.peek?, List.lookup_eq_none_iff]
  intro e he
  simpa using (h.fresh e he).ne'

/-- So its checklist is made anew. -/
lemma compile_eq (h : Running st s) (form : Form) : (s.compile form).1 = form.compile := by
  rw [compile, CompileCache.compile, RecencyCache.get?, h.peek?_forms]
  rfl

lemma compile (h : Running st s) (form : Form) : Running st (s.compile form).2 := by
  rw [Service.compile, CompileCache.compile, RecencyCache.get?, h.peek?_forms]
  refine ⟨h.store_eq, fun e he => ?_⟩
  rcases List.mem_append.1 (List.mem_of_mem_drop he) with he | he
  · exact Nat.lt_succ_of_lt (h.fresh e (List.mem_of_mem_filter he))
  · obtain rfl := List.mem_singleton.1 he
    exact Nat.lt_succ_self _

end Running

variable [Clock τ]

/-! ## Handling a request -/

lemma handle_of_none {today : Date} {now : τ} {newId : Nat → String} {r : Request}
    (h : r.endpoint? = none) : (s.handle today now newId r).2 = s := by
  unfold handle
  split
  next => rfl
  next endpoint hpath =>
    rw [Request.endpoint?, hpath, Option.filter_eq_none_iff] at h
    rw [if_pos (by simpa using h endpoint rfl)]

lemma handle_of_some {today : Date} {now : τ} {newId : Nat → String} {r : Request}
    {endpoint : Endpoint} (h : r.endpoint? = some endpoint) :
    s.handle today now newId r = (send (s.handleAt today now newId r.body endpoint).1,
      (s.handleAt today now newId r.body endpoint).2) := by
  obtain ⟨hpath, hmethod⟩ := Option.filter_eq_some_iff.1 h
  rw [handle, hpath]
  simp only
  rw [if_neg (by simpa using hmethod)]

/-- Going on with a session means going on with the live one. -/
lemma withSession_eq (h : s.store = some st) (now : τ) (id : Text)
    (go : Session τ → Except Crash Response × Session τ) :
    s.withSession now id go = match st.live? now id with
      | none => (.ok (noSession id), { s with store := some (st.access now id).2 })
      | some session => ((go (session.touch now)).1, { s with
          store := some ((st.access now id).2.update id (go (session.touch now)).2) }) := by
  rw [withSession, h]
  simp only [Store.access_result]
  cases st.live? now id <;> rfl

/-- Refuses a body, or goes on with a session by replying to an inquiry. -/
def inquire (s : Service τ) (today : Date) (now : τ) (id : Text) :
    Except BodyFault Inquiry → Handled τ
  | .error fault => (.ok fault.response, s)
  | .ok q => s.withSession now id fun session => ((q.reply today id session.draft).1,
      { session with draft := (q.reply today id session.draft).2 })

/-- A request on a session is an inquiry. -/
lemma handleAt_of_inquiry {r : Request} {id : Text} {asked : Except BodyFault Inquiry}
    (h : r.inquiry? = some (id, asked)) :
    ∃ endpoint, r.endpoint? = some endpoint ∧ ∀ (today : Date) (now : τ) (newId : Nat → String),
      s.handleAt today now newId r.body endpoint = s.inquire today now id asked := by
  cases hendpoint : r.endpoint? with
  | none =>
      rw [Request.inquiry?, hendpoint] at h
      cases h
  | some endpoint =>
      refine ⟨endpoint, rfl, fun today now newId => ?_⟩
      rw [Request.inquiry?, hendpoint] at h
      cases endpoint with
      | form key =>
          obtain ⟨rfl, rfl⟩ := Prod.mk.inj (Option.some.inj h)
          rfl
      | values key =>
          obtain ⟨rfl, rfl⟩ := Prod.mk.inj (Option.some.inj h)
          rw [handleAt]
          cases readValues r.body <;> rfl
      | touch key =>
          obtain ⟨rfl, rfl⟩ := Prod.mk.inj (Option.some.inj h)
          rw [handleAt]
          cases readFieldId r.body <;> rfl
      | submit key =>
          obtain ⟨rfl, rfl⟩ := Prod.mk.inj (Option.some.inj h)
          rfl
      | _ => cases h

namespace Running

/-- A form is mounted in the store, with a checklist of its own. -/
lemma mount_eq (h : Running st s) {body : List UInt8} {form : Form} {asked : Option Text}
    (hread : readForm FormRequest.readMount body = .ok (form, asked)) (today : Date) (now : τ)
    (drawn : String) :
    ∃ s', Running (st.mount today now (asked.getD drawn) form form.compile).2 s' ∧
      s.mount today now (fun _ => drawn) body =
        (match (st.mount today now (asked.getD drawn) form form.compile).1.result with
          | .error fault => .error (.operation fault)
          | .ok session => draftResponse (asked.getD drawn) session.draft, s') := by
  have hid : ∃ s', Running st s' ∧ s.idFor (fun _ => drawn) asked = (asked.getD drawn, s') := by
    cases asked with
    | none => exact ⟨{ s with generated := s.generated + 1 }, ⟨h.store_eq, h.fresh⟩, rfl⟩
    | some id => exact ⟨s, h, rfl⟩
  obtain ⟨s', hs', hid⟩ := hid
  rw [Service.mount, h.store_eq]
  simp only [hread, hid, hs'.compile_eq]
  refine ⟨{ (s'.compile form).2 with
    store := some (st.mount today now (asked.getD drawn) form form.compile).2 },
    ⟨rfl, (hs'.compile form).fresh⟩, ?_⟩
  cases (st.mount today now (asked.getD drawn) form form.compile).1.result <;> rfl

end Running

end Service

/-! ## What requests do to the store -/

open Service

variable {τ : Type} [Clock τ] {a : Arrival τ} {id : Text} {q : Inquiry}

namespace Store

variable {st : Store τ} {now : τ} {today : Date}

/-- The store after an inquiry about the session under an id. -/
def inquire (st : Store τ) (today : Date) (now : τ) (id : Text) (q : Inquiry) : Store τ :=
  match st.live? now id with
  | none => (st.access now id).2
  | some s => (st.access now id).2.update id
      { s.touch now with draft := (q.reply today id s.draft).2 }

/-- The store after a request. -/
def serve (st : Store τ) (a : Arrival τ) : Store τ :=
  match a.purpose with
  | .mount form id => (st.mount a.today a.now id form form.compile).2
  | .inquire id q => st.inquire a.today a.now id q
  | .remove id => (st.remove id).2
  | .nothing => st

lemma inquire_timeout : (st.inquire today now id q).timeout = st.timeout := by
  unfold inquire
  split
  · exact access_timeout
  · rw [update_timeout, access_timeout]

/-- After an inquiry, the live session bears its time and has the draft that it has left. -/
lemma get?_inquire_self :
    (st.inquire today now id q).sessions.get? id = (st.live? now id).map fun s =>
      { s.touch now with draft := (q.reply today id s.draft).2 } := by
  have haccess : (st.access now id).2.sessions.get? id = (st.live? now id).map (·.touch now) :=
    get?_access_self
  unfold inquire
  cases hlive : st.live? now id with
  | none =>
      rw [hlive] at haccess
      exact haccess
  | some s =>
      rw [hlive] at haccess
      exact get?_update_self haccess rfl

lemma get?_inquire_of_ne {other : Text} (h : other ≠ id) :
    (st.inquire today now id q).sessions.get? other = st.sessions.get? other := by
  unfold inquire
  split
  · exact get?_access_of_ne h
  · rw [get?_update_of_ne _ _ h, get?_access_of_ne h]

/-- A request that is not about an id leaves its view of every later time alone. -/
lemma live?_serve_of_not_about [LE τ] [SteadyClock τ] {later : τ}
    (h : a.purpose.isAbout id = false) (hle : a.now ≤ later) :
    (st.serve a).live? later id = st.live? later id := by
  unfold serve
  cases hpurpose : a.purpose with
  | mount form key =>
      rw [hpurpose] at h
      exact live?_mount_of_ne hle (Ne.symm (of_decide_eq_false h))
  | inquire key q =>
      rw [hpurpose] at h
      exact live?_congr inquire_timeout (get?_inquire_of_ne (Ne.symm (of_decide_eq_false h)))
  | remove key =>
      rw [hpurpose] at h
      exact live?_remove_of_ne (Ne.symm (of_decide_eq_false h))
  | nothing => rfl

end Store

namespace Service

variable {st : Store τ} {s : Service τ}

lemma answer_of_inquiry {asked : Except BodyFault Inquiry}
    (h : a.request.inquiry? = some (id, asked)) :
    s.answer a = send (s.inquire a.today a.now id asked).1 := by
  obtain ⟨endpoint, hendpoint, hhandle⟩ := handleAt_of_inquiry (s := s) h
  rw [answer, handle_of_some hendpoint, hhandle]

lemma next_of_inquiry {asked : Except BodyFault Inquiry}
    (h : a.request.inquiry? = some (id, asked)) :
    s.next a = (s.inquire a.today a.now id asked).2 := by
  obtain ⟨endpoint, hendpoint, hhandle⟩ := handleAt_of_inquiry (s := s) h
  rw [next, handle_of_some hendpoint, hhandle]

/-- A request for nothing changes nothing. -/
lemma next_of_nothing (hstore : s.store = some st) (h : a.purpose = .nothing) : s.next a = s := by
  cases hendpoint : a.request.endpoint? with
  | none => exact handle_of_none hendpoint
  | some endpoint =>
      have hasks : ∀ key asked, a.request.inquiry? = some (key, asked) → s.next a = s := by
        intro key asked hinquiry
        cases asked with
        | error fault => exact next_of_inquiry hinquiry
        | ok q => cases h.symm.trans (Arrival.purpose_eq_inquire.2 hinquiry)
      have hnext : s.next a =
          (s.handleAt a.today a.now (fun _ => a.drawn) a.request.body endpoint).2 := by
        rw [next, handle_of_some hendpoint]
      cases endpoint with
      | check =>
          refine hnext.trans ?_
          simp only [handleAt, check]
          split <;> rfl
      | forms =>
          refine hnext.trans ?_
          rw [Arrival.purpose, hendpoint] at h
          simp only [handleAt, mount, hstore]
          cases hread : readForm FormRequest.readMount a.request.body with
          | error refusal => cases refusal <;> rfl
          | ok read =>
              simp only [hread] at h
              cases h
      | form key => exact hasks key (.ok .look) (by rw [Request.inquiry?, hendpoint])
      | values key => exact hasks key _ (by rw [Request.inquiry?, hendpoint])
      | touch key => exact hasks key _ (by rw [Request.inquiry?, hendpoint])
      | submit key => exact hasks key (.ok .submit) (by rw [Request.inquiry?, hendpoint])
      | reset =>
          refine hnext.trans ?_
          rw [Arrival.purpose, hendpoint] at h
          simp only [handleAt]
          cases hread : readSessionId a.request.body with
          | error fault => rfl
          | ok id =>
              simp only [hread] at h
              cases h
      | health => exact hnext

lemma inquire_eq (hstore : s.store = some st) (today : Date) (now : τ) (id : Text) (q : Inquiry) :
    s.inquire today now id (.ok q) = ((match st.live? now id with
      | none => .ok (noSession id)
      | some session => (q.reply today id session.draft).1),
      { s with store := some (st.inquire today now id q) }) := by
  rw [inquire, withSession_eq hstore, Store.inquire]
  cases st.live? now id <;> rfl

namespace Running

/-- A request does to the service what it does to its store, as far as sessions go. -/
theorem next (h : Running st s) (a : Arrival τ) : Running (st.serve a) (s.next a) := by
  unfold Store.serve
  cases hpurpose : a.purpose with
  | mount form id =>
      obtain ⟨hforms, asked, hread, rfl⟩ := Arrival.purpose_eq_mount hpurpose
      obtain ⟨s', hs', hmount⟩ := h.mount_eq hread a.today a.now a.drawn
      rw [Service.next, handle_of_some hforms, handleAt, hmount]
      exact hs'
  | inquire id q =>
      rw [next_of_inquiry (Arrival.purpose_eq_inquire.1 hpurpose), inquire_eq h.store_eq]
      exact ⟨rfl, h.fresh⟩
  | remove id =>
      obtain ⟨hreset, hread⟩ := Arrival.purpose_eq_remove hpurpose
      rw [Service.next, handle_of_some hreset]
      simp only [handleAt, hread, endSession, h.store_eq]
      exact ⟨rfl, h.fresh⟩
  | nothing =>
      rw [next_of_nothing h.store_eq hpurpose]
      exact h

/-- A request about a draft is answered by the live session, if there is one. -/
theorem answer_inquire (h : Running st s) (hpurpose : a.purpose = .inquire id q) :
    s.answer a = match (st.live? a.now id).map (·.draft) with
      | none => .response (noSession id)
      | some d => send (q.reply a.today id d).1 := by
  have hinquiry := Arrival.purpose_eq_inquire.1 hpurpose
  obtain ⟨path, rfl⟩ := Request.exists_eq_of_inquiry? hinquiry
  rw [answer_of_inquiry hinquiry, inquire_eq h.store_eq]
  cases st.live? a.now path <;> rfl

/-- A mounted form is answered with its draft. -/
theorem answer_mount (h : Running st s) {form : Form} (hpurpose : a.purpose = .mount form id) :
    s.answer a = match (Draft.mount a.today form none).result with
      | .error fault => .crash (.operation fault)
      | .ok draft => send (draftResponse id draft) := by
  obtain ⟨hforms, asked, hread, rfl⟩ := Arrival.purpose_eq_mount hpurpose
  obtain ⟨s', -, hmount⟩ := h.mount_eq hread a.today a.now a.drawn
  rw [answer, handle_of_some hforms, handleAt, hmount, Store.mount_result, Store.launch_result]
  cases (Draft.mount a.today form none).result <;> rfl

end Running

end Service

end FormEngine
