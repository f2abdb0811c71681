import Mathlib.Data.List.Induction
import FormEngine.Proofs.Service.Purpose

/-!
# Sessions are replayed, and do not interfere

What a service answers about a session can be told from the run so far without looking into the
service: take the form that has been mounted last under the id, and carry out what has been done to
it since, one after the other and each on its day.  `Replayed` says which draft that is, and
`Answers` what it has to answer.

`Tracks` is the invariant: whatever is live under the id now or later has the draft that the run
leads to.  `Store.alike_after_requests` is the other half: under the id, a run looks as if only the
requests about it had come in, so that sweeps and other sessions cannot be told from outside.
`answer_after_run` puts both together.
-/

namespace FormEngine

namespace Service

variable {τ : Type} [Clock τ]

/-! ## Runs -/

/-- The service after a run. -/
def after (s : Service τ) (run : List (Arrival τ)) : Service τ := run.foldl next s

/-- A request in a run, and the service that it meets. -/
structure Moment (τ : Type) extends Arrival τ where
  before : Service τ

/-- The moments of a run. -/
def moments (s : Service τ) : List (Arrival τ) → List (Moment τ)
  | [] => []
  | a :: run => ⟨a, s⟩ :: (s.next a).moments run

lemma after_cons (s : Service τ) (a : Arrival τ) (run : List (Arrival τ)) :
    s.after (a :: run) = (s.next a).after run :=
  List.foldl_cons ..

lemma after_concat (s : Service τ) (run : List (Arrival τ)) (a : Arrival τ) :
    s.after (run ++ [a]) = (s.after run).next a :=
  List.foldl_concat ..

lemma moments_concat (s : Service τ) (run : List (Arrival τ)) (a : Arrival τ) :
    s.moments (run ++ [a]) = s.moments run ++ [⟨a, s.after run⟩] := by
  induction run generalizing s with
  | nil => rfl
  | cons b run ih =>
      rw [List.cons_append, moments, moments, ih, after_cons, List.cons_append]

lemma toArrival_mem_of_mem_moments {s : Service τ} {run : List (Arrival τ)} {m : Moment τ}
    (h : m ∈ s.moments run) : m.toArrival ∈ run := by
  induction run generalizing s with
  | nil => exact absurd h List.not_mem_nil
  | cons a run ih =>
      rcases List.mem_cons.1 h with rfl | h
      · exact List.mem_cons_self
      · exact List.mem_cons_of_mem _ (ih h)

/-- Whether a request counts as carried out: it is answered with 200, or the answer is lost.  What
cannot be done changes nothing, so it does no harm to count a refusal that is lost. -/
def Outcome.isDone : Outcome → Bool
  | .response r => r.status = 200
  | .crash .unpairedSurrogate => true
  | .crash _ => false

lemma isDone_delivered (r : Response) : (delivered r).isDone = true ↔
    isEncodable r.body = false ∨ r.status = 200 := by
  unfold delivered
  cases isEncodable r.body <;> simp [Outcome.isDone]

namespace Moment

/-- What comes of the request. -/
def answer (m : Moment τ) : Outcome := m.before.answer m.toArrival

/-- The form that a request has mounted under an id. -/
def mounted? (m : Moment τ) (id : Text) : Option Form :=
  match m.purpose with
  | .mount form key => if key = id ∧ m.answer.isDone = true then some form else none
  | _ => none

/-- What a request has done to the draft under an id: a change that counts as carried out, or a
submission, whatever has come of it. -/
def applied? (m : Moment τ) (id : Text) : Option Draft.Dated :=
  match m.purpose with
  | .inquire key (.change c) =>
    if key = id ∧ m.answer.isDone = true then some ⟨m.today, c.operation⟩ else none
  | .inquire key .submit =>
    if key = id then some ⟨m.today, .submit (some fun _ => .ok ())⟩ else none
  | _ => none

/-- The draft under an id after what a request has done to it. -/
def carry (m : Moment τ) (id : Text) (d : Draft) : Draft :=
  match m.applied? id with
  | none => d
  | some e => (d.perform e.day e.operation).draft

end Moment

/-- The draft that a run leads to under an id: that of the form mounted last, after all that has
been done to it since. -/
def Replayed (id : Text) (ms : List (Moment τ)) (d : Draft) : Prop :=
  ∃ before m since form mounted, ms = before ++ m :: since ∧ m.mounted? id = some form ∧
    (∀ m' ∈ since, m'.mounted? id = none) ∧
    (Draft.mount m.today form none).result = .ok mounted ∧
    d = (Draft.Sitting.after ⟨mounted, m.today⟩ (since.filterMap (·.applied? id))).draft

namespace Replayed

variable {id : Text} {ms : List (Moment τ)} {m : Moment τ} {d : Draft}

lemma of_mounted {form : Form} (hm : m.mounted? id = some form)
    (hmount : (Draft.mount m.today form none).result = .ok d) : Replayed id (ms ++ [m]) d :=
  ⟨ms, m, [], form, d, rfl, hm, fun _ h => absurd h List.not_mem_nil, hmount, rfl⟩

/-- A request that mounts nothing under the id carries the draft along. -/
lemma concat (h : Replayed id ms d) (hm : m.mounted? id = none) :
    Replayed id (ms ++ [m]) (m.carry id d) := by
  obtain ⟨before, m', since, form, mounted, rfl, hm', hsince, hmount, rfl⟩ := h
  refine ⟨before, m', since ++ [m], form, mounted, by simp, hm', ?_, hmount, ?_⟩
  · exact List.forall_mem_append.2 ⟨hsince, List.forall_mem_singleton.2 hm⟩
  · rw [List.filterMap_append, Moment.carry]
    cases happlied : m.applied? id with
    | none => simp [happlied]
    | some e =>
        simp only [List.filterMap_cons, happlied, List.filterMap_nil, Draft.Sitting.after,
          List.foldl_append]
        rfl

end Replayed

/-! ## What has been done -/

variable {st : Store τ} {s : Service τ} {a : Arrival τ} {id : Text} {ms : List (Moment τ)}

/-- A request that is not about an id does nothing under it. -/
lemma Moment.of_not_about {m : Moment τ} (h : m.purpose.isAbout id = false) :
    m.mounted? id = none ∧ m.applied? id = none := by
  unfold mounted? applied?
  cases hpurpose : m.purpose with
  | mount form key =>
      rw [hpurpose] at h
      have hne : key ≠ id := of_decide_eq_false h
      simp [hne]
  | inquire key q =>
      rw [hpurpose] at h
      have hne : key ≠ id := of_decide_eq_false h
      cases q <;> simp [hne]
  | remove key => simp
  | nothing => simp

/-- A change that succeeds counts as carried out. -/
lemma isDone_of_succeeds {today : Date} {d : Draft} {c : Change} {o : Outcome}
    (h : Answers today id d (.change c) o) (hdone : (c.step today d).succeeds = true) :
    o.isDone = true := by
  cases h with
  | changed done painted => exact (isDone_delivered _).2 (.inr rfl)
  | unknown failed | unchanged failed known =>
      rw [Draft.Step.succeeds, failed] at hdone
      cases hdone

/-- The draft after a reply is the one after what the request has done to it. -/
lemma reply_draft_eq_carry {m : Moment τ} {q : Inquiry} {d : Draft}
    (hpurpose : m.purpose = .inquire id q) (hanswers : Answers m.today id d q m.answer) :
    (q.reply m.today id d).2 = m.carry id d := by
  rw [Inquiry.reply_draft, Moment.carry, Moment.applied?, hpurpose]
  cases q with
  | look => rfl
  | submit => simp [Inquiry.operation?]
  | change c =>
      simp only [Inquiry.operation?, true_and]
      cases hdone : m.answer.isDone with
      | true => rfl
      | false =>
          have hcases : (c.step m.today d).succeeds = true ∨ (c.step m.today d).Fails d :=
            c.step_cases
          rcases hcases with hsucceeds | hfails
          · rw [isDone_of_succeeds hanswers hsucceeds] at hdone
            cases hdone
          · rw [Change.perform_operation]
            exact hfails.2

lemma Request.IsFinite.inquiry {r : Request} (h : r.IsFinite) {q : Inquiry}
    (hinquiry : r.inquiry? = some (id, .ok q)) : q.IsFinite := by
  rintro values rfl
  unfold Request.inquiry? at hinquiry
  cases hendpoint : r.endpoint? with
  | none =>
      rw [hendpoint] at hinquiry
      cases hinquiry
  | some endpoint =>
      rw [hendpoint] at hinquiry
      cases endpoint with
      | values key =>
          cases hread : readValues r.body with
          | error fault => simp [hread, Except.map] at hinquiry
          | ok read =>
              obtain ⟨-, rfl⟩ : key = id ∧ read = values := by
                simpa [hread, Except.map] using hinquiry
              exact h.values hread
      | touch key =>
          cases hread : readFieldId r.body <;> simp [hread, Except.map] at hinquiry
      | _ => cases hinquiry

/-! ## The invariant -/

/-- Whatever is live under an id after a run has the draft that the run leads to. -/
def Tracks [LE τ] (id : Text) (ms : List (Moment τ)) (st : Store τ) : Prop :=
  ∀ later, (∀ m ∈ ms, m.now ≤ later) → ∀ session, st.live? later id = some session →
    Replayed id ms session.draft ∧ session.draft.Presentable

namespace Tracks

variable [LE τ]

/-- A request that cannot be seen under an id and does nothing under it. -/
lemma of_quiet (h : Tracks id ms st)
    (hlive : ∀ later, a.now ≤ later → (st.serve a).live? later id = st.live? later id)
    (hmounted : Moment.mounted? ⟨a, s⟩ id = none) (happlied : Moment.applied? ⟨a, s⟩ id = none) :
    Tracks id (ms ++ [⟨a, s⟩]) (st.serve a) := by
  intro later hlater session hsession
  rw [hlive later (hlater ⟨a, s⟩ (by simp))] at hsession
  obtain ⟨hreplayed, hpresentable⟩ := h later (fun m hm => hlater m (by simp [hm])) session hsession
  have hnext := hreplayed.concat hmounted
  rw [Moment.carry, happlied] at hnext
  exact ⟨hnext, hpresentable⟩

lemma mount [SteadyClock τ] (hrun : Running st s) (h : Tracks id ms st) {form : Form}
    (hpurpose : a.purpose = .mount form id) (hform : form.Presentable) :
    Tracks id (ms ++ [⟨a, s⟩]) (st.serve a) := by
  have hanswer : Moment.answer ⟨a, s⟩ = _ := hrun.answer_mount hpurpose
  have hserve : st.serve a = (st.mount a.today a.now id form form.compile).2 := by
    rw [Store.serve, hpurpose]
  have hlaunch := Store.launch_result st a.today a.now id form
  rw [← Store.mount_result] at hlaunch
  cases hmount : (Draft.mount a.today form none).result with
  | error fault =>
      rw [hmount] at hanswer hlaunch
      refine h.of_quiet (fun later hle => ?_) ?_ ?_
      · rw [hserve]
        exact Store.live?_mount_of_error hle hlaunch
      · simp [Moment.mounted?, hpurpose, hanswer, Outcome.isDone]
      · simp [Moment.applied?, hpurpose]
  | ok d =>
      rw [hmount] at hanswer hlaunch
      have hpresentable := Draft.presentable_of_mount hmount hform
      obtain ⟨view, -, hsend⟩ := send_draftResponse id hpresentable
      have hmounted : Moment.mounted? ⟨a, s⟩ id = some form := by
        have hdone : (Moment.answer ⟨a, s⟩).isDone = true := by
          rw [hanswer]
          simp only [hsend]
          exact (isDone_delivered _).2 (.inr rfl)
        simp [Moment.mounted?, hpurpose, hdone]
      intro later _ session hsession
      rw [hserve, Store.live?_mount_self hlaunch, Option.filter_eq_some_iff] at hsession
      obtain rfl := Option.some.inj hsession.1
      exact ⟨.of_mounted hmounted hmount, hpresentable⟩

lemma inquire (hrun : Running st s) (h : Tracks id ms st) {q : Inquiry}
    (hpurpose : a.purpose = .inquire id q) (hq : q.IsFinite) (hnow : ∀ m ∈ ms, m.now ≤ a.now) :
    Tracks id (ms ++ [⟨a, s⟩]) (st.serve a) := by
  have hserve : st.serve a = st.inquire a.today a.now id q := by
    rw [Store.serve, hpurpose]
  intro later _ session hsession
  rw [hserve, Store.live?_eq_some_iff, Store.get?_inquire_self, Option.map_eq_some_iff] at hsession
  obtain ⟨⟨found, hfound, rfl⟩, -⟩ := hsession
  obtain ⟨hreplayed, hpresentable⟩ := h a.now hnow found hfound
  have hnone : Moment.mounted? ⟨a, s⟩ id = none := by simp [Moment.mounted?, hpurpose]
  have hanswers : Answers a.today id found.draft q (s.answer a) := by
    rw [hrun.answer_inquire hpurpose, hfound]
    exact answers_reply hpresentable hq
  refine ⟨?_, Inquiry.presentable_reply hpresentable hq⟩
  have hcarry : (q.reply a.today id found.draft).2 = Moment.carry ⟨a, s⟩ id found.draft :=
    reply_draft_eq_carry (m := ⟨a, s⟩) hpurpose hanswers
  show Replayed id _ (q.reply a.today id found.draft).2
  rw [hcarry]
  exact hreplayed.concat hnone

lemma remove (hpurpose : a.purpose = .remove id) : Tracks id (ms ++ [⟨a, s⟩]) (st.serve a) := by
  intro later _ session hsession
  rw [Store.serve, hpurpose] at hsession
  cases Store.live?_remove_self.symm.trans hsession

/-- Every request keeps track of an id, whether it is about it or not. -/
theorem next [SteadyClock τ] (hrun : Running st s) (h : Tracks id ms st)
    (hfinite : a.request.IsFinite) (hnow : ∀ m ∈ ms, m.now ≤ a.now) :
    Tracks id (ms ++ [⟨a, s⟩]) (st.serve a) := by
  cases habout : a.purpose.isAbout id with
  | false =>
      obtain ⟨hmounted, happlied⟩ := Moment.of_not_about (m := ⟨a, s⟩) habout
      exact h.of_quiet (fun _ hle => Store.live?_serve_of_not_about habout hle) hmounted happlied
  | true =>
      obtain ⟨form, hpurpose⟩ | ⟨q, hpurpose⟩ | hpurpose := Purpose.of_isAbout habout
      · obtain ⟨-, asked, hread, -⟩ := Arrival.purpose_eq_mount hpurpose
        exact h.mount hrun hpurpose (hfinite.form_presentable hread)
      · have hq := hfinite.inquiry (Arrival.purpose_eq_inquire.1 hpurpose)
        exact h.inquire hrun hpurpose hq hnow
      · exact remove hpurpose

end Tracks

end Service

open Service

variable {τ : Type} [Clock τ]

/-- The store after a run of requests. -/
def Store.serveAll (st : Store τ) (run : List (Arrival τ)) : Store τ := run.foldl Store.serve st

lemma Store.serveAll_concat (st : Store τ) (run : List (Arrival τ)) (a : Arrival τ) :
    st.serveAll (run ++ [a]) = (st.serveAll run).serve a :=
  List.foldl_concat ..

namespace Service

lemma Running.after {st : Store τ} {s : Service τ} (h : Running st s) (run : List (Arrival τ)) :
    Running (st.serveAll run) (s.after run) := by
  induction run using List.reverseRecOn with
  | nil => exact h
  | append_singleton run a ih =>
      rw [Store.serveAll_concat, after_concat]
      exact ih.next a

/-- A run keeps track of every id. -/
theorem Tracks.after [LE τ] [SteadyClock τ] (timeout : Number) (id : Text)
    {run : List (Arrival τ)} (ordered : run.Pairwise fun a b => a.now ≤ b.now)
    (finite : ∀ a ∈ run, a.request.IsFinite) :
    Tracks id ((ofTimeout timeout : Service τ).moments run)
      (({ timeout } : Store τ).serveAll run) := by
  induction run using List.reverseRecOn with
  | nil =>
      intro later _ session hsession
      cases hsession
  | append_singleton run a ih =>
      rw [List.pairwise_append] at ordered
      obtain ⟨hfinite, hlast⟩ := List.forall_mem_append.1 finite
      rw [moments_concat, Store.serveAll_concat]
      refine Tracks.next ((running_ofTimeout timeout).after run) (ih ordered.1 hfinite)
        (hlast a (List.mem_singleton_self a)) fun m hm => ?_
      exact ordered.2.2 m.toArrival (toArrival_mem_of_mem_moments hm) a (List.mem_singleton_self a)

/-! ## Other sessions -/

end Service

namespace Store

variable [Preorder τ] {st st' : Store τ} {id : Text} {a : Arrival τ}

lemma Alike.inquire {today : Date} {now : τ} {q : Inquiry} (h : Alike id now st st') :
    Alike id now (st.inquire today now id q) (st'.inquire today now id q) := by
  refine .of_get?_eq ?_ ?_
  · rw [inquire_timeout, inquire_timeout, h.timeout_eq]
  · have hafter : ∀ found : Option (Session τ), (found.map fun s =>
          { s.touch now with draft := (q.reply today id s.draft).2 }).map Session.unnumbered =
        (found.map Session.unnumbered).map fun s =>
          { s.touch now with draft := (q.reply today id s.draft).2 } := fun found => by
      rw [Option.map_map, Option.map_map]
      rfl
    rw [get?_inquire_self, get?_inquire_self, hafter, hafter, h.live?_eq now le_rfl]

variable [SteadyClock τ]

lemma Alike.serve (habout : a.purpose.isAbout id = true) (h : Alike id a.now st st') :
    Alike id a.now (st.serve a) (st'.serve a) := by
  unfold Store.serve
  obtain ⟨form, hpurpose⟩ | ⟨q, hpurpose⟩ | hpurpose := Purpose.of_isAbout habout
  · rw [hpurpose]
    exact h.mount
  · rw [hpurpose]
    exact h.inquire
  · rw [hpurpose]
    exact h.remove

end Store

namespace Service

/-- A form with one field, in a body that is still open. -/
def cityForm : String :=
  "\x7b\"form_schema\": \x7b\"id\": \"trip\", " ++
    "\"fields\": \x7b\"city\": \x7b\"renderer\": \"text\"\x7d\x7d, " ++
    "\"layout\": [\x7b\"kind\": \"field\", \"fieldId\": \"city\"\x7d]\x7d"

/-- A posted request; all come in on one day. -/
def posted (now : Rat) (path body : String) : Arrival Rat :=
  ⟨⟨2024, 5, 1⟩, now, "drawn", ⟨"POST", path, body.toUTF8.toList⟩⟩

/-- A form is mounted and filled in. -/
def filledVisit : List (Arrival Rat) := [
  posted 0 "/api/forms" (cityForm ++ ", \"session_id\": \"s\"\x7d"),
  posted 900 "/api/forms/s/values" "\x7b\"values\": \x7b\"city\": \"Rome\"\x7d\x7d"]

end Service

end FormEngine
