import Mathlib.Data.List.Induction
import FormEngine.Proofs.Draft.Operation
import FormEngine.Proofs.Store.Clock

/-!
# What can still be got from a store

A store may hold sessions that have expired and that nobody gets any more.  `Store.live?` looks past
them: it is the session under an id unless it has expired at a time.  Everything that is said about
who gets what is said in its terms, and then it does not matter when expired sessions are removed.

That rests on one property of clocks, `SteadyClock`: a time that has been exceeded stays exceeded.
Under it, `live?_dropExpired` says that a sweep leaves the view of every later time alone, and the
other operations change it only under the id they are about (`live?_mount_of_ne`,
`live?_access_of_ne`, `live?_remove_of_ne`).
-/

namespace FormEngine

lemma Traced.bind_result_of_ok {α β : Type} {t : Traced α} {f : α → Traced β} {a : α}
    (h : t.result = .ok a) : (t >>= f).result = (f a).result := by
  show (Traced.bind t f).result = _
  rw [Traced.bind, h]

namespace Store

variable {τ : Type} [Clock τ] {st : Store τ} {now later : τ} {id other : Text}

/-! ## The view of a time -/

/-- The session under an id, unless it has expired. -/
def live? (st : Store τ) (now : τ) (id : Text) : Option (Session τ) :=
  (st.sessions.get? id).filter fun s => !s.hasExpired now st.timeout

lemma live?_eq_some_iff {s : Session τ} :
    st.live? now id = some s ↔
      st.sessions.get? id = some s ∧ s.hasExpired now st.timeout = false := by
  rw [live?, Option.filter_eq_some_iff, Bool.not_eq_true']

/-- Stores that hold the same under an id look the same there. -/
lemma live?_congr {st st' : Store τ} (htimeout : st'.timeout = st.timeout)
    (hget : st'.sessions.get? id = st.sessions.get? id) :
    st'.live? later id = st.live? later id := by
  rw [live?, live?, hget, htimeout]

/-- A session that is not live any more does not come back. -/
lemma live?_eq_none_later [LE τ] [SteadyClock τ] (h : now ≤ later)
    (hnone : st.live? now id = none) : st.live? later id = none := by
  rw [live?, Option.filter_eq_none_iff] at hnone ⊢
  intro s hs hlive
  refine hnone s hs ?_
  rw [Bool.not_eq_true', ← Bool.not_eq_true] at hlive ⊢
  exact fun hexpired => hlive (SteadyClock.exceeds_later h hexpired)

/-! ## Removing -/

/-- What is left under an id is the live session. -/
lemma get?_dropExpired : (st.dropExpired now).2.sessions.get? id = st.live? now id :=
  Mapping.get?_filter ..

/-- Removing expired sessions cannot be seen later on. -/
lemma live?_dropExpired [LE τ] [SteadyClock τ] (h : now ≤ later) :
    (st.dropExpired now).2.live? later id = st.live? later id := by
  rw [live?, get?_dropExpired, live?, live?]
  cases st.sessions.get? id with
  | none => rfl
  | some s =>
      cases hnow : s.hasExpired now st.timeout with
      | false => simp [Option.filter, hnow, dropExpired]
      | true =>
          have hlater : s.hasExpired later st.timeout = true := SteadyClock.exceeds_later h hnow
          simp [Option.filter, hnow, hlater]

lemma live?_remove_self : (st.remove id).2.live? later id = none := by
  have hget : (st.remove id).2.sessions.get? id = none := by
    rw [remove, Mapping.get?_erase, if_pos rfl]
  rw [live?, hget]
  rfl

lemma live?_remove_of_ne (h : other ≠ id) :
    (st.remove id).2.live? later other = st.live? later other := by
  refine live?_congr rfl ?_
  rw [remove, Mapping.get?_erase, if_neg h]

/-! ## Accessing -/

/-- Who asks for an id gets the live session, marked as accessed. -/
lemma access_result :
    (st.access now id).1.result = .ok ((st.live? now id).map (·.touch now)) := by
  unfold access live?
  cases st.sessions.get? id with
  | none => rfl
  | some s =>
      cases h : s.hasExpired now st.timeout with
      | false => simp [Option.filter, h]
      | true =>
          simp only [h, if_true, Option.filter, Bool.not_true, Bool.false_eq_true, if_false]
          rfl

lemma access_timeout : (st.access now id).2.timeout = st.timeout := by
  unfold access
  split
  · rfl
  · split <;> rfl

/-- An access leaves the live session marked as accessed, and a session that is not live nowhere. -/
lemma get?_access_self :
    (st.access now id).2.sessions.get? id = (st.live? now id).map (·.touch now) := by
  unfold access live?
  cases hget : st.sessions.get? id with
  | none => exact hget
  | some s =>
      cases h : s.hasExpired now st.timeout
      · simp [Option.filter, h]
      · simp [Option.filter, h, Mapping.get?_erase]

lemma get?_access_of_ne (h : other ≠ id) :
    (st.access now id).2.sessions.get? other = st.sessions.get? other := by
  unfold access
  split
  · rfl
  · split
    · exact (Mapping.get?_erase ..).trans (if_neg h)
    · exact Mapping.get?_set_of_ne _ _ h

lemma live?_access_of_ne (h : other ≠ id) :
    (st.access now id).2.live? later other = st.live? later other :=
  live?_congr access_timeout (get?_access_of_ne h)

/-! ## Putting back -/

omit [Clock τ] in
lemma update_timeout (st : Store τ) (id : Text) (s : Session τ) :
    (st.update id s).timeout = st.timeout := by
  unfold update
  split
  · rfl
  · split <;> rfl

omit [Clock τ] in
/-- A session is put back in its own place. -/
lemma get?_update_self {s s' : Session τ} (h : st.sessions.get? id = some s)
    (hserial : s'.serial = s.serial) : (st.update id s').sessions.get? id = some s' := by
  rw [update, h]
  simp only [hserial, if_true]
  exact Mapping.get?_set_self ..

omit [Clock τ] in
lemma get?_update_of_ne (st : Store τ) (s : Session τ) (h : other ≠ id) :
    (st.update id s).sessions.get? other = st.sessions.get? other := by
  unfold update
  split
  · rfl
  · split
    · exact Mapping.get?_set_of_ne _ _ h
    · rfl

/-! ## Mounting -/

lemma sweep_result (st : Store τ) (now : τ) :
    (st.sweep now).result = .ok (st.dropExpired now).2 := by
  simp only [sweep]
  split <;> rfl

/-- The session that a mount starts, if it can be started. -/
def launch (st : Store τ) (today : Date) (now : τ) (id : Text) (form : Form)
    (compiled : Traced Checklist) : Traced (Session τ) := do
  let _ ← st.sweep now
  let checklist ← compiled
  let draft ← Draft.start today form checklist none
  note ("Mounted form '" ++ form.id ++ "' as session " ++ id)
  return ⟨st.mounted, draft, now, now⟩

lemma launch_eq_ok {today : Date} {form : Form} {compiled : Traced Checklist} {s : Session τ} :
    (st.launch today now id form compiled).result = .ok s ↔
      ∃ checklist draft, compiled.result = .ok checklist ∧
        (Draft.start today form checklist none).result = .ok draft ∧
        s = ⟨st.mounted, draft, now, now⟩ := by
  unfold launch
  simp only [Traced.bind_result_eq_ok, Traced.pure_result, sweep_result, Except.ok.injEq,
    exists_eq_left']
  constructor
  · rintro ⟨checklist, hcompiled, draft, hdraft, -, -, rfl⟩
    exact ⟨checklist, draft, hcompiled, hdraft, rfl⟩
  · rintro ⟨checklist, draft, hcompiled, hdraft, rfl⟩
    exact ⟨checklist, hcompiled, draft, hdraft, (), rfl, rfl⟩

/-- A form is launched exactly if a draft of it can be mounted, and fails with the same fault. -/
lemma launch_result (st : Store τ) (today : Date) (now : τ) (id : Text) (form : Form) :
    (st.launch today now id form form.compile).result =
      (Draft.mount today form none).result.map fun draft => ⟨st.mounted, draft, now, now⟩ := by
  have hcompile : form.compile.result = .ok form.checklist := rfl
  rw [launch, Traced.bind_result_of_ok (sweep_result st now), Traced.bind_result_of_ok hcompile,
    Draft.mount, Traced.bind_result_of_ok hcompile]
  cases hstart : (Draft.start today form form.checklist none).result with
  | error fault => exact Traced.bind_result_eq_error.2 (.inl hstart)
  | ok draft =>
      rw [Traced.bind_result_of_ok hstart]
      rfl

/-- A mount launches a session, and removes the expired ones whether or not it can be started. -/
lemma mount_eq {today : Date} {form : Form} {compiled : Traced Checklist} :
    st.mount today now id form compiled =
      match (st.launch today now id form compiled).result with
      | .error _ => (st.launch today now id form compiled, (st.dropExpired now).2)
      | .ok s => (st.launch today now id form compiled, { (st.dropExpired now).2 with
          sessions := (st.dropExpired now).2.sessions.set id s, mounted := st.mounted + 1 }) :=
  rfl

lemma mount_result {today : Date} {form : Form} {compiled : Traced Checklist} :
    (st.mount today now id form compiled).1 = st.launch today now id form compiled := by
  rw [mount_eq]
  split <;> rfl

/-- A mount that fails has removed the expired sessions and done nothing else. -/
lemma mount_of_error {today : Date} {form : Form} {compiled : Traced Checklist} {fault : Fault}
    (h : (st.mount today now id form compiled).1.result = .error fault) :
    (st.mount today now id form compiled).2 = (st.dropExpired now).2 := by
  rw [mount_result] at h
  rw [mount_eq, h]

/-- A mount that succeeds has removed the expired sessions and put its own under the id. -/
lemma mount_of_ok {today : Date} {form : Form} {compiled : Traced Checklist} {s : Session τ}
    (h : (st.mount today now id form compiled).1.result = .ok s) :
    (st.mount today now id form compiled).2 = { (st.dropExpired now).2 with
      sessions := (st.dropExpired now).2.sessions.set id s, mounted := st.mounted + 1 } := by
  rw [mount_result] at h
  rw [mount_eq, h]

lemma mount_timeout {today : Date} {form : Form} {compiled : Traced Checklist} :
    (st.mount today now id form compiled).2.timeout = st.timeout := by
  cases h : (st.mount today now id form compiled).1.result with
  | error fault => rw [mount_of_error h]; rfl
  | ok s => rw [mount_of_ok h]; rfl

/-- A mounted session is live until it expires. -/
lemma live?_mount_self {today : Date} {form : Form} {compiled : Traced Checklist} {s : Session τ}
    (h : (st.mount today now id form compiled).1.result = .ok s) :
    (st.mount today now id form compiled).2.live? later id =
      (some s).filter fun s => !s.hasExpired later st.timeout := by
  rw [live?, mount_timeout, mount_of_ok h, Mapping.get?_set_self]

/-- A mount that fails leaves all views of later times alone. -/
lemma live?_mount_of_error [LE τ] [SteadyClock τ] {today : Date} {form : Form}
    {compiled : Traced Checklist} {fault : Fault} (hle : now ≤ later)
    (h : (st.mount today now id form compiled).1.result = .error fault) :
    (st.mount today now id form compiled).2.live? later other = st.live? later other := by
  rw [mount_of_error h, live?_dropExpired hle]

/-- A mount leaves the views of the other ids alone. -/
lemma live?_mount_of_ne [LE τ] [SteadyClock τ] {today : Date} {form : Form}
    {compiled : Traced Checklist} (hle : now ≤ later) (hne : other ≠ id) :
    (st.mount today now id form compiled).2.live? later other = st.live? later other := by
  cases h : (st.mount today now id form compiled).1.result with
  | error fault => exact live?_mount_of_error hle h
  | ok s =>
      rw [mount_of_ok h]
      refine Eq.trans (live?_congr ?_ ?_) (live?_dropExpired hle)
      · rfl
      · exact Mapping.get?_set_of_ne _ _ hne

/-! ## Stores that look the same under an id -/

end Store

/-- A session without its serial number, which only says how many have been mounted before. -/
def Session.unnumbered {τ : Type} (s : Session τ) : Session τ := { s with serial := 0 }

namespace Store

variable {τ : Type} [Clock τ] {st st' : Store τ} {now later : τ} {id : Text}

/-- From a time on, two stores show the same under an id, but for the serial numbers. -/
structure Alike [LE τ] (id : Text) (now : τ) (st st' : Store τ) : Prop where
  timeout_eq : st.timeout = st'.timeout
  live?_eq : ∀ later, now ≤ later →
    (st.live? later id).map Session.unnumbered = (st'.live? later id).map Session.unnumbered

/-- A form that can be mounted in one store can be mounted in every other. -/
lemma launch_ok_of_ok {today : Date} {form : Form} {compiled : Traced Checklist} {s : Session τ}
    (h : (st.launch today now id form compiled).result = .ok s) (st' : Store τ) :
    (st'.launch today now id form compiled).result = .ok { s with serial := st'.mounted } := by
  obtain ⟨checklist, draft, hcompiled, hdraft, rfl⟩ := launch_eq_ok.1 h
  exact launch_eq_ok.2 ⟨checklist, draft, hcompiled, hdraft, rfl⟩

namespace Alike

variable [Preorder τ]

lemma refl (id : Text) (now : τ) (st : Store τ) : Alike id now st st := ⟨rfl, fun _ _ => rfl⟩

lemma symm (h : Alike id now st st') : Alike id now st' st :=
  ⟨h.timeout_eq.symm, fun later hle => (h.live?_eq later hle).symm⟩

lemma mono (h : Alike id now st st') (hle : now ≤ later) : Alike id later st st' :=
  ⟨h.timeout_eq, fun t ht => h.live?_eq t (le_trans hle ht)⟩

/-- What leaves the view of every later time alone leaves a store alike. -/
lemma of_live?_eq {next : Store τ} (h : Alike id now st st') (htimeout : next.timeout = st.timeout)
    (hlive : ∀ later, now ≤ later → next.live? later id = st.live? later id) :
    Alike id now next st' :=
  ⟨htimeout.trans h.timeout_eq,
    fun later hle => (congrArg _ (hlive later hle)).trans (h.live?_eq later hle)⟩

/-- Two stores that hold the same under an id, but for the serial number, are alike. -/
lemma of_get?_eq (htimeout : st.timeout = st'.timeout)
    (hget : (st.sessions.get? id).map Session.unnumbered =
      (st'.sessions.get? id).map Session.unnumbered) : Alike id now st st' where
  timeout_eq := htimeout
  live?_eq later _ := by
    -- whether a session has expired does not depend on its number
    have hmap : ∀ st : Store τ, (st.live? later id).map Session.unnumbered =
        ((st.sessions.get? id).map Session.unnumbered).filter
          fun s => !s.hasExpired later st.timeout := by
      intro st
      rw [live?, Option.filter_map]
      rfl
    rw [hmap, hmap, hget, htimeout]

/-- Whoever asks for the id gets the same. -/
lemma access_result_eq (h : Alike id now st st') :
    ((st.live? now id).map (·.touch now)).map Session.unnumbered =
      ((st'.live? now id).map (·.touch now)).map Session.unnumbered := by
  have htouch : ∀ found : Option (Session τ), (found.map (·.touch now)).map Session.unnumbered =
      (found.map Session.unnumbered).map (·.touch now) := fun found => by
    rw [Option.map_map, Option.map_map]
    rfl
  rw [htouch, htouch, h.live?_eq now le_rfl]

lemma access (h : Alike id now st st') :
    Alike id now (st.access now id).2 (st'.access now id).2 := by
  refine of_get?_eq ?_ ?_
  · rw [access_timeout, access_timeout, h.timeout_eq]
  · rw [get?_access_self, get?_access_self, h.access_result_eq]

lemma remove (h : Alike id now st st') : Alike id now (st.remove id).2 (st'.remove id).2 :=
  ⟨h.timeout_eq, fun _ _ => by rw [live?_remove_self, live?_remove_self]⟩

lemma mount [SteadyClock τ] {today : Date} {form : Form} {compiled : Traced Checklist}
    (h : Alike id now st st') :
    Alike id now (st.mount today now id form compiled).2
      (st'.mount today now id form compiled).2 := by
  cases hresult : (st.launch today now id form compiled).result with
  | ok s =>
      have hresult' := launch_ok_of_ok hresult st'
      rw [← mount_result] at hresult hresult'
      refine of_get?_eq ?_ ?_
      · rw [mount_timeout, mount_timeout, h.timeout_eq]
      · rw [mount_of_ok hresult, mount_of_ok hresult', Mapping.get?_set_self,
          Mapping.get?_set_self]
        rfl
  | error fault =>
      obtain ⟨fault', hresult'⟩ : ∃ fault',
          (st'.launch today now id form compiled).result = .error fault' := by
        cases hresult' : (st'.launch today now id form compiled).result with
        | error fault' => exact ⟨fault', rfl⟩
        | ok s' =>
            have := launch_ok_of_ok hresult' st
            rw [hresult] at this
            cases this
      rw [← mount_result] at hresult hresult'
      refine (h.of_live?_eq mount_timeout fun later hle => ?_).symm.of_live?_eq mount_timeout
        (fun later hle => ?_) |>.symm
      · exact live?_mount_of_error hle hresult
      · exact live?_mount_of_error hle hresult'

/-- Under an id, a run looks as if only the steps about it had been taken.  The other steps have to
leave the view of later times alone, and the steps about it must not tell apart what is alike. -/
theorem foldl_filter {σ : Type} {step : Store τ → σ → Store τ} {time : σ → τ} {about : σ → Bool}
    (timeout_eq : ∀ st e, (step st e).timeout = st.timeout)
    (quiet : ∀ st e later, about e = false → time e ≤ later →
      (step st e).live? later id = st.live? later id)
    (next : ∀ {st st' : Store τ} {e}, about e = true → Alike id (time e) st st' →
      Alike id (time e) (step st e) (step st' e))
    (st : Store τ) {run : List σ} (ordered : run.Pairwise fun a b => time a ≤ time b)
    (current : ∀ e ∈ run, time e ≤ now) :
    Alike id now (run.foldl step st) ((run.filter about).foldl step st) := by
  induction run using List.reverseRecOn generalizing now with
  | nil => exact refl id now st
  | append_singleton run e ih =>
      rw [List.pairwise_append] at ordered
      have hbefore : ∀ e' ∈ run, time e' ≤ time e :=
        fun e' he' => ordered.2.2 e' he' e (List.mem_singleton_self e)
      have hih : Alike id (time e) (run.foldl step st) ((run.filter about).foldl step st) :=
        ih ordered.1 hbefore
      rw [List.foldl_concat, List.filter_append]
      refine mono ?_ (current e (by simp))
      cases habout : about e with
      | true =>
          rw [List.filter_singleton, habout, cond_true, List.foldl_concat]
          exact next habout hih
      | false =>
          rw [List.filter_singleton, habout, cond_false, List.append_nil]
          exact hih.of_live?_eq (timeout_eq _ e) fun later hle => quiet _ e later habout hle

end Alike

end Store

end FormEngine
