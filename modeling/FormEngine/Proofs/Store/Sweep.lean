import Mathlib.Data.List.Basic
import FormEngine.Proofs.Store.Expiry

/-!
# What a mount does to the other sessions

A mount works in three steps: the expired sessions go, a draft is started, and the new session takes
the place of the one under its id.  The second step may fail, and then the first has happened all
the same, and the third has not.  `Swept` says what is left after the first step and `Admitted` what
there is after the third, both by the order of the ids and by what lies under each of them;
`mount_spares_live` says which of the two a mount comes to.

Nothing in this file compares two times, so it holds for every clock.  On an exact one `Within` is
the comparison of the time that has passed with the timeout (`within_iff_allows`).
-/

namespace FormEngine

namespace Store

variable {τ : Type} [Clock τ] {st : Store τ} {now : τ} {id : Text}

/-- The ids of the sessions that have not expired, in their order. -/
def liveIds (st : Store τ) (now : τ) : List Text :=
  st.ids.filter fun id => (st.live? now id).isSome

/-- The ids of the sessions that have. -/
def expiredIds (st : Store τ) (now : τ) : List Text :=
  st.ids.filter fun id => !(st.live? now id).isSome

/-- A store without its expired sessions. -/
structure Swept (st : Store τ) (now : τ) (st' : Store τ) : Prop where
  ids_eq : st'.ids = st.liveIds now
  /-- What is left are the sessions that have been left alone for no longer than the timeout, with
  all that they hold. -/
  get?_iff : ∀ id s, st'.sessions.get? id = some s ↔
    st.sessions.get? id = some s ∧ Within st.timeout s.accessed now
  timeout_eq : st'.timeout = st.timeout
  mounted_eq : st'.mounted = st.mounted

/-- A store without its expired sessions, and with a session under an id. -/
structure Admitted (st : Store τ) (now : τ) (id : Text) (new : Session τ) (st' : Store τ) :
    Prop where
  /-- The id keeps the place of a live session, and comes last if there is none. -/
  ids_eq : st'.ids =
    if id ∈ st.liveIds now then st.liveIds now else st.liveIds now ++ [id]
  get?_self : st'.sessions.get? id = some new
  get?_iff : ∀ other s, other ≠ id → (st'.sessions.get? other = some s ↔
    st.sessions.get? other = some s ∧ Within st.timeout s.accessed now)
  timeout_eq : st'.timeout = st.timeout
  mounted_eq : st'.mounted = st.mounted + 1

/-! ## Removing -/

lemma live?_of_mem {e : Text × Session τ} (he : e ∈ st.sessions.entries) :
    (st.live? now e.1).isSome = !e.2.hasExpired now st.timeout := by
  rw [live?, (Mapping.mem_entries_iff _).1 he]
  cases h : e.2.hasExpired now st.timeout <;> simp [Option.filter, h]

lemma ids_dropExpired (st : Store τ) (now : τ) : (st.dropExpired now).2.ids = st.liveIds now := by
  have hids : (st.dropExpired now).2.ids =
      (st.sessions.entries.filter fun e => !e.2.hasExpired now st.timeout).map (·.1) := rfl
  rw [hids, liveIds, ids, Mapping.keys, List.filter_map]
  exact congrArg _ (List.filter_congr fun e he => (live?_of_mem he).symm)

lemma swept_dropExpired (st : Store τ) (now : τ) : Swept st now (st.dropExpired now).2 where
  ids_eq := ids_dropExpired st now
  get?_iff id s := by rw [get?_dropExpired, live?_eq_some_iff, Within, Session.hasExpired]
  timeout_eq := rfl
  mounted_eq := rfl

/-- As many sessions are said to be removed as there are expired ones. -/
lemma count_dropExpired (st : Store τ) (now : τ) :
    (st.dropExpired now).1 = (st.expiredIds now).length := by
  have hsize : st.sessions.size = (st.liveIds now).length + (st.expiredIds now).length := by
    calc st.sessions.size
        = st.ids.length := List.length_map .. |>.symm
      _ = (st.liveIds now).length + (st.expiredIds now).length :=
        List.length_eq_length_filter_add _
  have hleft : (st.dropExpired now).2.sessions.size = (st.liveIds now).length := by
    rw [← ids_dropExpired]
    exact List.length_map .. |>.symm
  have hcount : (st.dropExpired now).1 =
      st.sessions.size - (st.dropExpired now).2.sessions.size := rfl
  omega

/-! ## Mounting -/

/-- Starting the draft of a mount, given the checklist. -/
def starting (today : Date) (form : Form) (compiled : Traced Checklist) : Traced Draft := do
  let checklist ← compiled
  Draft.start today form checklist none

/-- A mount answers with a new session, or fails as starting its draft does. -/
lemma mount_result_eq (st : Store τ) (today : Date) (now : τ) (id : Text) (form : Form)
    (compiled : Traced Checklist) : (st.mount today now id form compiled).1.result =
      (starting today form compiled).result.map fun draft => ⟨st.mounted, draft, now, now⟩ := by
  rw [mount_result]
  cases h : (starting today form compiled).result with
  | ok draft =>
      obtain ⟨checklist, hcompiled, hdraft⟩ := Traced.bind_result_eq_ok.1 h
      exact launch_eq_ok.2 ⟨checklist, draft, hcompiled, hdraft, rfl⟩
  | error fault =>
      rw [launch, Traced.bind_result_of_ok (sweep_result st now)]
      refine Traced.bind_result_eq_error.2 ?_
      refine (Traced.bind_result_eq_error.1 h).imp_right ?_
      rintro ⟨checklist, hcompiled, hstart⟩
      exact ⟨checklist, hcompiled, Traced.bind_result_eq_error.2 (.inl hstart)⟩

lemma admitted_of_mount {today : Date} {form : Form} {compiled : Traced Checklist} {s : Session τ}
    (h : (st.mount today now id form compiled).1.result = .ok s) :
    Admitted st now id s (st.mount today now id form compiled).2 := by
  have swept := swept_dropExpired st now
  rw [mount_of_ok h]
  refine ⟨?_, Mapping.get?_set_self .., fun other s' hne => ?_, rfl, rfl⟩
  · rw [← swept.ids_eq]
    exact Mapping.keys_set ..
  · rw [Mapping.get?_set_of_ne _ _ hne]
    exact swept.get?_iff other s'

/-- Removing the expired sessions says how many there were, and takes away these and no others.
Mounting does so as well.  If its draft can be started, a new session that has just been created
comes under the id, in the place of a live one or else at the end, and nothing else happens to any
session that has not expired; if the draft cannot be started, the mount fails in the same way and
nothing but the removal has happened, also under its own id. -/
theorem mount_spares_live (st : Store τ) (today : Date) (now : τ) (id : Text) (form : Form)
    (compiled : Traced Checklist) :
    (st.dropExpired now).1 = (st.expiredIds now).length ∧ Swept st now (st.dropExpired now).2 ∧
      match (starting today form compiled).result with
      | .ok draft =>
        (st.mount today now id form compiled).1.result = .ok ⟨st.mounted, draft, now, now⟩ ∧
          Admitted st now id ⟨st.mounted, draft, now, now⟩ (st.mount today now id form compiled).2
      | .error fault =>
        (st.mount today now id form compiled).1.result = .error fault ∧
          Swept st now (st.mount today now id form compiled).2 := by
  have swept := swept_dropExpired st now
  have hresult := mount_result_eq st today now id form compiled
  refine ⟨count_dropExpired st now, swept, ?_⟩
  cases h : (starting today form compiled).result with
  | ok draft =>
      rw [h] at hresult
      exact ⟨hresult, admitted_of_mount hresult⟩
  | error fault =>
      rw [h] at hresult
      refine ⟨hresult, ?_⟩
      rw [mount_of_error hresult]
      exact swept

/-! ## An inn with three sessions -/

/-- Three sessions, of which the first has been left alone for too long at 2800, and the second for
just as long as may be. -/
def inn : Store Rat where
  sessions := ⟨[("hall", ⟨0, Draft.emptyTrip, 0, 0⟩), ("room", ⟨1, Draft.emptyTrip, 0, 1000⟩),
    ("suite", ⟨2, Draft.emptyTrip, 2000, 2000⟩)], by decide⟩
  mounted := 3

/-- A form that cannot be started, since its predicate fails on the initial value. -/
def closed : Form where
  id := "closed"
  intro := {}
  fields := ⟨[("plate", ⟨some "plate", "", .text, none, none, none, .empty,
    some { predicate := some ⟨.null, fun _ _ => .error "offline"⟩ }, none⟩)], by decide⟩
  layout := []

/-- A new session takes the place of a live one, and that of an expired one at the end; if none can
be started, the live one stays as it is. -/
theorem mount_spares_live_inn :
    (inn.dropExpired 2800).1 = 1 ∧
      (inn.mount Draft.tripDay 2800 "room" Draft.trip Draft.trip.compile).2.ids =
        ["room", "suite"] ∧
      (inn.mount Draft.tripDay 2800 "hall" Draft.trip Draft.trip.compile).2.ids =
        ["room", "suite", "hall"] ∧
      (inn.mount Draft.tripDay 2800 "room" closed closed.compile).1.result =
        .error (.raised "offline") ∧
      (inn.mount Draft.tripDay 2800 "room" closed closed.compile).2.ids = ["room", "suite"] ∧
      (inn.mount Draft.tripDay 2800 "room" closed closed.compile).2.sessions.get? "room" =
        some ⟨1, Draft.emptyTrip, 0, 1000⟩ := by
  have hlive : inn.liveIds 2800 = ["room", "suite"] := by decide +kernel
  have hexpired : inn.expiredIds 2800 = ["hall"] := by decide +kernel
  have hwithin : Within inn.timeout 1000 (2800 : Rat) := by
    show Clock.exceeds (2800 : Rat) 1000 inn.timeout = false
    decide +kernel
  obtain ⟨hcount, -, -, replaced⟩ :=
    mount_spares_live inn Draft.tripDay 2800 "room" Draft.trip Draft.trip.compile
  obtain ⟨-, -, -, appended⟩ :=
    mount_spares_live inn Draft.tripDay 2800 "hall" Draft.trip Draft.trip.compile
  obtain ⟨-, -, hfails, kept⟩ :=
    mount_spares_live inn Draft.tripDay 2800 "room" closed closed.compile
  refine ⟨?_, ?_, ?_, hfails, ?_, (kept.get?_iff "room" _).2 ⟨rfl, hwithin⟩⟩
  · rw [hcount, hexpired]
    rfl
  · rw [replaced.ids_eq, hlive]
    rfl
  · rw [appended.ids_eq, hlive]
    rfl
  · rw [kept.ids_eq, hlive]

end Store

end FormEngine
