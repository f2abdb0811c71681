import Mathlib.Data.List.Chain
import FormEngine.Proofs.Draft.Coherence
import FormEngine.Proofs.Store.Live

/-!
# Idle expiry

A store keeps no history of who has accessed what; it only stamps sessions with the time of their
last access, and removes those that have been left alone for too long in three different places.
This file says what can be told from outside.  `Moment`s are the commands of a run together with the
stores before them, and a `Stay` is what they say about an id: the session that has been mounted
last, and the times at which it has been accessed.

`Tracks` is the invariant: at every time from now on the live session under an id is the one of its
stay, as long as that has not been left alone for too long.  Whether expired sessions still lie in
the store does not occur in it.  `Granted` says the same without a store, `access_after_run` turns
the invariant into a statement about runs, and `alike_after_filter` says that commands about other
ids and sweeps change nothing.
-/

namespace FormEngine

namespace Store

lemma isChain_concat {σ : Type} {R : σ → σ → Prop} {a b : σ} {l : List σ} :
    (a :: l ++ [b]).IsChain R ↔ (a :: l).IsChain R ∧ R (l.getLastD a) b := by
  rw [List.isChain_append]
  simp [List.getLast?_cons, List.getLastD_eq_getLast?]

variable {τ : Type} [Clock τ]

/-! ## Runs -/

/-- What can be asked of a store. -/
inductive Command where
  | mount (today : Date) (id : Text) (form : Form) (compiled : Traced Checklist)
  | access (id : Text)
  | remove (id : Text)
  | dropExpired
  | size
  | ids

/-- A command and the reading of the clock at which it is carried out. -/
structure Timed (τ : Type) where
  now : τ
  command : Command

/-- Whether a command is about an id. -/
def Timed.isAbout (id : Text) (e : Timed τ) : Bool :=
  match e.command with
  | .mount _ key _ _ => key = id
  | .access key => key = id
  | .remove key => key = id
  | _ => false

omit [Clock τ] in
/-- A command about an id mounts it, accesses it or removes it. -/
lemma Timed.command_of_isAbout {e : Timed τ} {id : Text} (h : e.isAbout id = true) :
    (∃ today form compiled, e.command = .mount today id form compiled) ∨
      e.command = .access id ∨ e.command = .remove id := by
  obtain ⟨now, command⟩ := e
  cases command with
  | mount today key form compiled =>
      obtain rfl : key = id := of_decide_eq_true h
      exact .inl ⟨today, form, compiled, rfl⟩
  | access key =>
      obtain rfl : key = id := of_decide_eq_true h
      exact .inr (.inl rfl)
  | remove key =>
      obtain rfl : key = id := of_decide_eq_true h
      exact .inr (.inr rfl)
  | dropExpired => cases h
  | size => cases h
  | ids => cases h

/-- The store after a command. -/
def next (st : Store τ) (e : Timed τ) : Store τ :=
  match e.command with
  | .mount today id form compiled => (st.mount today e.now id form compiled).2
  | .access id => (st.access e.now id).2
  | .remove id => (st.remove id).2
  | .dropExpired => (st.dropExpired e.now).2
  | .size => st
  | .ids => st

/-- The store after a run. -/
def after (st : Store τ) (run : List (Timed τ)) : Store τ := run.foldl next st

/-- A command in a run, and the store before it. -/
structure Moment (τ : Type) extends Timed τ where
  before : Store τ

/-- The moments of a run. -/
def moments (st : Store τ) : List (Timed τ) → List (Moment τ)
  | [] => []
  | e :: run => ⟨e, st⟩ :: (st.next e).moments run

lemma moments_concat (st : Store τ) (run : List (Timed τ)) (e : Timed τ) :
    st.moments (run ++ [e]) = st.moments run ++ [⟨e, st.after run⟩] := by
  induction run generalizing st with
  | nil => rfl
  | cons e' run ih => exact congrArg (_ :: ·) (ih (st.next e'))

lemma after_concat (st : Store τ) (run : List (Timed τ)) (e : Timed τ) :
    st.after (run ++ [e]) = (st.after run).next e :=
  List.foldl_concat ..

namespace Moment

/-- The session that a moment mounts under an id. -/
def mounted? (m : Moment τ) (id : Text) : Option (Session τ) :=
  match m.command with
  | .mount today key form compiled =>
    if key = id then (m.before.mount today m.now key form compiled).1.result.toOption else none
  | _ => none

/-- Whether a moment is an access that finds a session under an id. -/
def finds (m : Moment τ) (id : Text) : Bool :=
  match m.command with
  | .access key => key = id && (m.before.access m.now key).1.result.toOption.join.isSome
  | _ => false

/-- Whether a moment removes an id on purpose. -/
def removes (m : Moment τ) (id : Text) : Bool :=
  match m.command with
  | .remove key => key = id
  | _ => false

end Moment

/-! ## Stays -/

/-- The session that has been mounted last under an id, with the times of its accesses, of which
mounting it is the first. -/
structure Stay (τ : Type) where
  session : Session τ
  first : τ
  more : List τ := []

namespace Stay

/-- The session of a stay with the stamp of its last access. -/
def current (stay : Stay τ) : Session τ := stay.session.touch (stay.more.getLastD stay.first)

/-- The stay under an id after a moment. -/
def next (id : Text) (stay : Option (Stay τ)) (m : Moment τ) : Option (Stay τ) :=
  match m.mounted? id with
  | some s => some ⟨s, m.now, []⟩
  | none =>
    if m.removes id then none
    else if m.finds id then stay.map fun stay => { stay with more := stay.more ++ [m.now] }
    else stay

/-- The stay under an id that some moments lead to. -/
def of (id : Text) (ms : List (Moment τ)) : Option (Stay τ) := ms.foldl (next id) none

end Stay

/-- Whether no more time than a timeout passes from one reading to the next. -/
def Within (timeout : Number) (earlier now : τ) : Prop := Clock.exceeds now earlier timeout = false

/-- The live session under an id is the one of its stay, at every time after a run. -/
structure Tracks [LE τ] (id : Text) (run : List (Timed τ)) (st : Store τ)
    (stay : Option (Stay τ)) : Prop where
  live?_eq : ∀ later, (∀ e ∈ run, e.now ≤ later) → st.live? later id =
    (stay.map Stay.current).filter fun s => !s.hasExpired later st.timeout
  chain : ∀ t, stay = some t → (t.first :: t.more).IsChain (Within st.timeout)

lemma next_timeout (st : Store τ) (e : Timed τ) : (st.next e).timeout = st.timeout := by
  obtain ⟨now, command⟩ := e
  cases command with
  | mount today key form compiled => exact mount_timeout
  | access key => exact access_timeout
  | remove key => rfl
  | dropExpired => rfl
  | size => rfl
  | ids => rfl

lemma after_timeout (st : Store τ) (run : List (Timed τ)) :
    (st.after run).timeout = st.timeout := by
  induction run generalizing st with
  | nil => rfl
  | cons e run ih => exact (ih (st.next e)).trans (next_timeout st e)

/-- A command that is not about an id leaves its view of every later time alone. -/
lemma live?_next_of_not_about [LE τ] [SteadyClock τ] {st : Store τ} {e : Timed τ} {id : Text}
    {later : τ} (h : e.isAbout id = false) (hle : e.now ≤ later) :
    (st.next e).live? later id = st.live? later id := by
  obtain ⟨now, command⟩ := e
  cases command with
  | mount today key form compiled => exact live?_mount_of_ne hle (Ne.symm (of_decide_eq_false h))
  | access key => exact live?_access_of_ne (Ne.symm (of_decide_eq_false h))
  | remove key => exact live?_remove_of_ne (Ne.symm (of_decide_eq_false h))
  | dropExpired => exact live?_dropExpired hle
  | size => rfl
  | ids => rfl

/-- Nor does it touch its stay. -/
lemma Stay.next_of_not_about {e : Timed τ} {id : Text} (h : e.isAbout id = false) (st : Store τ)
    (stay : Option (Stay τ)) : Stay.next id stay ⟨e, st⟩ = stay := by
  obtain ⟨now, command⟩ := e
  cases command with
  | mount today key form compiled =>
      simp [Stay.next, Moment.mounted?, Moment.removes, Moment.finds, of_decide_eq_false h]
  | access key =>
      simp [Stay.next, Moment.mounted?, Moment.removes, Moment.finds, of_decide_eq_false h]
  | remove key =>
      simp [Stay.next, Moment.mounted?, Moment.removes, Moment.finds, of_decide_eq_false h]
  | dropExpired => rfl
  | size => rfl
  | ids => rfl

lemma Moment.mounted?_eq_some_iff {m : Moment τ} {id : Text} {s : Session τ} :
    m.mounted? id = some s ↔ ∃ today form compiled, m.command = .mount today id form compiled ∧
      (m.before.mount today m.now id form compiled).1.result = .ok s := by
  obtain ⟨⟨now, command⟩, st⟩ := m
  cases command with
  | mount today key form compiled =>
      show (if key = id then (st.mount today now key form compiled).1.result.toOption else none) =
        some s ↔ _
      split
      next hkey =>
        subst hkey
        have htoOption : ∀ r : Except Fault (Session τ), r.toOption = some s ↔ r = .ok s := by
          rintro (_ | _) <;> simp [Except.toOption]
        simp [htoOption]
      next hkey => simp [hkey]
  | access key => simp [Moment.mounted?]
  | remove key => simp [Moment.mounted?]
  | dropExpired => simp [Moment.mounted?]
  | size => simp [Moment.mounted?]
  | ids => simp [Moment.mounted?]

/-- A mounted session bears the time of its mounting. -/
lemma touch_of_launch {st : Store τ} {today : Date} {now : τ} {id : Text} {form : Form}
    {compiled : Traced Checklist} {s : Session τ}
    (h : (st.mount today now id form compiled).1.result = .ok s) : s.touch now = s := by
  rw [mount_result, launch_eq_ok] at h
  obtain ⟨-, -, -, -, rfl⟩ := h
  rfl

/-- An access finds something exactly if there is a live session. -/
lemma Moment.finds_access (st : Store τ) (now : τ) (id : Text) :
    Moment.finds ⟨⟨now, .access id⟩, st⟩ id = (st.live? now id).isSome := by
  simp only [finds, decide_true, Bool.true_and, access_result]
  cases st.live? now id <;> rfl

namespace Tracks

variable [LE τ] {id : Text} {run : List (Timed τ)} {st : Store τ} {stay : Option (Stay τ)}

/-- A moment that cannot be seen under an id and leaves its stay alone. -/
lemma of_quiet (h : Tracks id run st stay) {e : Timed τ}
    (hlive : ∀ later, e.now ≤ later → (st.next e).live? later id = st.live? later id)
    (hstay : Stay.next id stay ⟨e, st⟩ = stay) :
    Tracks id (run ++ [e]) (st.next e) (Stay.next id stay ⟨e, st⟩) where
  live?_eq later hlater := by
    rw [hlive later (hlater e (by simp)), hstay, next_timeout]
    exact h.live?_eq later fun e' he' => hlater e' (by simp [he'])
  chain t ht := by
    rw [next_timeout]
    exact h.chain t (hstay ▸ ht)

variable [SteadyClock τ]

lemma mount (h : Tracks id run st stay) (today : Date) (now : τ) (form : Form)
    (compiled : Traced Checklist) :
    Tracks id (run ++ [⟨now, .mount today id form compiled⟩])
      (st.next ⟨now, .mount today id form compiled⟩)
      (Stay.next id stay ⟨⟨now, .mount today id form compiled⟩, st⟩) := by
  cases hresult : (st.mount today now id form compiled).1.result with
  | error fault =>
      refine h.of_quiet (fun later hle => live?_mount_of_error hle hresult) ?_
      simp [Stay.next, Moment.mounted?, hresult, Except.toOption, Moment.removes, Moment.finds]
  | ok s =>
      have hstay : Stay.next id stay ⟨⟨now, .mount today id form compiled⟩, st⟩ =
          some ⟨s, now, []⟩ := by
        simp [Stay.next, Moment.mounted?, hresult, Except.toOption]
      rw [hstay]
      refine ⟨fun later _ => ?_, fun t ht => ?_⟩
      · have hcurrent : Stay.current ⟨s, now, []⟩ = s := touch_of_launch hresult
        rw [Option.map_some, hcurrent, next_timeout]
        exact live?_mount_self hresult
      · obtain rfl := Option.some.inj ht
        exact List.isChain_singleton _

/-- An access prolongs the stay of a live session; any other finds nothing, now and later. -/
lemma access (h : Tracks id run st stay) {now : τ} (hnow : ∀ e ∈ run, e.now ≤ now) :
    Tracks id (run ++ [⟨now, .access id⟩]) (st.next ⟨now, .access id⟩)
      (Stay.next id stay ⟨⟨now, .access id⟩, st⟩) := by
  have hnext : ∀ later, (st.next ⟨now, .access id⟩).live? later id =
      ((st.live? now id).map (·.touch now)).filter fun s => !s.hasExpired later st.timeout := by
    intro later
    show (st.access now id).2.live? later id = _
    rw [live?, get?_access_self, access_timeout]
  have hfinds := Moment.finds_access st now id
  cases hlive : st.live? now id with
  | none =>
      rw [hlive] at hnext hfinds
      refine h.of_quiet (fun later hle => ?_) ?_
      · rw [hnext, live?_eq_none_later hle hlive]
        rfl
      · simp [Stay.next, Moment.mounted?, Moment.removes, hfinds]
  | some s =>
      rw [hlive] at hnext hfinds
      have htracked := h.live?_eq now hnow
      rw [hlive, eq_comm, Option.filter_eq_some_iff, Option.map_eq_some_iff] at htracked
      obtain ⟨⟨t, rfl, rfl⟩, hwithin⟩ := htracked
      have hstay : Stay.next id (some t) ⟨⟨now, .access id⟩, st⟩ =
          some { t with more := t.more ++ [now] } := by
        simp [Stay.next, Moment.mounted?, Moment.removes, hfinds]
      rw [hstay]
      refine ⟨fun later _ => ?_, fun t' ht' => ?_⟩
      · have hcurrent : Stay.current { t with more := t.more ++ [now] } = t.current.touch now := by
          rw [Stay.current, List.getLastD_concat]
          rfl
        rw [hnext, next_timeout]
        simp only [Option.map_some, hcurrent]
      · obtain rfl := Option.some.inj ht'
        rw [next_timeout]
        refine isChain_concat.2 ⟨h.chain t rfl, ?_⟩
        rw [Bool.not_eq_true'] at hwithin
        exact hwithin

omit [SteadyClock τ] in
lemma remove (st : Store τ) (now : τ) (stay : Option (Stay τ)) :
    Tracks id (run ++ [⟨now, .remove id⟩]) (st.next ⟨now, .remove id⟩)
      (Stay.next id stay ⟨⟨now, .remove id⟩, st⟩) := by
  have hstay : Stay.next id stay ⟨⟨now, .remove id⟩, st⟩ = none := by
    simp [Stay.next, Moment.mounted?, Moment.removes]
  rw [hstay]
  exact ⟨fun later _ => live?_remove_self, fun t ht => by cases ht⟩

/-- Every command keeps track of an id, whether it is about it or not. -/
theorem next (h : Tracks id run st stay) {e : Timed τ} (hnow : ∀ e' ∈ run, e'.now ≤ e.now) :
    Tracks id (run ++ [e]) (st.next e) (Stay.next id stay ⟨e, st⟩) := by
  cases habout : e.isAbout id with
  | false =>
      exact h.of_quiet (fun _ hle => live?_next_of_not_about habout hle)
        (Stay.next_of_not_about habout st stay)
  | true =>
      obtain ⟨now, command⟩ := e
      obtain ⟨today, form, compiled, rfl⟩ | rfl | rfl := Timed.command_of_isAbout habout
      · exact h.mount today now form compiled
      · exact h.access hnow
      · exact remove st now stay

/-- What a run with an empty store comes to is told by its moments. -/
theorem after (timeout : Number) (id : Text) {run : List (Timed τ)}
    (ordered : run.Pairwise fun a b => a.now ≤ b.now) :
    Tracks id run (({ timeout } : Store τ).after run)
      (Stay.of id (({ timeout } : Store τ).moments run)) := by
  induction run using List.reverseRecOn with
  | nil => exact ⟨fun _ _ => rfl, fun t ht => by cases ht⟩
  | append_singleton run e ih =>
      rw [List.pairwise_append] at ordered
      have hnow : ∀ e' ∈ run, e'.now ≤ e.now :=
        fun e' he' => ordered.2.2 e' he' e (List.mem_singleton_self e)
      rw [moments_concat, after_concat, Stay.of, List.foldl_concat]
      exact (ih ordered.1).next hnow

end Tracks

/-! ## Stays told by their moments -/

namespace Stay

/-- Whether a moment neither mounts a session under an id nor removes one. -/
def Quiet (id : Text) (m : Moment τ) : Prop := m.mounted? id = none ∧ m.removes id = false

lemma next_of_quiet {id : Text} {m : Moment τ} (h : Quiet id m) (stay : Option (Stay τ)) :
    next id stay m = stay.map fun t =>
      { t with more := t.more ++ ([m].filter (·.finds id)).map (·.now) } := by
  rw [next, h.1, h.2]
  cases hfinds : m.finds id <;> cases stay <;> simp [hfinds]

/-- In quiet moments, a stay is prolonged by those that find something. -/
lemma foldl_of_quiet {id : Text} {ms : List (Moment τ)} (h : ∀ m ∈ ms, Quiet id m)
    (t : Stay τ) : ms.foldl (next id) (some t) =
      some { t with more := t.more ++ (ms.filter (·.finds id)).map (·.now) } := by
  induction ms generalizing t with
  | nil => simp
  | cons m ms ih =>
      obtain ⟨hm, hms⟩ := List.forall_mem_cons.1 h
      have hsplit : (m :: ms).filter (·.finds id) =
          [m].filter (·.finds id) ++ ms.filter (·.finds id) := List.filter_append [m] ms
      rw [List.foldl_cons, next_of_quiet hm, Option.map_some, ih hms, hsplit, List.map_append,
        List.append_assoc]

/-- A stay begins with a mounting and lasts as long as all is quiet. -/
lemma of_append {id : Text} {m : Moment τ} {s : Session τ} (before : List (Moment τ))
    {since : List (Moment τ)} (hm : m.mounted? id = some s) (h : ∀ m' ∈ since, Quiet id m') :
    of id (before ++ m :: since) = some ⟨s, m.now, (since.filter (·.finds id)).map (·.now)⟩ := by
  have hnext : ∀ stay, next id stay m = some ⟨s, m.now, []⟩ := fun stay => by rw [next, hm]
  rw [of, List.foldl_append, List.foldl_cons, hnext, foldl_of_quiet h, List.nil_append]

/-- Every stay has begun with a mounting, since when all has been quiet. -/
lemma exists_of_eq_some {id : Text} {ms : List (Moment τ)} {t : Stay τ}
    (h : of id ms = some t) :
    ∃ before m since, ms = before ++ m :: since ∧ m.mounted? id = some t.session ∧
      ∀ m' ∈ since, Quiet id m' := by
  induction ms using List.reverseRecOn generalizing t with
  | nil => cases h
  | append_singleton ms m ih =>
      rw [of, List.foldl_concat, ← of] at h
      cases hm : m.mounted? id with
      | some s =>
          rw [next, hm] at h
          obtain rfl := Option.some.inj h
          exact ⟨ms, m, [], rfl, hm, fun _ h => absurd h List.not_mem_nil⟩
      | none =>
          cases hremoves : m.removes id with
          | true =>
              rw [next, hm, hremoves] at h
              cases h
          | false =>
              have hquiet : Quiet id m := ⟨hm, hremoves⟩
              rw [next_of_quiet hquiet, Option.map_eq_some_iff] at h
              obtain ⟨t', ht', rfl⟩ := h
              obtain ⟨before, x, since, rfl, hx, hsince⟩ := ih ht'
              refine ⟨before, x, since ++ [m], by simp, hx, ?_⟩
              exact List.forall_mem_append.2 ⟨hsince, List.forall_mem_singleton.2 hquiet⟩

end Stay

/-! ## Commands about other ids -/

section

variable [Preorder τ] [SteadyClock τ]

lemma Alike.next {id : Text} {st st' : Store τ} {e : Timed τ} (habout : e.isAbout id = true)
    (h : Alike id e.now st st') : Alike id e.now (st.next e) (st'.next e) := by
  obtain ⟨now, command⟩ := e
  obtain ⟨today, form, compiled, rfl⟩ | rfl | rfl := Timed.command_of_isAbout habout
  · exact h.mount
  · exact h.access
  · exact h.remove

/-- Under an id, a run looks as if only the commands about it had been carried out. -/
theorem alike_after_filter (st : Store τ) (id : Text) {run : List (Timed τ)} {now : τ}
    (ordered : run.Pairwise fun a b => a.now ≤ b.now) (current : ∀ e ∈ run, e.now ≤ now) :
    Alike id now (st.after run) (st.after (run.filter (·.isAbout id))) :=
  Alike.foldl_filter next_timeout (fun _ _ _ habout hle => live?_next_of_not_about habout hle)
    Alike.next st ordered current

end

/-- Nothing comes under an id, except by mounting it. -/
lemma live?_next_eq_none [Preorder τ] [SteadyClock τ] {st : Store τ} {e : Timed τ} {id : Text}
    (h : st.live? e.now id = none) (hunmounted : Moment.mounted? ⟨e, st⟩ id = none) :
    (st.next e).live? e.now id = none := by
  cases habout : e.isAbout id with
  | false => rw [live?_next_of_not_about habout le_rfl, h]
  | true =>
      obtain ⟨now, command⟩ := e
      obtain ⟨today, form, compiled, rfl⟩ | rfl | rfl := Timed.command_of_isAbout habout
      · cases hresult : (st.mount today now id form compiled).1.result with
        | error fault => exact (live?_mount_of_error le_rfl hresult).trans h
        | ok s =>
            have hmounted : Moment.mounted? ⟨⟨now, .mount today id form compiled⟩, st⟩ id =
                some s := Moment.mounted?_eq_some_iff.2 ⟨today, form, compiled, rfl, hresult⟩
            rw [hunmounted] at hmounted
            cases hmounted
      · show (st.access now id).2.live? now id = none
        rw [live?, get?_access_self, show st.live? now id = none from h]
        rfl
      · exact live?_remove_self

/-- Nothing comes under an id in a run that does not mount it. -/
lemma live?_after_eq_none [Preorder τ] [SteadyClock τ] {st : Store τ} {now later : τ} {id : Text}
    {run : List (Timed τ)} (ordered : run.Pairwise fun a b => a.now ≤ b.now)
    (hrun : ∀ e ∈ run, now ≤ e.now ∧ e.now ≤ later) (hlater : now ≤ later)
    (h : st.live? now id = none) (hunmounted : ∀ m ∈ st.moments run, m.mounted? id = none) :
    (st.after run).live? later id = none := by
  induction run generalizing st now with
  | nil => exact live?_eq_none_later hlater h
  | cons e run ih =>
      obtain ⟨hfirst, hordered⟩ := List.pairwise_cons.1 ordered
      obtain ⟨he, hrun⟩ := List.forall_mem_cons.1 hrun
      obtain ⟨hm, hmoments⟩ := List.forall_mem_cons.1 hunmounted
      have hnext : (st.next e).live? e.now id = none :=
        live?_next_eq_none (live?_eq_none_later he.1 h) hm
      exact ih hordered (fun e' he' => ⟨hfirst e' he', (hrun e' he').2⟩) he.2 hnext hmoments

/-! ## Serial numbers -/

/-- Mounting takes the next serial number. -/
lemma serial_of_mounted {m : Moment τ} {id : Text} {s : Session τ} (h : m.mounted? id = some s) :
    s.serial = m.before.mounted ∧ (m.before.next m.toTimed).mounted = s.serial + 1 := by
  obtain ⟨today, form, compiled, hcommand, hresult⟩ := Moment.mounted?_eq_some_iff.1 h
  have hserial : s.serial = m.before.mounted := by
    rw [mount_result, launch_eq_ok] at hresult
    obtain ⟨-, -, -, -, rfl⟩ := hresult
    rfl
  refine ⟨hserial, ?_⟩
  rw [next, hcommand]
  show (m.before.mount today m.now id form compiled).2.mounted = _
  rw [mount_of_ok hresult, hserial]

/-- No command gives a serial number back. -/
lemma mounted_le_next (st : Store τ) (e : Timed τ) : st.mounted ≤ (st.next e).mounted := by
  obtain ⟨now, command⟩ := e
  cases command with
  | mount today key form compiled =>
      show st.mounted ≤ (st.mount today now key form compiled).2.mounted
      cases h : (st.mount today now key form compiled).1.result with
      | error fault => exact (congrArg Store.mounted (mount_of_error h)).ge
      | ok s => exact (Nat.le_succ _).trans (congrArg Store.mounted (mount_of_ok h)).ge
  | access key =>
      show st.mounted ≤ (st.access now key).2.mounted
      unfold access
      split
      · exact le_rfl
      · split <;> exact le_rfl
  | remove key => exact le_rfl
  | dropExpired => exact le_rfl
  | size => exact le_rfl
  | ids => exact le_rfl

lemma mounted_le_of_mem_moments {st : Store τ} {run : List (Timed τ)} {m : Moment τ}
    (h : m ∈ st.moments run) : st.mounted ≤ m.before.mounted := by
  induction run generalizing st with
  | nil => exact absurd h List.not_mem_nil
  | cons e run ih =>
      rcases List.mem_cons.1 h with rfl | h
      · exact le_rfl
      · exact (mounted_le_next st e).trans (ih h)

/-- Whoever is mounted later in a run has a greater serial number. -/
lemma serials_increase (st : Store τ) (run : List (Timed τ)) :
    (st.moments run).Pairwise fun m m' => ∀ id id' s s', m.mounted? id = some s →
      m'.mounted? id' = some s' → s.serial < s'.serial := by
  induction run generalizing st with
  | nil => exact List.Pairwise.nil
  | cons e run ih =>
      refine List.pairwise_cons.2 ⟨fun m' hm' id id' s s' h h' => ?_, ih (st.next e)⟩
      have hnext : (st.next e).mounted = s.serial + 1 := (serial_of_mounted h).2
      have hlater : (st.next e).mounted ≤ m'.before.mounted := mounted_le_of_mem_moments hm'
      have hserial : s'.serial = m'.before.mounted := (serial_of_mounted h').1
      omega

/-! ## What can be told from outside -/

end Store

/-- Whether a span of time is no longer than so many seconds.  Nothing is longer than infinitely
many, or than what is not a number. -/
def Number.Allows (seconds : Number) (span : Rat) : Prop :=
  match seconds.extent? with
  | some .lowest => False
  | some (.at limit) => span ≤ limit
  | some .highest => True
  | none => True

lemma within_iff_allows {timeout : Number} {earlier now : Rat} :
    Store.Within timeout earlier now ↔ timeout.Allows (now - earlier) := by
  show timeout.extent?.any (fun e => e.lt (.at (now - earlier))) = false ↔ _
  unfold Number.Allows
  cases timeout.extent? with
  | none => simp
  | some e => cases e <;> simp [Extent.lt]

namespace Store

/-- The session that ideal idle expiry grants under an id at a time: the one mounted last, unless it
has been removed since, or has once been left alone for longer than the timeout. -/
def Granted (timeout : Number) (ms : List (Moment Rat)) (now : Rat) (id : Text)
    (s : Session Rat) : Prop :=
  ∃ before m since created, ms = before ++ m :: since ∧ m.mounted? id = some created ∧
    (∀ m' ∈ since, m'.mounted? id = none ∧ m'.removes id = false) ∧
    (m.now :: (since.filter (·.finds id)).map (·.now) ++ [now]).IsChain
      (fun earlier later => timeout.Allows (later - earlier)) ∧
    s = created.touch now

variable {timeout : Number} {run : List (Timed Rat)} {now : Rat} {id : Text}

/-- What is granted is what is live. -/
lemma granted_iff_live (ordered : run.Pairwise fun a b => a.now ≤ b.now)
    (current : ∀ e ∈ run, e.now ≤ now) (s : Session Rat) :
    Granted timeout (({ timeout } : Store Rat).moments run) now id s ↔
      ((({ timeout } : Store Rat).after run).live? now id).map (·.touch now) = some s := by
  have htracks := Tracks.after timeout id ordered
  have htimeout : (({ timeout } : Store Rat).after run).timeout = timeout := after_timeout _ run
  have hchains : ∀ times : List Rat,
      times.IsChain (fun earlier later => timeout.Allows (later - earlier)) ↔
        times.IsChain (Within timeout) := fun times =>
    ⟨.imp fun _ _ => within_iff_allows.2, .imp fun _ _ => within_iff_allows.1⟩
  rw [Option.map_eq_some_iff]
  constructor
  · rintro ⟨before, m, since, created, hmoments, hm, hsince, hchain, rfl⟩
    rw [hchains, isChain_concat] at hchain
    rw [hmoments, Stay.of_append before hm hsince] at htracks
    refine ⟨Stay.current ⟨created, m.now, (since.filter (·.finds id)).map (·.now)⟩, ?_, rfl⟩
    rw [htracks.live?_eq now current, Option.filter_eq_some_iff, htimeout]
    refine ⟨rfl, ?_⟩
    rw [Bool.not_eq_true']
    exact hchain.2
  · rintro ⟨live, hlive, rfl⟩
    rw [htracks.live?_eq now current, Option.filter_eq_some_iff, Option.map_eq_some_iff,
      Bool.not_eq_true', htimeout] at hlive
    obtain ⟨⟨stay, hstay, rfl⟩, hwithin⟩ := hlive
    obtain ⟨before, m, since, hmoments, hm, hsince⟩ := Stay.exists_of_eq_some hstay
    have hof : stay = ⟨stay.session, m.now, (since.filter (·.finds id)).map (·.now)⟩ := by
      rw [← Option.some.injEq, ← hstay, hmoments, Stay.of_append before hm hsince]
    have hchain : (stay.first :: stay.more).IsChain (Within timeout) :=
      htimeout ▸ htracks.chain stay hstay
    refine ⟨before, m, since, stay.session, hmoments, hm, hsince, ?_, rfl⟩
    rw [hchains, isChain_concat]
    rw [hof] at hchain hwithin
    exact ⟨hchain, hwithin⟩

/-- A store refines ideal idle expiry.  An access at the end of any run answers, and it gets exactly
what is granted: the session mounted last under the id, with the time of the access as its last
one.  What is not granted is not granted later on either, until the id is mounted again.  Whatever
else happens in the run, as the removal of expired sessions, has no part in this, and a serial
number is never given twice. -/
theorem access_after_run (timeout : Number) {run : List (Timed Rat)} {now : Rat} (id : Text)
    (ordered : run.Pairwise fun a b => a.now ≤ b.now) (current : ∀ e ∈ run, e.now ≤ now) :
    let start : Store Rat := { timeout }
    let answered := (start.after run).access now id
    ∃ found, answered.1.result = .ok found ∧
      (∀ s, found = some s ↔ Granted timeout (start.moments run) now id s) ∧
      answered.2.sessions.get? id = found ∧
      (found = none → ∀ (more : List (Timed Rat)) (later : Rat),
        (more.Pairwise fun a b => a.now ≤ b.now) → (∀ e ∈ more, now ≤ e.now ∧ e.now ≤ later) →
        now ≤ later → (∀ m ∈ answered.2.moments more, m.mounted? id = none) →
        ((answered.2.after more).access later id).1.result = .ok none) ∧
      (∀ run' : List (Timed Rat), (run'.Pairwise fun a b => a.now ≤ b.now) →
        (∀ e ∈ run', e.now ≤ now) → run'.filter (·.isAbout id) = run.filter (·.isAbout id) →
        ∃ found', ((start.after run').access now id).1.result = .ok found' ∧
          found'.map Session.unnumbered = found.map Session.unnumbered) ∧
      (start.moments run).Pairwise fun m m' => ∀ id id' s s', m.mounted? id = some s →
        m'.mounted? id' = some s' → s.serial ≠ s'.serial := by
  intro start answered
  refine ⟨((start.after run).live? now id).map (·.touch now), access_result, fun s => ?_,
    get?_access_self, fun hnone more later hordered hmore hlater hunmounted => ?_,
    fun run' ordered' current' hfilter => ?_, ?_⟩
  · exact (granted_iff_live ordered current s).symm
  · have hgone : answered.2.live? now id = none := by
      rw [live?, get?_access_self, hnone]
      rfl
    rw [access_result, live?_after_eq_none hordered hmore hlater hgone hunmounted]
    rfl
  · refine ⟨_, access_result, ?_⟩
    have halike := alike_after_filter start id ordered current
    have halike' := alike_after_filter start id ordered' current'
    rw [hfilter] at halike'
    exact halike'.access_result_eq.trans halike.access_result_eq.symm
  · exact (serials_increase start run).imp fun h id id' s s' hs hs' => (h id id' s s' hs hs').ne

/-- Two sessions are mounted.  The first one is asked for again when just as much time has passed as
may pass. -/
def visits : List (Timed Rat) := [
  ⟨0, .mount Draft.tripDay "first" Draft.trip Draft.trip.compile⟩,
  ⟨1000, .access "first"⟩,
  ⟨2000, .mount Draft.tripDay "second" Draft.trip Draft.trip.compile⟩,
  ⟨2800, .access "first"⟩]

theorem access_after_visits :
    (visits.Pairwise fun a b => a.now ≤ b.now) ∧ (∀ e ∈ visits, e.now ≤ 4600) ∧
      ∃ s, ((({} : Store Rat).after visits).access 4600 "first").1.result = .ok (some s) ∧
        Granted defaultTimeout (({} : Store Rat).moments visits) 4600 "first" s := by
  have ordered : visits.Pairwise fun a b => a.now ≤ b.now := by decide
  have current : ∀ e ∈ visits, e.now ≤ 4600 := by decide
  have hlive : ((({} : Store Rat).after visits).live? 4600 "first").isSome = true := by
    decide +kernel
  obtain ⟨s, hs⟩ := Option.isSome_iff_exists.1 hlive
  obtain ⟨found, hresult, hgranted, -⟩ := access_after_run defaultTimeout "first" ordered current
  obtain rfl : some (s.touch 4600) = found := by
    have := access_result.symm.trans hresult
    rw [hs] at this
    exact Except.ok.inj this
  exact ⟨ordered, current, s.touch 4600, hresult, (hgranted _).1 rfl⟩

end Store

end FormEngine
