import FormEngine.Proofs.Check.Faults
import FormEngine.Proofs.Checklist
import FormEngine.Proofs.Checklist.Copies
import FormEngine.Proofs.HandOver

/-!
# Which predicates are asked, and about what

The events of a judgement tell which predicates it has asked, in order: `Traced.questions` reads
that off.  A gate asks its predicate once if the value passes its check, about the converted value
and in the light of all values, and never otherwise (`Gate.question?`).

A walk through the gates of a checklist asks these questions one after the other, up to and
including the first gate with a fault (`Checklist.upTo`).  There are two kinds of faults.  A
predicate may fail, and then no other is to be asked: up to there the questions are `due`.  Or a
check has no answer, and then predicates are passed over that are due all the same, unless there are
none.

`Checklist.AsksInTurn` says all this of a judgement, and `Checklist.asksInTurn` that it holds of
every one.
-/

namespace FormEngine

/-- What a predicate is asked: the field it belongs to, the value it is to judge, and all values. -/
structure Question where
  field : Text
  value : Value
  values : Mapping Value

/-- The question that is asked in an event. -/
def Event.question? : Event → Option Question
  | .asked field value values => some ⟨field, value, values⟩
  | _ => none

namespace Traced

variable {α β : Type}

/-- All questions to predicates during an operation, in order. -/
def questions (t : Traced α) : List Question := t.events.filterMap Event.question?

lemma questions_bind_of_ok {t : Traced α} {a : α} (h : t.result = .ok a) (f : α → Traced β) :
    (t >>= f).questions = t.questions ++ (f a).questions := by
  rw [questions, events_bind_of_ok h]
  exact List.filterMap_append

lemma questions_bind_of_error {t : Traced α} {fault : Fault} (h : t.result = .error fault)
    (f : α → Traced β) : (t >>= f).questions = t.questions := by
  rw [questions, events_bind_of_error h, questions]

/-- If the second part asks nothing, then only the first asks. -/
lemma questions_bind_of_quiet {t : Traced α} {f : α → Traced β}
    (hf : ∀ a, (f a).questions = []) : (t >>= f).questions = t.questions := by
  cases h : t.result with
  | ok a => rw [questions_bind_of_ok h, hf, List.append_nil]
  | error fault => exact questions_bind_of_error h f

lemma questions_bind_eq_nil {t : Traced α} {f : α → Traced β} (ht : t.questions = [])
    (hf : ∀ a, (f a).questions = []) : (t >>= f).questions = [] :=
  (questions_bind_of_quiet hf).trans ht

/-- The log asks nothing. -/
lemma OnlyLogs.questions_eq {t : Traced α} (h : t.OnlyLogs) : t.questions = [] :=
  List.filterMap_eq_nil_iff.2 fun e he => by
    obtain ⟨line, rfl⟩ := h e he
    rfl

end Traced

/-! ## One gate -/

/-- The fault of a predicate that fails when it is asked about a value and all values. -/
def Predicate.failure? (p : Predicate) (value : Value) (values : Mapping Value) : Option Fault :=
  match p.answer value values with
  | .error message => some (.raised message)
  | .ok _ => none

namespace Gate

/-- The question of a gate about a value: there is one if the gate has a predicate and the value
passes its check. -/
def question? (today : Date) (g : Gate) (v : Value) (values : Mapping Value) : Option Question :=
  match g.check.run today v, g.predicate with
  | .ok converted, some _ => some ⟨g.fieldId, converted, values⟩
  | _, _ => none

/-- The fault of a gate whose check has no answer to a value. -/
def stuck? (today : Date) (g : Gate) (v : Value) : Option Fault :=
  match g.check.run today v with
  | .error (.fault fault) => some fault
  | _ => none

/-- The fault of a gate whose predicate is asked and fails. -/
def raised? (today : Date) (g : Gate) (v : Value) (values : Mapping Value) : Option Fault :=
  match g.check.run today v with
  | .ok converted => g.predicate.bind fun p => p.failure? converted values
  | .error _ => none

/-- The fault of a gate on a value. -/
def fault? (today : Date) (g : Gate) (v : Value) (values : Mapping Value) : Option Fault :=
  (g.stuck? today v).or (g.raised? today v values)

variable {today : Date} {g : Gate} {v : Value} {values : Mapping Value}

lemma question?_eq_some_iff {q : Question} :
    g.question? today v values = some q ↔
      g.predicate.isSome ∧ ∃ converted, g.check.run today v = .ok converted ∧
        q = ⟨g.fieldId, converted, values⟩ := by
  rw [question?]
  rcases g.check.run today v with refusal | converted <;> cases g.predicate <;> simp [eq_comm]

lemma stuck?_eq_some_iff {fault : Fault} :
    g.stuck? today v = some fault ↔ g.check.run today v = .error (.fault fault) := by
  rw [stuck?]
  rcases g.check.run today v with (message | reason) | converted <;> simp

/-- A gate that is stuck asks nothing. -/
lemma question?_of_stuck {fault : Fault} (h : g.stuck? today v = some fault) :
    g.question? today v values = none ∧ g.raised? today v values = none := by
  rw [question?, raised?, stuck?_eq_some_iff.1 h]
  exact ⟨rfl, rfl⟩

end Gate

lemma Predicate.judge_questions (p : Predicate) (field : Text) (given converted : Value)
    (values : Mapping Value) :
    (p.judge field given converted values).questions = [⟨field, converted, values⟩] := by
  refine Traced.questions_bind_of_quiet fun _ => ?_
  split
  · rfl
  · split <;> rfl

/-- A predicate has a fault exactly if it fails. -/
lemma Predicate.judge_eq_error_iff (p : Predicate) (field : Text) (given converted : Value)
    (values : Mapping Value) {fault : Fault} :
    (p.judge field given converted values).result = .error fault ↔
      p.failure? converted values = some fault := by
  rw [judge, failure?, Traced.bind_result_eq_error]
  cases p.answer converted values with
  | error message => simp [Traced.event, Traced.fault]
  | ok answer => cases hverdict : verdictOf answer <;> simp [Traced.event, hverdict]

namespace Gate

variable {today : Date} {g : Gate} {v : Value} {values : Mapping Value}

lemma judge_questions :
    (g.judge today v values).questions = (g.question? today v values).toList := by
  rw [judge, question?]
  rcases g.check.run today v with (message | reason) | converted
  · rfl
  · rfl
  · cases g.predicate with
    | none => rfl
    | some p => exact p.judge_questions ..

lemma judge_eq_error_iff {fault : Fault} :
    (g.judge today v values).result = .error fault ↔ g.fault? today v values = some fault := by
  rw [judge, fault?, stuck?, raised?]
  rcases g.check.run today v with (message | reason) | converted
  · simp
  · simp [Traced.fault]
  · cases g.predicate with
    | none => simp
    | some p => exact p.judge_eq_error_iff ..

/-- A gate that judges a value has no fault on it. -/
lemma fault?_of_judge {j : Judgement} (h : (g.judge today v values).result = .ok j) :
    g.fault? today v values = none := by
  rw [Option.eq_none_iff_forall_ne_some]
  intro fault hfault
  rw [judge_eq_error_iff.2 hfault] at h
  cases h

end Gate

/-! ## A walk through gates -/

namespace Checklist

/-- The question of an entry of a checklist about the value of its field. -/
def question? (today : Date) (values : Mapping Value) (e : Text × Gate) : Option Question :=
  e.2.question? today (valueOf values e.1) values

/-- The fault of an entry whose check has no answer. -/
def stuck? (today : Date) (values : Mapping Value) (e : Text × Gate) : Option Fault :=
  e.2.stuck? today (valueOf values e.1)

/-- The fault of an entry whose predicate fails. -/
def raised? (today : Date) (values : Mapping Value) (e : Text × Gate) : Option Fault :=
  e.2.raised? today (valueOf values e.1) values

/-- The fault of an entry on the value of its field. -/
def fault? (today : Date) (values : Mapping Value) (e : Text × Gate) : Option Fault :=
  e.2.fault? today (valueOf values e.1) values

/-- The entries up to and including the first with a fault of some kind. -/
def upTo (end? : Text × Gate → Option Fault) (gates : List (Text × Gate)) :
    List (Text × Gate) :=
  gates.take (gates.findIdx (fun e => (end? e).isSome) + 1)

/-- The questions that are due: those of all entries up to and including the first whose predicate
fails. -/
def due (today : Date) (values : Mapping Value) (gates : List (Text × Gate)) : List Question :=
  (upTo (raised? today values) gates).filterMap (question? today values)

section upTo

variable {end? : Text × Gate → Option Fault} {e : Text × Gate} {gates : List (Text × Gate)}

lemma upTo_cons_of_some {fault : Fault} (h : end? e = some fault) :
    upTo end? (e :: gates) = [e] := by
  simp [upTo, List.findIdx_cons, h]

lemma upTo_cons_of_none (h : end? e = none) : upTo end? (e :: gates) = e :: upTo end? gates := by
  simp [upTo, List.findIdx_cons, h]

/-- Without a fault every entry counts. -/
lemma upTo_eq_self (h : ∀ e ∈ gates, end? e = none) : upTo end? gates = gates := by
  induction gates with
  | nil => rfl
  | cons e gates ih =>
      obtain ⟨he, hgates⟩ := List.forall_mem_cons.1 h
      rw [upTo_cons_of_none he, ih hgates]

/-- Of what comes after a fault nothing counts. -/
lemma upTo_append_cons {before since : List (Text × Gate)} {fault : Fault}
    (clean : ∀ e' ∈ before, end? e' = none) (h : end? e = some fault) :
    upTo end? (before ++ e :: since) = before ++ [e] := by
  induction before with
  | nil => exact upTo_cons_of_some h
  | cons e' before ih =>
      obtain ⟨he', hbefore⟩ := List.forall_mem_cons.1 clean
      rw [List.cons_append, upTo_cons_of_none he', ih hbefore, List.cons_append]

end upTo

variable {today : Date} {values : Mapping Value} {gates : List (Text × Gate)} {r : Report}

/-- A walk asks the questions of the entries that it comes to, in their order. -/
lemma judgeFrom_questions :
    (judgeFrom today values none gates r).questions =
      (upTo (fault? today values) gates).filterMap (question? today values) := by
  induction gates generalizing r with
  | nil => rfl
  | cons e gates ih =>
      have hhead : (e.2.judge today (valueOf values e.1) values).questions =
          (question? today values e).toList := Gate.judge_questions
      simp only [judgeFrom, Option.all_none, if_true]
      cases hjudge : (e.2.judge today (valueOf values e.1) values).result with
      | error fault =>
          rw [upTo_cons_of_some (Gate.judge_eq_error_iff.1 hjudge),
            Traced.questions_bind_of_error hjudge, hhead]
          cases hq : question? today values e <;> simp [hq]
      | ok j =>
          have hnone : fault? today values e = none := Gate.fault?_of_judge hjudge
          rw [upTo_cons_of_none hnone, Traced.questions_bind_of_ok hjudge, hhead, ih]
          cases hq : question? today values e <;> simp [hq]

/-- The fault of a walk is the first of an entry. -/
lemma judgeFrom_eq_error_iff {fault : Fault} :
    (judgeFrom today values none gates r).result = .error fault ↔
      gates.findSome? (fault? today values) = some fault := by
  induction gates generalizing r with
  | nil => simp [judgeFrom]
  | cons e gates ih =>
      simp only [judgeFrom, Option.all_none, if_true, Traced.bind_result_eq_error, ih,
        List.findSome?_cons]
      cases hjudge : (e.2.judge today (valueOf values e.1) values).result with
      | error reason =>
          have hfault : fault? today values e = some reason := Gate.judge_eq_error_iff.1 hjudge
          simp [hfault]
      | ok j =>
          have hnone : fault? today values e = none := Gate.fault?_of_judge hjudge
          simp [hnone]

/-! ## What is due -/

/-- No predicate that is due comes after an entry that is the first with a fault because its check
has no answer. -/
def Unhindered (today : Date) (values : Mapping Value) (gates : List (Text × Gate)) : Prop :=
  ∀ before e since, gates = before ++ e :: since →
    (∀ e' ∈ before, fault? today values e' = none) → (stuck? today values e).isSome = true →
      due today values since = []

lemma due_cons_of_none {e : Text × Gate} (h : raised? today values e = none) :
    due today values (e :: gates) =
      (question? today values e).toList ++ due today values gates := by
  rw [due, due, upTo_cons_of_none h]
  cases hq : question? today values e <;> simp [hq]

/-- An entry that is not stuck hinders nothing; what comes after it may, unless its predicate
fails. -/
lemma unhindered_cons_iff {e : Text × Gate} (h : stuck? today values e = none) :
    Unhindered today values (e :: gates) ↔
      (fault? today values e = none → Unhindered today values gates) := by
  constructor
  · intro hgates clean before e' since heq hbefore hstuck
    refine hgates (e :: before) e' since (by rw [heq, List.cons_append]) ?_ hstuck
    exact List.forall_mem_cons.2 ⟨clean, hbefore⟩
  · intro hgates before e' since heq hbefore hstuck
    rcases List.cons_eq_append_iff.1 heq with ⟨-, hhead⟩ | ⟨before', rfl, hgates'⟩
    · obtain ⟨rfl, -⟩ := List.cons.inj hhead
      simp [h] at hstuck
    · obtain ⟨clean, hbefore'⟩ := List.forall_mem_cons.1 hbefore
      exact hgates clean before' e' since hgates' hbefore' hstuck

/-- After an entry that is stuck nothing is asked, so that nothing must be due there. -/
lemma unhindered_cons_of_stuck {e : Text × Gate} {fault : Fault}
    (h : stuck? today values e = some fault) :
    Unhindered today values (e :: gates) ↔ due today values gates = [] := by
  constructor
  · exact fun hgates => hgates [] e gates rfl (fun _ he => absurd he List.not_mem_nil) (by simp [h])
  · intro hnone before e' since heq hbefore _
    rcases List.cons_eq_append_iff.1 heq with ⟨-, hhead⟩ | ⟨before', rfl, -⟩
    · obtain ⟨-, rfl⟩ := List.cons.inj hhead
      exact hnone
    · have hclean := (List.forall_mem_cons.1 hbefore).1
      rw [fault?, Gate.fault?, Option.or_eq_none_iff] at hclean
      cases h.symm.trans hclean.1

/-- A walk asks all that is due exactly if no check without an answer hinders it. -/
lemma asked_eq_due_iff :
    (upTo (fault? today values) gates).filterMap (question? today values) =
      due today values gates ↔ Unhindered today values gates := by
  induction gates with
  | nil => simp [upTo, due, Unhindered]
  | cons e gates ih =>
      have hfault : fault? today values e = (stuck? today values e).or (raised? today values e) :=
        rfl
      cases hstuck : stuck? today values e with
      | some fault =>
          obtain ⟨hquestion, hraised⟩ : question? today values e = none ∧
              raised? today values e = none := Gate.question?_of_stuck hstuck
          rw [hstuck, Option.some_or] at hfault
          rw [unhindered_cons_of_stuck hstuck, upTo_cons_of_some hfault, due_cons_of_none hraised,
            List.filterMap_cons_none hquestion, hquestion]
          exact eq_comm
      | none =>
          rw [hstuck, Option.none_or] at hfault
          rw [unhindered_cons_iff hstuck, hfault]
          cases hraised : raised? today values e with
          | some fault =>
              rw [due, upTo_cons_of_some (hfault.trans hraised), upTo_cons_of_some hraised]
              simp
          | none =>
              rw [upTo_cons_of_none (hfault.trans hraised), due_cons_of_none hraised, ← ih]
              cases hq : question? today values e <;> simp [hq]

/-! ## A judgement -/

/-- How a judgement asks predicates. -/
structure AsksInTurn (list : Checklist) (today : Date) (values : Mapping Value)
    (only : Option (List Text)) : Prop where
  /-- The questions are those of the fields that are come to, in the order of the form. -/
  asked : (list.judge today values only).questions =
    (upTo (fault? today values) (chosen only list.gates.entries)).filterMap
      (question? today values)
  /-- With a report, all fields that were asked for have been come to. -/
  completed : ∀ r, (list.judge today values only).result = .ok r →
    upTo (fault? today values) (chosen only list.gates.entries) =
      chosen only list.gates.entries
  /-- With a fault, they have been come to up to and including the first that has one. -/
  stopped : ∀ fault, (list.judge today values only).result = .error fault →
    ∃ before e since, chosen only list.gates.entries = before ++ e :: since ∧
      (∀ e' ∈ before, fault? today values e' = none) ∧ fault? today values e = some fault ∧
      upTo (fault? today values) (chosen only list.gates.entries) = before ++ [e]
  /-- All that is due is asked, unless a check without an answer comes in between. -/
  met : (list.judge today values only).questions =
      due today values (chosen only list.gates.entries) ↔
    Unhindered today values (chosen only list.gates.entries)
  /-- No predicate is asked twice. -/
  once : (∀ e ∈ list.gates.entries, e.2.fieldId = e.1) →
    ((list.judge today values only).questions.map (·.field)).Nodup
  /-- What predicates do to the mappings that they are given makes no difference. -/
  isolated : ∀ conduct address (m : Memory), m.Keeps address values →
    (list.judgeIn conduct today address only m).1 = list.judge today values only

/-- If what is made of the members of a list keeps their keys, the keys are kept in order. -/
lemma map_filterMap_sublist {α β γ : Type} {make : α → Option β} {key : α → γ} {key' : β → γ}
    {as : List α} (h : ∀ a ∈ as, ∀ b, make a = some b → key' b = key a) :
    ((as.filterMap make).map key').Sublist (as.map key) := by
  induction as with
  | nil => exact .slnil
  | cons a as ih =>
      obtain ⟨ha, has⟩ := List.forall_mem_cons.1 h
      cases hmake : make a with
      | none =>
          rw [List.filterMap_cons_none hmake]
          exact (ih has).cons _
      | some b =>
          rw [List.filterMap_cons_some hmake, List.map_cons, List.map_cons, ha b hmake]
          exact (ih has).cons_cons _

lemma judge_eq_error_iff (list : Checklist) (only : Option (List Text)) {fault : Fault} :
    (list.judge today values only).result = .error fault ↔
      (chosen only list.gates.entries).findSome? (fault? today values) = some fault := by
  rw [judge, judgeFrom_eq_chosen, judgeFrom_eq_error_iff]

/-- A report is only made if no field that is asked for has a fault. -/
lemma no_fault_of_judge {list : Checklist} {only : Option (List Text)}
    (h : (list.judge today values only).result = .ok r) :
    ∀ e ∈ chosen only list.gates.entries, fault? today values e = none := by
  rw [← List.findSome?_eq_none_iff, Option.eq_none_iff_forall_ne_some]
  intro fault hfault
  rw [(list.judge_eq_error_iff only).2 hfault] at h
  cases h

lemma judge_questions (list : Checklist) (only : Option (List Text)) :
    (list.judge today values only).questions =
      (upTo (fault? today values) (chosen only list.gates.entries)).filterMap
        (question? today values) := by
  rw [judge, judgeFrom_eq_chosen, judgeFrom_questions]

/-- The fields of the questions are among those that are asked for, in the same order. -/
lemma questions_sublist {list : Checklist} {only : Option (List Text)}
    (named : ∀ e ∈ list.gates.entries, e.2.fieldId = e.1) :
    ((list.judge today values only).questions.map (·.field)).Sublist
      ((chosen only list.gates.entries).map (·.1)) := by
  have hupTo : (upTo (fault? today values) (chosen only list.gates.entries)).Sublist
      (chosen only list.gates.entries) := List.take_sublist ..
  have hfield : ∀ e ∈ upTo (fault? today values) (chosen only list.gates.entries), ∀ q,
      question? today values e = some q → q.field = e.1 := by
    intro e he q hq
    obtain ⟨-, converted, -, rfl⟩ := Gate.question?_eq_some_iff.1 hq
    exact named e (List.mem_of_mem_filter (hupTo.subset he))
  rw [judge_questions]
  exact (map_filterMap_sublist hfield).trans (hupTo.map _)

/-- Predicates are asked one after the other, each at most once and up to the first fault, always in
the light of the same values. -/
theorem asksInTurn (today : Date) (list : Checklist) (values : Mapping Value)
    (only : Option (List Text)) : list.AsksInTurn today values only where
  asked := list.judge_questions only
  met := by rw [judge_questions, asked_eq_due_iff]
  completed := fun _ hr => upTo_eq_self (no_fault_of_judge hr)
  stopped := fun fault hfault => by
    rw [judge_eq_error_iff, List.findSome?_eq_some_iff] at hfault
    obtain ⟨before, e, since, hchosen, he, hbefore⟩ := hfault
    exact ⟨before, e, since, hchosen, hbefore, he, hchosen ▸ upTo_append_cons hbefore he⟩
  once := fun named => (questions_sublist named).nodup (list.nodup_chosen only)
  isolated := fun conduct _ _ h => (judgeIn_spec conduct today h list only).1

end Checklist

end FormEngine
