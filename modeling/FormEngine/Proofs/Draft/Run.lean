import FormEngine.Proofs.Draft.Operation
import FormEngine.Proofs.Form.Agreement

/-!
# Runs of operations

A run carries out operations on a draft one after the other, each on a day of its own, and goes on
after those that fail.  The day matters because a text may denote a date on one day and none on
another: errors are right for the day on which they have been derived.  A `Sitting` therefore keeps
that day beside the draft.  It is no part of the draft, and no operation can see it.

`Operation` makes data of the operations and `perform` carries them out, so that runs can be stated
and proved by induction.  `Sitting.Reached` is what a run that starts with a mounted form can come
to; `Reached.after` says that it holds after every list of operations.
-/

namespace FormEngine

namespace Draft

/-- The same step with another answer. -/
def Step.map {α β : Type} (f : α → β) (s : Step α) : Step β :=
  ⟨⟨s.outcome.events, s.outcome.result.map f⟩, s.draft⟩

/-- Whether a step ends without a fault. -/
def Step.succeeds {α : Type} (s : Step α) : Bool := s.outcome.result.isOk

/-- What can be done to a draft. -/
inductive Operation where
  | write (key value : Value)
  | writeAll (entries : List (Value × Value))
  | touch (key : Value)
  | reset
  | judge
  | submit (receiver : Option Receiver)

/-- The entries whose keys are texts, by these texts. -/
def named (entries : List (Value × Value)) : List (Text × Value) :=
  entries.filterMap fun e =>
    match e.1 with
    | .text id => some (id, e.2)
    | _ => none

/-- The keys that an operation is given. -/
def Operation.keys : Operation → List Value
  | .write key _ => [key]
  | .writeAll entries => entries.map (·.1)
  | .touch key => [key]
  | _ => []

/-- What an operation writes, by the ids of the fields. -/
def Operation.entries : Operation → List (Text × Value)
  | .write key value => named [(key, value)]
  | .writeAll entries => named entries
  | _ => []

/-- Carries out an operation; judging and submitting answer with a report. -/
def perform (today : Date) (d : Draft) : Operation → Step (Option Report)
  | .write key value => (d.write today key value).map fun _ => none
  | .writeAll entries => (d.writeAll today entries).map fun _ => none
  | .touch key => (d.touch key).map fun _ => none
  | .reset => (d.reset today).map fun _ => none
  | .judge => Step.map some ⟨d.judge today, d⟩
  | .submit receiver => (d.submit today receiver).map some

/-- Whether an operation derives the errors of a draft anew: a submission does so as soon as its
report is there, whatever the receiver does. -/
def rejudges (today : Date) (d : Draft) : Operation → Bool
  | .touch _ => false
  | .judge => false
  | .submit _ => (d.judge today).result.isOk
  | op => (d.perform today op).succeeds

/-- An operation and the day on which it is carried out. -/
structure Dated where
  day : Date
  operation : Operation

/-- A draft and the day on which its errors have been derived. -/
structure Sitting where
  draft : Draft
  day : Date

namespace Sitting

/-- The sitting after an operation. -/
def next (s : Sitting) (e : Dated) : Sitting where
  draft := (s.draft.perform e.day e.operation).draft
  day := if s.draft.rejudges e.day e.operation then e.day else s.day

/-- The sitting after a run. -/
def after (s : Sitting) (run : List Dated) : Sitting := run.foldl next s

/-- What a run can come to that starts with the mounting of a form that has been read. -/
inductive Reached (form : Form) (receiver : Option Receiver) : Sitting → Prop
  | mounted {doc : Value} {host : Predicate.Host} {today : Date} {d : Draft} :
      Form.read doc host = .accepted form → (mount today form receiver).result = .ok d →
        Reached form receiver ⟨d, today⟩
  | next {s : Sitting} (e : Dated) : Reached form receiver s → Reached form receiver (s.next e)

variable {form : Form} {receiver : Option Receiver}

lemma Reached.after {s : Sitting} (h : Reached form receiver s) (run : List Dated) :
    Reached form receiver (s.after run) := by
  induction run generalizing s with
  | nil => exact h
  | cons e run ih => exact ih (h.next e)

/-- A form that is mounted in a run has been read. -/
lemma Reached.read {s : Sitting} (h : Reached form receiver s) :
    ∃ doc host, Form.read doc host = .accepted form := by
  induction h with
  | mounted hread _ => exact ⟨_, _, hread⟩
  | next _ _ ih => exact ih

end Sitting

lemma named_texts (written : List (Text × Value)) :
    named (written.map fun e => (.text e.1, e.2)) = written := by
  rw [named, List.filterMap_map]
  exact List.filterMap_some

/-! ## Days -/

lemma Sitting.day_next (s : Sitting) (e : Dated) :
    (s.next e).day = s.day ∨ (s.next e).day = e.day := by
  rw [Sitting.next]
  by_cases h : s.draft.rejudges e.day e.operation = true
  · exact .inr (if_pos h)
  · exact .inl (if_neg h)

/-- The day of a sitting is the one on which it began or that of an operation of the run. -/
lemma Sitting.day_after (s : Sitting) (run : List Dated) :
    (s.after run).day = s.day ∨ ∃ e ∈ run, (s.after run).day = e.day := by
  induction run generalizing s with
  | nil => exact .inl rfl
  | cons e run ih =>
      rcases ih (s.next e) with hday | ⟨e', he', hday⟩
      · rcases s.day_next e with hnext | hnext
        · exact .inl (hday.trans hnext)
        · exact .inr ⟨e, by simp, hday.trans hnext⟩
      · exact .inr ⟨e', by simp [he'], hday⟩

/-! ## Steps of a run -/

lemma Sitting.next_write (s : Sitting) (today : Date) (key value : Value) :
    s.next ⟨today, .write key value⟩ = s.next ⟨today, .writeAll [(key, value)]⟩ := by
  simp only [next, rejudges, perform, write_eq_writeAll]
  rfl

@[simp] lemma Step.map_draft {α β : Type} (f : α → β) (s : Step α) :
    (s.map f).draft = s.draft := rfl

lemma Step.map_result_eq_error {α β : Type} {f : α → β} {s : Step α} {fault : Fault} :
    (s.map f).outcome.result = .error fault ↔ s.outcome.result = .error fault := by
  rw [Step.map]
  cases s.outcome.result <;> simp [Except.map]

lemma Step.map_succeeds {α β : Type} (f : α → β) (s : Step α) :
    (s.map f).succeeds = s.succeeds := by
  rw [Step.succeeds, Step.succeeds, Step.map]
  cases s.outcome.result <;> rfl

lemma Step.map_succeeds_of_ok {α β : Type} (f : α → β) {s : Step α} {a : α}
    (h : s.outcome.result = .ok a) : (s.map f).succeeds = true := by
  rw [Step.map_succeeds, Step.succeeds, h]
  rfl

lemma Step.Fails.map_succeeds {α β : Type} {s : Step α} {d : Draft} (h : s.Fails d)
    (f : α → β) : (s.map f).succeeds = false := by
  obtain ⟨⟨fault, hfault⟩, -⟩ := h
  rw [Step.map_succeeds, Step.succeeds, hfault]
  rfl

end Draft

end FormEngine
