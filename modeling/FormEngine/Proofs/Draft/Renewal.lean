import FormEngine.Proofs.Draft.Robustness

/-!
# A reset draft is a new one

A reset goes back to the initial values, forgets what has been touched and refused, and keeps one
thing: how many submissions have been accepted.  No operation looks at that number.  `counting`
raises it, and `perform_counting` says that every operation commutes with it: the step of the draft
with the higher number is that of the other one, with the same answer and the same events, and with
the higher number in the draft that it leaves.

So a draft that has been reset and one that has just been mounted go through every run alike
(`alike_after_reset`).  The day matters again, since initial values that can be judged on one day
may stall on another, or get as far as a predicate that fails: a reset ends with a fault exactly on
the days on which mounting does.
-/

namespace FormEngine

namespace Traced

variable {α β γ : Type}

lemma bind_answer (t : Traced α) : t >>= pure = t := by
  obtain ⟨events, result⟩ := t
  cases result with
  | error fault => rfl
  | ok a => exact congrArg (Traced.mk · (.ok a)) (List.append_nil events)

lemma answer_bind (a : α) (f : α → Traced β) : pure a >>= f = f a :=
  congrArg (Traced.mk · (f a).result) (List.nil_append (f a).events)

/-- How three operations are grouped that follow one another changes nothing. -/
lemma bind_bind (t : Traced α) (f : α → Traced β) (g : β → Traced γ) :
    t >>= f >>= g = t >>= fun a => f a >>= g := by
  obtain ⟨events, result⟩ := t
  cases result with
  | error fault => rfl
  | ok a =>
      show Traced.bind ⟨events ++ (f a).events, (f a).result⟩ g =
        ⟨events ++ (Traced.bind (f a) g).events, (Traced.bind (f a) g).result⟩
      cases h : (f a).result <;> simp [Traced.bind, h]

instance : LawfulMonad Traced :=
  LawfulMonad.mk' Traced bind_answer answer_bind bind_bind

end Traced

namespace Draft

open Sitting

/-! ## Counting more submissions -/

/-- The same draft with more accepted submissions. -/
def counting (n : Nat) (d : Draft) : Draft := { d with submissions := d.submissions + n }

/-- The same step to a draft with more accepted submissions. -/
def Step.counting {α : Type} (n : Nat) (s : Step α) : Step α :=
  { s with draft := s.draft.counting n }

variable {today : Date} {n : Nat}

lemma settle_counting (d : Draft) (values : Mapping Value) (touched : List Text) :
    (d.counting n).settle today values touched = counting n <$> d.settle today values touched := by
  rw [settle, settle, map_bind]
  simp only [map_bind, map_pure]
  rfl

lemma stepTo_counting (d : Draft) (next : Traced Draft) :
    (d.counting n).stepTo (counting n <$> next) = (d.stepTo next).counting n := by
  obtain ⟨events, result⟩ := next
  cases result with
  | error fault => rfl
  | ok d' => exact congrArg (Step.mk ⟨·, .ok ()⟩ (d'.counting n)) (List.append_nil events)

lemma writeAll_counting (d : Draft) (entries : List (Value × Value)) :
    (d.counting n).writeAll today entries = (d.writeAll today entries).counting n := by
  rw [writeAll, writeAll, ← stepTo_counting]
  simp only [map_bind, ← settle_counting]
  rfl

lemma touch_counting (d : Draft) (key : Value) :
    (d.counting n).touch key = (d.touch key).counting n := by
  rw [touch, touch, ← stepTo_counting]
  simp only [map_bind, map_pure]
  rfl

lemma reset_counting (d : Draft) :
    (d.counting n).reset today = (d.reset today).counting n := by
  rw [reset, reset, ← stepTo_counting, settle_counting]
  simp only [map_bind, bind_map_left, map_pure]
  rfl

lemma submit_counting (d : Draft) (receiver : Option Receiver) :
    (d.counting n).submit today receiver = (d.submit today receiver).counting n := by
  have hjudge : (d.counting n).judge today = d.judge today := rfl
  rw [submit, submit, hjudge]
  cases (d.judge today).result with
  | error fault => rfl
  | ok r =>
      -- an accepted submission is counted, in one draft on top of the others
      have hcount : d.submissions + n + 1 = d.submissions + 1 + n := Nat.add_right_comm ..
      cases hclean : r.isClean with
      | false =>
          simp only [hclean, Bool.false_eq_true, if_false]
          rfl
      | true =>
          simp only [hclean, if_true, counting, Step.counting, hcount]
          rfl

/-- No operation looks at the number of accepted submissions. -/
theorem perform_counting (d : Draft) (op : Operation) :
    (d.counting n).perform today op = (d.perform today op).counting n := by
  cases op with
  | write key value =>
      simp only [perform, write_eq_writeAll, writeAll_counting]
      rfl
  | writeAll entries =>
      rw [perform, writeAll_counting]
      rfl
  | touch key =>
      rw [perform, touch_counting]
      rfl
  | reset =>
      rw [perform, reset_counting]
      rfl
  | judge => rfl
  | submit receiver =>
      rw [perform, submit_counting]
      rfl

/-! ## Runs step by step -/

/-- The steps of a run. -/
def steps (d : Draft) : List Dated → List (Step (Option Report))
  | [] => []
  | e :: run =>
    let step := d.perform e.day e.operation
    step :: step.draft.steps run

/-- Two steps that answer alike, with the same events on the way, and leave drafts that differ in
the number of accepted submissions alone. -/
structure Step.Matches {α : Type} (n : Nat) (s s' : Step α) : Prop where
  outcome : s.outcome = s'.outcome
  draft : s.draft = s'.draft.counting n
  values : s.draft.values = s'.draft.values
  touched : s.draft.touched = s'.draft.touched
  visibility : s.draft.visibility = s'.draft.visibility
  errors : s.draft.errors = s'.draft.errors
  shownErrors : s.draft.shownErrors = s'.draft.shownErrors
  attempted : s.draft.attempted = s'.draft.attempted
  submissions : s.draft.submissions = s'.draft.submissions + n

lemma Step.counting_matches {α : Type} (s : Step α) : (s.counting n).Matches n s :=
  ⟨rfl, rfl, rfl, rfl, rfl, rfl, rfl, rfl, rfl⟩

/-- A run goes alike from two drafts that differ in the number of accepted submissions. -/
lemma steps_counting (d : Draft) (run : List Dated) :
    List.Forall₂ (Step.Matches n) ((d.counting n).steps run) (d.steps run) := by
  induction run generalizing d with
  | nil => exact .nil
  | cons e run ih =>
      rw [steps, perform_counting]
      exact .cons (Step.counting_matches _) (ih _)

/-! ## After a reset -/

variable {form : Form} {receiver : Option Receiver} {s : Sitting}

lemma reset_eq_error {d : Draft} {fault : Fault} :
    (d.reset today).outcome.result = .error fault ↔
      (d.checklist.judge today d.form.initialValues
        (some (d.form.shownKeys d.form.initialValues))).result = .error fault := by
  rw [reset, stepTo_eq_error, Traced.bind_result_eq_error, settle_eq_error]
  simp

/-- A draft that has been reset is the one that mounting its form again gives, but for the number of
accepted submissions. -/
lemma Coherent.reset_eq (h : Coherent form receiver s) {fresh : Draft}
    (mounted : (mount today form receiver).result = .ok fresh) :
    (s.draft.reset today).outcome.result = .ok () ∧
      (s.draft.reset today).draft = fresh.counting s.draft.submissions := by
  obtain ⟨r, hr, rfl⟩ := mount_eq_ok.1 mounted
  rcases reset_cases today s.draft with ⟨⟨fault, hfault⟩, -⟩ | ⟨r', hr', hok, hdraft⟩
  · rw [reset_eq_error, h.form_eq, h.checklist_eq, hr] at hfault
    cases hfault
  · rw [h.form_eq, h.checklist_eq, hr] at hr'
    obtain rfl : r = r' := Except.ok.inj hr'
    refine ⟨hok, ?_⟩
    rw [hdraft, Draft.settled, h.form_eq, h.checklist_eq, h.receiver_eq, counting, Nat.zero_add]

/-- However a form that has been read is mounted and whatever is done then, a reset ends without a
fault as long as the initial values last from the day of the mounting, and on any day it ends with
just the fault of mounting the form then.  After
it, every run goes as it goes from a newly mounted draft with the same receiver: step by step the
answers are the same, and so are the questions to predicates, the lines of the log and what is
handed over, and the drafts differ in nothing but the number of submissions, by the one at the time
of the reset. -/
theorem alike_after_reset {doc : Value} {host : Predicate.Host} {d : Draft}
    (read : Form.read doc host = .accepted form)
    (mounted : (mount today form receiver).result = .ok d) (run : List Dated) :
    let s := ((⟨d, today⟩ : Sitting).after run).draft
    (∀ later, form.Lasts today later form.initialValues →
        (s.reset later).outcome.result = .ok ()) ∧
      (∀ later fault, (s.reset later).outcome.result = .error fault ↔
        (mount later form receiver).result = .error fault) ∧
      ∀ later fresh, (mount later form receiver).result = .ok fresh →
        (s.reset later).outcome.result = .ok () ∧
          (s.reset later).draft = fresh.counting s.submissions ∧
          ∀ more, List.Forall₂ (Step.Matches s.submissions)
            ((s.reset later).draft.steps more) (fresh.steps more) := by
  have h := ((Reached.mounted read mounted).after run).coherent
  refine ⟨fun later lasts => ?_, fun later fault => ?_, fun later fresh hfresh => ?_⟩
  · obtain ⟨r, hr, -⟩ := mount_eq_ok.1 mounted
    rw [← lasts.judge_eq] at hr
    exact (h.reset_eq (mount_eq_ok.2 ⟨r, hr, rfl⟩)).1
  · rw [reset_eq_error, mount_eq_error, h.form_eq, h.checklist_eq]
  · obtain ⟨hok, hdraft⟩ := h.reset_eq hfresh
    refine ⟨hok, hdraft, fun more => ?_⟩
    rw [hdraft]
    exact steps_counting fresh more

/-- A run that submits a trip and then sells the car. -/
def soldRun : List Dated :=
  [.write (.text "car") (.bool true), .write (.text "plate") (.text "A 1"), .submit none,
    .write (.text "car") (.bool false)].map fun op => ⟨tripDay, op⟩

theorem alike_after_soldRun :
    Form.read tripDocument = .accepted trip ∧ (mount tripDay trip none).result = .ok emptyTrip ∧
      (((⟨emptyTrip, tripDay⟩ : Sitting).after soldRun).draft.reset tripDay).draft =
        emptyTrip.counting 1 ∧
      List.Forall₂ (Step.Matches 1)
        ((((⟨emptyTrip, tripDay⟩ : Sitting).after soldRun).draft.reset tripDay).draft.steps tripRun)
        (emptyTrip.steps tripRun) := by
  obtain ⟨-, -, alike⟩ := alike_after_reset read_tripDocument mount_trip soldRun
  obtain ⟨-, hdraft, hsteps⟩ := alike tripDay emptyTrip mount_trip
  have hcount : ((⟨emptyTrip, tripDay⟩ : Sitting).after soldRun).draft.submissions = 1 := rfl
  rw [hcount] at hdraft hsteps
  exact ⟨read_tripDocument, mount_trip, hdraft, hsteps tripRun⟩

end Draft

end FormEngine
