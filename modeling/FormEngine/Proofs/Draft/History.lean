import Mathlib.Data.List.DropRight
import FormEngine.Proofs.Draft.Coherence

/-!
# Drafts and their histories

A draft does not remember what has been done to it, yet most of what it stores can be told from its
history, the list of the `Moment`s of a run.  Four pieces have two different lifetimes: the values,
the touched fields and the failed submissions go back to the last reset, while the submissions are
counted from the beginning.  Moments that end with a fault leave no trace, but for submissions whose
receiver fails, which count.

`Moment.Leaves` says what a single moment does to the four pieces, and `Moment.leaves` that every
operation does just that.  `Told` says how the pieces are told from a history, and
`history_of_run` that this is so after every run.
-/

namespace FormEngine

namespace Draft

open Sitting

/-! ## Moments -/

/-- An operation in a run, and the draft before it. -/
structure Moment extends Dated where
  before : Draft

namespace Moment

/-- Whether a moment ends without a fault. -/
def succeeds (m : Moment) : Bool := (m.before.perform m.day m.operation).succeeds

/-- Whether a moment goes back to the initial values. -/
def resets (m : Moment) : Bool :=
  match m.operation with
  | .reset => m.succeeds
  | _ => false

/-- The value that a moment writes to a field, the last one if it is given several. -/
def written? (m : Moment) (id : Text) : Option Value :=
  if m.succeeds then (m.operation.entries.reverse.find? fun e => e.1 = id).map (·.2) else none

/-- Whether a moment touches a field, be it by writing to it. -/
def touches (m : Moment) (id : Text) : Bool :=
  m.succeeds && m.operation.keys.any (·.isText id)

/-- Whether a moment is a submission whose report has errors. -/
def refuses (m : Moment) : Bool :=
  match m.operation, (m.before.judge m.day).result with
  | .submit _, .ok r => !r.isClean
  | _, _ => false

/-- Whether a moment is a submission whose report has none, whatever its receiver does. -/
def accepts (m : Moment) : Bool :=
  match m.operation, (m.before.judge m.day).result with
  | .submit _, .ok r => r.isClean
  | _, _ => false

end Moment

/-- The moments of a run. -/
def Sitting.moments (s : Sitting) : List Dated → List Moment
  | [] => []
  | e :: run => ⟨e, s.draft⟩ :: (s.next e).moments run

/-- The moments after the last reset. -/
def sinceReset (ms : List Moment) : List Moment := ms.rtakeWhile fun m => !m.resets

/-- The value that is written last to a field. -/
def lastWritten (ms : List Moment) (id : Text) : Option Value :=
  ms.reverse.findSome? (·.written? id)

lemma Sitting.moments_concat (s : Sitting) (run : List Dated) (e : Dated) :
    s.moments (run ++ [e]) = s.moments run ++ [⟨e, (s.after run).draft⟩] := by
  induction run generalizing s with
  | nil => rfl
  | cons e' run ih => exact congrArg (_ :: ·) (ih (s.next e'))

lemma Sitting.after_concat (s : Sitting) (run : List Dated) (e : Dated) :
    s.after (run ++ [e]) = (s.after run).next e :=
  List.foldl_concat ..

lemma lastWritten_concat (ms : List Moment) (m : Moment) (id : Text) :
    lastWritten (ms ++ [m]) id = (m.written? id).or (lastWritten ms id) := by
  rw [lastWritten, lastWritten, List.reverse_concat, List.findSome?_cons]
  cases m.written? id <;> rfl

lemma sinceReset_concat (ms : List Moment) (m : Moment) :
    sinceReset (ms ++ [m]) = if m.resets then [] else sinceReset ms ++ [m] := by
  rw [sinceReset, List.rtakeWhile_concat]
  cases m.resets <;> rfl

/-! ## What a moment leaves -/

namespace Moment

/-- What is left of a moment in the draft after it. -/
structure Leaves (m : Moment) (d : Draft) : Prop where
  values : ∀ id f, m.before.form.fields.get? id = some f → d.values.get? id =
    if m.resets then some f.initialValue else (m.written? id).or (m.before.values.get? id)
  touched : ∀ id, id ∈ d.touched ↔
    (m.resets = false ∧ id ∈ m.before.touched) ∨ m.touches id = true
  attempted : d.attempted = true ↔
    (m.resets = false ∧ m.before.attempted = true) ∨ m.refuses = true
  submissions : d.submissions = m.before.submissions + if m.accepts then 1 else 0

variable {today : Date} {d d' : Draft} {m : Moment}

lemma resets_of_not_succeeds (h : m.succeeds = false) : m.resets = false := by
  unfold resets
  split
  · exact h
  · rfl

lemma operation_of_resets (h : m.resets = true) : m.operation = .reset := by
  unfold resets at h
  split at h
  · assumption
  · cases h

lemma touches_of_resets (id : Text) (h : m.resets = true) : m.touches id = false := by
  simp [touches, operation_of_resets h, Operation.keys]

lemma refuses_of_resets (h : m.resets = true) : m.refuses = false := by
  rw [refuses, operation_of_resets h]

/-- A moment that neither resets nor writes nor touches leaves values and touched fields alone. -/
lemma leaves_of_quiet (resets : m.resets = false) (writes : ∀ id, m.written? id = none)
    (touches : ∀ id, m.touches id = false) (hvalues : d'.values = m.before.values)
    (htouched : d'.touched = m.before.touched)
    (attempted : d'.attempted = true ↔ m.before.attempted = true ∨ m.refuses = true)
    (submissions : d'.submissions = m.before.submissions + if m.accepts then 1 else 0) :
    m.Leaves d' where
  values id f _ := by rw [resets, writes, hvalues]; rfl
  touched id := by simp [resets, touches, htouched]
  attempted := by simp [resets, attempted]
  submissions := submissions

/-- A moment that fails leaves everything alone, unless it is a submission. -/
lemma leaves_of_fails (h : m.succeeds = false) (hdraft : d' = m.before)
    (refuses : m.refuses = false) (accepts : m.accepts = false) : m.Leaves d' := by
  subst hdraft
  refine leaves_of_quiet (resets_of_not_succeeds h) ?_ ?_ rfl rfl ?_ ?_
  · exact fun id => by rw [written?, h]; rfl
  · exact fun id => by rw [Moment.touches, h]; rfl
  · simp [refuses]
  · simp [accepts]

/-- Touching fields adds them to those that have been touched. -/
lemma mem_touching {more : List Text} (htouched : d.touched ⊆ d.form.fields.keys)
    (hmore : more ⊆ d.form.fields.keys) {id : Text} :
    id ∈ d.touching more ↔ id ∈ d.touched ∨ id ∈ more := by
  rw [touching, List.mem_filter, Bool.or_eq_true, List.contains_iff_mem, List.contains_iff_mem]
  exact and_iff_right_of_imp fun h => h.elim (fun h => htouched h) fun h => hmore h

/-- A moment that writes to fields leaves the values last written, and touches the fields. -/
lemma leaves_of_written {written : List (Text × Value)} {errors : Mapping (List Text)}
    (h : m.succeeds = true) (resets : m.resets = false) (refuses : m.refuses = false)
    (accepts : m.accepts = false) (hentries : m.operation.entries = written)
    (hkeys : m.operation.keys = written.map fun e => .text e.1)
    (declared : ∀ e ∈ written, e.1 ∈ m.before.form.fields.keys)
    (htouched : m.before.touched ⊆ m.before.form.fields.keys) :
    m.Leaves (m.before.settled (m.before.values.setAll written)
      (m.before.touching (written.map (·.1))) errors) where
  values id f _ := by
    rw [resets, written?, h, hentries]
    exact Mapping.get?_setAll ..
  touched id := by
    have htouches : m.touches id = true ↔ id ∈ written.map (·.1) := by
      simp [Moment.touches, h, hkeys, Value.isText]
    have hmore : written.map (·.1) ⊆ m.before.form.fields.keys := by
      intro id hid
      obtain ⟨e, he, rfl⟩ := List.mem_map.1 hid
      exact declared e he
    rw [htouches, settled, mem_touching htouched hmore]
    simp [resets]
  attempted := by simp [resets, refuses, settled]
  submissions := by simp [accepts, settled]

/-- A moment that touches a field leaves everything else alone. -/
lemma leaves_of_touched {key : Text} (h : m.succeeds = true)
    (hop : m.operation = .touch (.text key)) (declared : key ∈ m.before.form.fields.keys)
    (htouched : m.before.touched ⊆ m.before.form.fields.keys) :
    m.Leaves { m.before with touched := m.before.touching [key] } where
  values id f _ := by simp [resets, written?, hop, Operation.entries]
  touched id := by
    have htouches : m.touches id = true ↔ id ∈ [key] := by
      simp [Moment.touches, h, hop, Operation.keys, Value.isText, eq_comm]
    have hmore : [key] ⊆ m.before.form.fields.keys :=
      List.cons_subset.2 ⟨declared, List.nil_subset _⟩
    rw [htouches, mem_touching htouched hmore]
    simp [resets, hop]
  attempted := by simp [resets, refuses, hop]
  submissions := by simp [accepts, hop]

/-- A moment that resets leaves the number of submissions alone, and nothing else. -/
lemma leaves_of_reset {errors : Mapping (List Text)} (h : m.succeeds = true)
    (hop : m.operation = .reset) :
    m.Leaves { m.before.settled m.before.form.initialValues [] errors with
      attempted := false } where
  values id f hf := by
    have hinitial : m.before.form.initialValues.get? id = some f.initialValue := by
      rw [Form.initialValues, Mapping.get?_mapValues, hf, Option.map_some]
    simp [resets, hop, h, settled, hinitial]
  touched id := by simp [resets, touches, hop, h, settled, Operation.keys]
  attempted := by simp [resets, refuses, hop, h]
  submissions := by simp [accepts, hop, settled]

/-- A submission leaves whether it has been refused or accepted. -/
lemma leaves_of_submit {given : Option Receiver} :
    Leaves ⟨⟨today, .submit given⟩, d⟩ (d.submit today given).draft := by
  have hwritten : ∀ id, written? ⟨⟨today, .submit given⟩, d⟩ id = none := fun id => by
    simp [written?, Operation.entries]
  have htouches : ∀ id, touches ⟨⟨today, .submit given⟩, d⟩ id = false := fun id => by
    simp [touches, Operation.keys]
  cases hr : (d.judge today).result with
  | error fault =>
      rw [(submit_unjudged hr given).1]
      exact leaves_of_quiet rfl hwritten htouches rfl rfl (by simp [refuses, hr])
        (by simp [accepts, hr])
  | ok r =>
      cases hclean : r.isClean with
      | true =>
          rw [(submit_accepted hr hclean given).1]
          exact leaves_of_quiet rfl hwritten htouches rfl rfl (by simp [refuses, hr, hclean])
            (by simp [accepts, hr, hclean])
      | false =>
          rw [(submit_refused hr hclean given).1]
          exact leaves_of_quiet rfl hwritten htouches rfl rfl (by simp [refuses, hr, hclean])
            (by simp [accepts, hr, hclean])

/-- Every operation leaves what its moment says. -/
theorem leaves (m : Moment) (htouched : m.before.touched ⊆ m.before.form.fields.keys) :
    m.Leaves (m.before.perform m.day m.operation).draft := by
  obtain ⟨⟨today, op⟩, d⟩ := m
  cases op with
  | write key value =>
      rcases write_cases today d key value with hfails | ⟨id, r, rfl, hid, -, hok, hdraft⟩
      · exact leaves_of_fails (hfails.map_succeeds _) hfails.2 rfl rfl
      · rw [perform, Step.map_draft, hdraft]
        show Leaves _ (d.settled (d.values.setAll [(id, value)])
          (d.touching ([(id, value)].map (·.1))) r.errors)
        refine leaves_of_written (Step.map_succeeds_of_ok _ hok) rfl rfl rfl rfl rfl ?_ htouched
        exact List.forall_mem_singleton.2 hid
  | writeAll entries =>
      rcases writeAll_cases today d entries with hfails | ⟨written, r, rfl, hmem, -, hok, hdraft⟩
      · exact leaves_of_fails (hfails.map_succeeds _) hfails.2 rfl rfl
      · rw [perform, Step.map_draft, hdraft]
        refine leaves_of_written (Step.map_succeeds_of_ok _ hok) rfl rfl rfl
          (named_texts written) ?_ hmem htouched
        rw [Operation.keys, List.map_map]
        rfl
  | touch key =>
      rcases touch_cases d key with hfails | ⟨id, rfl, hid, hok, hdraft⟩
      · exact leaves_of_fails (hfails.map_succeeds _) hfails.2 rfl rfl
      · rw [perform, Step.map_draft, hdraft]
        exact leaves_of_touched (Step.map_succeeds_of_ok _ hok) rfl hid htouched
  | reset =>
      rcases reset_cases today d with hfails | ⟨r, -, hok, hdraft⟩
      · exact leaves_of_fails (hfails.map_succeeds _) hfails.2 rfl rfl
      · rw [perform, Step.map_draft, hdraft]
        exact leaves_of_reset (Step.map_succeeds_of_ok _ hok) rfl
  | judge =>
      exact leaves_of_quiet rfl (fun id => by simp [written?, Operation.entries])
        (fun id => by simp [touches, Operation.keys]) rfl rfl (by simp [perform, refuses])
        (by simp [perform, accepts])
  | submit given => exact leaves_of_submit

end Moment

/-! ## What a history tells -/

/-- What a draft of a form stores, told from the moments that have led to it. -/
structure Told (form : Form) (d : Draft) (ms : List Moment) : Prop where
  /-- The value of a field is the one written last since the last reset, else the default that its
  declaration gives, be it null, else the empty value of its widget. -/
  values : ∀ id f, form.fields.get? id = some f → d.values.get? id =
    some ((lastWritten (sinceReset ms) id).getD (f.default.getD f.emptyValue))
  touched : ∀ id, id ∈ d.touched ↔ ∃ m ∈ sinceReset ms, m.touches id = true
  attempted : d.attempted = true ↔ ∃ m ∈ sinceReset ms, m.refuses = true
  submissions : d.submissions = ms.countP Moment.accepts

/-- A reset forgets what has been before, and a moment that does not reset adds itself. -/
lemma exists_sinceReset_concat {p : Moment → Bool} {m : Moment}
    (h : m.resets = true → p m = false) (ms : List Moment) :
    (∃ m' ∈ sinceReset (ms ++ [m]), p m' = true) ↔
      (m.resets = false ∧ ∃ m' ∈ sinceReset ms, p m' = true) ∨ p m = true := by
  rw [sinceReset_concat]
  cases hresets : m.resets with
  | true => simp [h hresets]
  | false => simp [or_and_right, exists_or]

/-- A history that tells a draft goes on to tell the next one. -/
theorem Told.concat {form : Form} {d' : Draft} {ms : List Moment} {m : Moment}
    (h : Told form m.before ms) (hform : m.before.form = form) (hm : m.Leaves d') :
    Told form d' (ms ++ [m]) where
  values id f hf := by
    rw [hm.values id f (hform ▸ hf), sinceReset_concat, h.values id f hf]
    by_cases hresets : m.resets = true
    · rw [if_pos hresets, if_pos hresets]
      rfl
    · rw [if_neg hresets, if_neg hresets, lastWritten_concat]
      cases m.written? id <;> rfl
  touched id := by
    rw [hm.touched, exists_sinceReset_concat (Moment.touches_of_resets id), h.touched]
  attempted := by
    rw [hm.attempted, exists_sinceReset_concat Moment.refuses_of_resets, h.attempted]
  submissions := by
    rw [hm.submissions, List.countP_append, h.submissions, List.countP_singleton]

/-- A new draft is told from no history at all. -/
lemma told_of_mount {form : Form} {receiver : Option Receiver} {today : Date} {d : Draft}
    (h : (mount today form receiver).result = .ok d) : Told form d [] := by
  obtain ⟨r, -, rfl⟩ := mount_eq_ok.1 h
  refine ⟨fun id f hf => ?_, fun id => by simp [sinceReset], by simp [sinceReset], rfl⟩
  rw [Form.initialValues, Mapping.get?_mapValues, hf]
  rfl

variable {form : Form} {receiver : Option Receiver} {s : Sitting}

lemma Sitting.Reached.leaves (h : Reached form receiver s) (e : Dated) :
    Moment.Leaves ⟨e, s.draft⟩ (s.next e).draft := by
  have htouched : s.draft.touched ⊆ s.draft.form.fields.keys :=
    h.coherent.form_eq ▸ h.coherent.touched_declared
  exact Moment.leaves ⟨e, s.draft⟩ htouched

lemma Sitting.Reached.told (h : Reached form receiver s) (start : Told form s.draft [])
    (run : List Dated) : Told form (s.after run).draft (s.moments run) := by
  -- a history grows at its end, so the run is taken apart there
  induction run using List.reverseRecOn with
  | nil => exact start
  | append_singleton run e ih =>
      have hrun := h.after run
      rw [moments_concat, after_concat]
      exact ih.concat hrun.coherent.form_eq (hrun.leaves e)

/-- A field keeps its value through all moments that neither write to it nor reset, whether it is
visible or not. -/
lemma Sitting.Reached.value_kept (h : Reached form receiver s) {id : Text} {f : Field}
    (hf : form.fields.get? id = some f) (run : List Dated)
    (quiet : ∀ m ∈ s.moments run, m.resets = false ∧ m.written? id = none) :
    (s.after run).draft.values.get? id = s.draft.values.get? id := by
  induction run generalizing s with
  | nil => rfl
  | cons e run ih =>
      obtain ⟨⟨hresets, hwritten⟩, hrest⟩ := List.forall_mem_cons.1 quiet
      have hnext : (s.next e).draft.values.get? id = s.draft.values.get? id := by
        rw [(h.leaves e).values id f (h.coherent.form_eq ▸ hf), hresets, hwritten]
        rfl
      exact (ih (h.next e) hrest).trans hnext

/-- However a form that has been read is mounted and whatever is done then, the draft is told from
its history; and whatever is done further, a field keeps its value until it is written to or the
draft is reset, also while the field is hidden. -/
theorem history_of_run {doc : Value} {host : Predicate.Host} {today : Date} {d : Draft}
    (read : Form.read doc host = .accepted form)
    (mounted : (mount today form receiver).result = .ok d) (run : List Dated) :
    Told form ((⟨d, today⟩ : Sitting).after run).draft ((⟨d, today⟩ : Sitting).moments run) ∧
      ∀ more id f, form.fields.get? id = some f →
        (∀ m ∈ ((⟨d, today⟩ : Sitting).after run).moments more,
          m.resets = false ∧ m.written? id = none) →
        (((⟨d, today⟩ : Sitting).after run).after more).draft.values.get? id =
          ((⟨d, today⟩ : Sitting).after run).draft.values.get? id := by
  have h : Reached form receiver ⟨d, today⟩ := .mounted read mounted
  refine ⟨h.told (told_of_mount mounted) run, fun more id f hf quiet => ?_⟩
  exact (h.after run).value_kept hf more quiet

/-- A run that sells the car and buys another one. -/
def carlessRun : List Dated :=
  [⟨tripDay, .write (.text "car") (.bool false)⟩, ⟨tripDay, .write (.text "car") (.bool true)⟩]

theorem history_of_tripRun :
    Form.read tripDocument = .accepted trip ∧ (mount tripDay trip none).result = .ok emptyTrip ∧
      Told trip ((⟨emptyTrip, tripDay⟩ : Sitting).after tripRun).draft
        ((⟨emptyTrip, tripDay⟩ : Sitting).moments tripRun) ∧
      (((⟨emptyTrip, tripDay⟩ : Sitting).after tripRun).after carlessRun).draft.values.get?
          "plate" = ((⟨emptyTrip, tripDay⟩ : Sitting).after tripRun).draft.values.get? "plate" := by
  obtain ⟨told, kept⟩ := history_of_run read_tripDocument mount_trip tripRun
  refine ⟨read_tripDocument, mount_trip, told, kept carlessRun "plate" _ rfl ?_⟩
  exact List.forall_mem_cons.2 ⟨⟨rfl, rfl⟩, List.forall_mem_singleton.2 ⟨rfl, rfl⟩⟩

end Draft

end FormEngine
