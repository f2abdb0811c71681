import FormEngine.Proofs.Draft.Robustness
import FormEngine.Proofs.Draft.Submission
import FormEngine.Proofs.View.Painting

/-!
# Hidden values have no influence

A hidden field keeps its value, and the value stays in the mapping that is given to every gate.
Only a predicate can look at it there.  In a form without predicates the judgement of a field
depends on the value of that field alone (`Gate.judge_congr`), so two walks over the same fields
come to the same as soon as the values of these fields agree (`HasNoPredicate.judge_congr`).

`ShownAlike` relates two drafts that show the same fields with the same values, whatever they hold
in the others.  `indistinguishable_of_shownAlike` says that nothing tells them apart: not their
errors, not a report, not the values that they show, and not a submission with all that happens in
it; and that the data of a submission come from the values of visible fields, each from its own.
-/

namespace FormEngine

/-! ## Judging without predicates -/

/-- Without a predicate the values of other fields do not matter. -/
lemma Gate.judge_congr {g : Gate} (plain : g.predicate = none) (today : Date) (v : Value)
    (values values' : Mapping Value) : g.judge today v values = g.judge today v values' := by
  rw [Gate.judge, Gate.judge, plain]

namespace Checklist

/-- Data belong to fields that were asked for. -/
lemma chosen_of_data {today : Date} {list : Checklist} {values : Mapping Value}
    {only : Option (List Text)} {r : Report}
    (h : (list.judge today values only).result = .ok r) {field : Text} {v : Value}
    (hv : r.data.get? field = some v) : field ∈ (chosen only list.gates.entries).map (·.1) := by
  obtain ⟨js, hjs, hdata, -⟩ := judge_result_eq_ok.1 h
  rw [← Mapping.mem_entries_iff, hdata] at hv
  have hfield : field ∈ js.map (·.1) := List.mem_map_of_mem (Report.mem_accepted.1 hv)
  rwa [← hjs.keys_eq]

end Checklist

namespace Form

variable {form : Form} {today : Date}

/-- Without predicates judging some fields depends on the values of these fields alone. -/
lemma HasNoPredicate.judge_congr (plain : form.HasNoPredicate) {values values' : Mapping Value}
    {ids : List Text}
    (agree : ∀ id ∈ ids, Checklist.valueOf values id = Checklist.valueOf values' id) :
    form.checklist.judge today values (some ids) =
      form.checklist.judge today values' (some ids) := by
  rw [Checklist.judge, Checklist.judge, Checklist.judgeFrom_eq_chosen,
    Checklist.judgeFrom_eq_chosen _ values']
  refine Checklist.judgeFrom_congr (fun e he => ?_) _
  obtain ⟨hmem, hasked⟩ := List.mem_filter.1 he
  obtain ⟨field, hfield, rfl⟩ := List.mem_map.1 hmem
  rw [agree field.1 (List.contains_iff_mem.1 hasked)]
  exact Gate.judge_congr (plain field hfield) ..

end Form

namespace Draft

open Sitting

/-! ## Drafts that show the same -/

/-- Two drafts that show the same fields with the same values. -/
structure ShownAlike (d d' : Draft) : Prop where
  visibility : d.visibility = d'.visibility
  values : ∀ id, d.shows id = true → d.values.get? id = d'.values.get? id

/-- Some data that belong to visible fields, each made by the check of its field from the value of
that field. -/
def StemsFromShown (today : Date) (d : Draft) (data : Mapping Value) : Prop :=
  ∀ id v, data.get? id = some v → d.shows id = true ∧
    ∃ f, d.form.fields.get? id = some f ∧
      f.check.run today (Checklist.valueOf d.values id) = .ok v

/-- What two sittings cannot be told apart by, and what does not get out of the first. -/
structure Indistinguishable (own own' : Option Receiver) (s s' : Sitting) : Prop where
  /-- The stored errors, if the values last from one of the days on which they have been derived
  until the other. -/
  errors : s.draft.form.Lasts s.day s'.day s.draft.values → s.draft.errors = s'.draft.errors
  judged : ∀ today, s.draft.judge today = s'.draft.judge today
  visibleValues : s.draft.visibleValues = s'.draft.visibleValues
  /-- A submission, if the data go to the same receiver. -/
  submitted : ∀ today given, receiverFor given own = receiverFor given own' →
    (s.draft.submit today given).outcome = (s'.draft.submit today given).outcome
  /-- The data of the report with which a submission answers. -/
  answered : ∀ today given r, (s.draft.submit today given).outcome.result = .ok r →
    s.draft.StemsFromShown today r.data
  /-- The data that a submission hands over. -/
  handedOver : ∀ today given e, e ∈ (s.draft.submit today given).outcome.handOvers →
    s.draft.StemsFromShown today e.2

variable {today : Date} {form : Form} {own own' : Option Receiver} {s s' : Sitting}

lemma handOver_congr {d d' : Draft} {given : Option Receiver}
    (called : receiverFor given d.receiver = receiverFor given d'.receiver)
    (data : Mapping Value) : d.handOver given data = d'.handOver given data := by
  rw [handOver_eq, handOver_eq, called]

/-- A submission depends on the form, the report and the receiver. -/
lemma submit_congr {d d' : Draft} (hform : d.form = d'.form)
    (hjudge : d.judge today = d'.judge today) {given : Option Receiver}
    (called : receiverFor given d.receiver = receiverFor given d'.receiver) :
    (d.submit today given).outcome = (d'.submit today given).outcome := by
  rw [submit, submit, hjudge]
  cases (d'.judge today).result with
  | error fault => rfl
  | ok r =>
      cases hclean : r.isClean with
      | false =>
          simp only [hclean, Bool.false_eq_true, if_false, rejectionLine, hform]
      | true =>
          have hline : d.submissionLine r = d'.submissionLine r := by
            rw [submissionLine, submissionLine, hform]
          have hover : handOver { d with errors := r.errors, submissions := d.submissions + 1 }
              given r.data =
                handOver { d' with errors := r.errors, submissions := d'.submissions + 1 }
                  given r.data := handOver_congr called r.data
          simp only [hclean, if_true, hline, hover]

lemma ShownAlike.shownKeys_eq (alike : ShownAlike s.draft s'.draft)
    (h : Coherent form own s) (h' : Coherent form own' s') :
    form.shownKeys s.draft.values = form.shownKeys s'.draft.values := by
  have hshows : s.draft.shows = s'.draft.shows := by
    funext id
    rw [shows, shows, alike.visibility]
  rw [← h.visibleKeys_eq, ← h'.visibleKeys_eq, visibleKeys, visibleKeys, hshows, h.form_eq,
    h'.form_eq]

/-- Judging the shown fields comes to the same in both drafts. -/
lemma ShownAlike.judge_eq (alike : ShownAlike s.draft s'.draft) (plain : form.HasNoPredicate)
    (h : Coherent form own s) (h' : Coherent form own' s') (today : Date) :
    form.checklist.judge today s.draft.values (some (form.shownKeys s.draft.values)) =
      form.checklist.judge today s'.draft.values (some (form.shownKeys s'.draft.values)) := by
  rw [← alike.shownKeys_eq h h']
  refine plain.judge_congr fun id hid => ?_
  obtain ⟨f, hf, hshown⟩ := Form.mem_shownKeys.1 hid
  rw [Checklist.valueOf, Checklist.valueOf, alike.values id ((h.shows_of_get? hf).trans hshown)]

lemma ShownAlike.visibleValues_eq (alike : ShownAlike s.draft s'.draft)
    (h : Coherent form own s) (h' : Coherent form own' s') :
    s.draft.visibleValues = s'.draft.visibleValues := by
  have hkeys : s.draft.visibleValues.keys = s'.draft.visibleValues.keys := by
    rw [h.keys_visibleValues, h'.keys_visibleValues, h.visibleKeys_eq, h'.visibleKeys_eq,
      alike.shownKeys_eq h h']
  refine Mapping.eq_of_get?_eq hkeys fun id hid => ?_
  have hshown : s.draft.shows id = true := by
    rw [h.keys_visibleValues] at hid
    exact List.of_mem_filter hid
  rw [visibleValues, visibleValues, Mapping.get?_filter, Mapping.get?_filter, alike.visibility,
    alike.values id hshown]

/-- The data of a report on a draft come from what it shows. -/
lemma Coherent.stemsFromShown (h : Coherent form own s) (named : form.NamesFields)
    {r : Report} (hr : (s.draft.judge today).result = .ok r) :
    s.draft.StemsFromShown today r.data := by
  intro id v hv
  rw [h.judge_eq named] at hr
  have hchosen := Checklist.chosen_of_data hr hv
  rw [Form.chosen_keys, ← h.visibleKeys_eq] at hchosen
  obtain ⟨f, hf, hrun⟩ := Form.run_of_data hr hv
  exact ⟨(List.mem_filter.1 hchosen).2, f, h.form_eq ▸ hf, hrun⟩

lemma eq_of_received {called : Option (Bool × Receiver)} {r r' : Report}
    (h : received called r = .ok r') : r = r' := by
  unfold received at h
  split at h
  · exact Except.ok.inj h
  · split at h
    · exact Except.ok.inj h
    · cases h

/-- A submission answers and hands over what the report on the draft says. -/
lemma submit_report (d : Draft) (given : Option Receiver) :
    (∀ r, (d.submit today given).outcome.result = .ok r → (d.judge today).result = .ok r) ∧
      ∀ e ∈ (d.submit today given).outcome.handOvers,
        ∃ r, (d.judge today).result = .ok r ∧ e.2 = r.data := by
  cases hr : (d.judge today).result with
  | error fault =>
      obtain ⟨-, hresult, hover⟩ := submit_unjudged hr given
      rw [hresult, hover]
      exact ⟨nofun, nofun⟩
  | ok r =>
      cases hclean : r.isClean with
      | false =>
          obtain ⟨-, hresult, hover⟩ := submit_refused hr hclean given
          rw [hresult, hover]
          exact ⟨fun _ h => h, nofun⟩
      | true =>
          obtain ⟨-, hresult, hover⟩ := submit_accepted hr hclean given
          rw [hresult, hover]
          refine ⟨fun r' h => congrArg _ (eq_of_received h), fun e he => ⟨r, rfl, ?_⟩⟩
          obtain ⟨called, -, rfl⟩ := Option.map_eq_some_iff.1 (Option.mem_toList.1 he)
          rfl

/-- In a form without predicates, two drafts that runs can come to and that show the same fields
with the same values cannot be told apart, whatever they hold in hidden fields, and what a
submission answers and hands over stems from visible fields alone.  Only errors that have been
derived on different days may differ, if the visible values have not lasted in between. -/
theorem indistinguishable_of_shownAlike (plain : form.HasNoPredicate)
    (reached : Reached form own s) (reached' : Reached form own' s')
    (alike : ShownAlike s.draft s'.draft) : Indistinguishable own own' s s' := by
  obtain ⟨_, _, hread⟩ := reached.read
  have named := Form.namesFields_of_read hread
  have h := reached.coherent
  have h' := reached'.coherent
  have hjudge : ∀ today, s.draft.judge today = s'.draft.judge today := fun today => by
    rw [h.judge_eq named, h'.judge_eq named]
    exact alike.judge_eq plain h h' today
  refine ⟨fun lasts => ?_, hjudge, alike.visibleValues_eq h h', fun today given called => ?_,
    fun today given r hr => ?_, fun today given e he => ?_⟩
  · rw [h.form_eq] at lasts
    obtain ⟨r, hr, herrors⟩ := h.judge_result named lasts
    obtain ⟨r', hr', herrors'⟩ := h'.judge_result named (form.lasts_refl s'.day _)
    rw [hjudge, hr'] at hr
    obtain rfl : r' = r := Except.ok.inj hr
    rw [herrors, herrors']
  · refine submit_congr (h.form_eq.trans h'.form_eq.symm) (hjudge today) ?_
    rwa [h.receiver_eq, h'.receiver_eq]
  · exact h.stemsFromShown named ((s.draft.submit_report given).1 r hr)
  · obtain ⟨r, hr, hdata⟩ := (s.draft.submit_report given).2 e he
    rw [hdata]
    exact h.stemsFromShown named hr

lemma tour_hasNoPredicate : tour.HasNoPredicate :=
  List.forall_mem_cons.2 ⟨rfl, List.forall_mem_singleton.2 rfl⟩

/-- A tour without a guide whose language has been filled in all the same. -/
def quietTour : Sitting :=
  (⟨emptyTour, tripDay⟩ : Sitting).after
    [⟨tripDay, .write (.text "language") (.text "fr")⟩]

theorem indistinguishable_quietTour :
    tour.HasNoPredicate ∧ Reached tour none ⟨emptyTour, tripDay⟩ ∧ Reached tour none quietTour ∧
      ShownAlike emptyTour quietTour.draft ∧
      emptyTour.values.get? "language" = some (.text "") ∧
      quietTour.draft.values.get? "language" = some (.text "fr") ∧
      (quietTour.draft.submit tripDay (some fullReceiver)).outcome =
        (emptyTour.submit tripDay (some fullReceiver)).outcome ∧
      ∃ data : Mapping Value, data.keys = ["guide"] ∧
        (emptyTour.submit tripDay (some fullReceiver)).outcome.handOvers = [(false, data)] := by
  have reached : Reached tour none ⟨emptyTour, tripDay⟩ := .mounted read_tourDocument mount_tour
  have reached' : Reached tour none quietTour := reached.after _
  have alike : ShownAlike emptyTour quietTour.draft := by
    refine ⟨rfl, fun id hid => ?_⟩
    have hne : id ≠ "language" := by
      rintro rfl
      cases hid
    exact (Mapping.get?_set_of_ne _ _ hne).symm
  have same := indistinguishable_of_shownAlike tour_hasNoPredicate reached reached' alike
  exact ⟨tour_hasNoPredicate, reached, reached', alike, rfl, rfl,
    (same.submitted tripDay _ rfl).symm, _, rfl, rfl⟩

end Draft

end FormEngine
