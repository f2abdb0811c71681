import FormEngine.Proofs.Draft.Coherence

/-!
# Submissions

A submission judges the visible fields anew, although the draft holds their errors already.  In
every draft that a run can come to both agree, as long as the values last from the day on which the
errors have been derived until that of the submission, so that `Draft.isClean` decides beforehand
how the submission ends: `submission_of_reached`.
-/

namespace FormEngine

namespace Draft

open Sitting

namespace Coherent

variable {form : Form} {own : Option Receiver} {s : Sitting}

/-- The values that are not hidden are those of the visible fields. -/
lemma keys_visibleValues (h : Coherent form own s) :
    s.draft.visibleValues.keys = s.draft.visibleKeys := by
  rw [visibleValues, Mapping.keys_filter_key (fun key => (s.draft.visibility.get? key).getD true),
    visibleKeys, h.keys_values, h.form_eq]
  refine List.filter_congr fun key hkey => ?_
  obtain ⟨f, hf⟩ := Mapping.mem_keys_iff.1 hkey
  have hverdict : s.draft.visibility.get? key = some (f.isShownBy s.draft.values) := by
    rw [h.visibility_eq, Form.get?_verdicts, hf, Option.map_some]
  rw [shows, hverdict]
  rfl

/-- The data of a report without errors have the keys of the visible fields. -/
lemma keys_data (h : Coherent form own s) (named : form.NamesFields) {today : Date} {r : Report}
    (hr : (s.draft.judge today).result = .ok r) (clean : r.isClean = true) :
    r.data.keys = s.draft.visibleKeys := by
  rw [h.judge_eq named] at hr
  rw [Checklist.keys_data_of_clean hr clean, Form.chosen_keys, h.visibleKeys_eq]

end Coherent

/-- In every draft that a run can come to, for every receiver and on every day until which the
values last, judging succeeds and finds the errors that the draft holds, so that they decide how a
submission ends.  Without errors it is accepted: the receiver is called once with the converted
values of exactly the visible fields, and nothing changes but the count.  With errors it is refused:
nobody is called, and nothing changes but that it is remembered. -/
theorem submission_of_reached {form : Form} {own : Option Receiver} {s : Sitting} {today : Date}
    (reached : Reached form own s) (lasts : form.Lasts s.day today s.draft.values)
    (given : Option Receiver) :
    ∃ r, (s.draft.judge today).result = .ok r ∧ r.isClean = s.draft.isClean ∧
      (s.draft.isClean = true →
        (s.draft.submit today given).draft =
            { s.draft with submissions := s.draft.submissions + 1 } ∧
          (s.draft.submit today given).outcome.result = received (receiverFor given own) r ∧
          (s.draft.submit today given).outcome.handOvers =
            ((receiverFor given own).map fun called => (called.1, r.data)).toList ∧
          r.data.keys = s.draft.visibleKeys ∧ r.data.keys = s.draft.visibleValues.keys ∧
          ∀ key v, r.data.get? key = some v →
            (form.checklist.judgeField today key s.draft.values).result = .ok ⟨v, none⟩) ∧
      (s.draft.isClean = false →
        (s.draft.submit today given).draft = { s.draft with attempted := true } ∧
          (s.draft.submit today given).outcome.result = .ok r ∧
          (s.draft.submit today given).outcome.handOvers = []) := by
  obtain ⟨_, _, hread⟩ := reached.read
  have named := Form.namesFields_of_read hread
  have h := reached.coherent
  obtain ⟨r, hr, herrors⟩ := h.judge_result named lasts
  -- the errors of the draft are those of the report, so both are clean or neither is
  have hclean : r.isClean = s.draft.isClean := by
    rw [Draft.isClean, herrors]
    rfl
  refine ⟨r, hr, hclean, fun accepted => ?_, fun refused => ?_⟩
  · rw [← hclean] at accepted
    obtain ⟨hdraft, hresult, hover⟩ := submit_accepted hr accepted given
    rw [h.receiver_eq] at hover hresult
    have hkeys := h.keys_data named hr accepted
    refine ⟨?_, hresult, hover, hkeys, hkeys.trans h.keys_visibleValues.symm, fun key v hv => ?_⟩
    · rw [hdraft, ← herrors]
    · exact Checklist.data_of_judge (h.judge_eq named today ▸ hr) hv
  · rw [← hclean] at refused
    obtain ⟨hdraft, hresult, hover⟩ := submit_refused hr refused given
    refine ⟨?_, hresult, hover⟩
    rw [hdraft, ← herrors]

theorem submission_of_filledTrip :
    Reached trip none filledTrip ∧ filledTrip.draft.isClean = true ∧
      ∃ r : Report, (filledTrip.draft.submit tripDay (some fullReceiver)).outcome.handOvers =
          [(false, r.data)] ∧
        (filledTrip.draft.submit tripDay (some fullReceiver)).outcome.result =
          .error (.raised "full") ∧
        (filledTrip.draft.submit tripDay (some fullReceiver)).draft =
          { filledTrip.draft with submissions := 1 } ∧
        r.data.keys = ["car", "plate"] := by
  obtain ⟨r, -, -, accepted, -⟩ := submission_of_reached reached_filledTrip
    (trip_lasts _ tripDay _) (some fullReceiver)
  obtain ⟨hdraft, hresult, hover, hkeys, -⟩ := accepted rfl
  exact ⟨reached_filledTrip, rfl, r, hover, hresult, hdraft, hkeys⟩

end Draft

end FormEngine
