import FormEngine.Proofs.Draft.History
import FormEngine.Proofs.View.Painting

/-!
# A painted draft agrees with itself

A painted draft tells some things twice.  Its envelope lists the visible fields and the errors that
are shown, and every card in its layout tells for one field whether it has been touched and which
error is shown.  The two are computed apart from each other: the envelope from the whole draft, and
each card from the entry of its field.

That they agree rests on two invariants.  Fields call themselves by their keys, so that a card looks
up what the envelope lists; and errors belong to visible fields only, so that the envelope tells no
error that no card could show.  `Consistent` puts together what a reader can rely on, and
`consistent_after_run` says that it holds after every run of operations.
-/

namespace FormEngine

namespace Draft

open Sitting

variable {form : Form} {receiver : Option Receiver} {s : Sitting}

/-- What a card tells of its field, given the envelope around it. -/
structure Card (d : Draft) (view : DraftView FieldCard) (card : FieldCard) : Prop where
  visible : card.fieldId ∈ view.visibleKeys
  value : d.values.get? card.fieldId = some card.value
  touched : card.touched = true ↔ card.fieldId ∈ d.touched
  /-- The error of a card is the single message that the envelope has for its field. -/
  error : ∀ messages, view.errors.get? card.fieldId = some messages →
    ∃ message, messages = [message] ∧ card.error = some message
  /-- A card shows no error that the envelope does not have. -/
  clean : view.errors.get? card.fieldId = none → card.error = none

/-- What a reader of a painted draft can rely on, given the moments that have led to the draft. -/
structure Consistent (form : Form) (d : Draft) (ms : List Moment) (view : DraftView FieldCard) :
    Prop where
  /-- The visible fields are listed in the order of the form. -/
  visible : view.visibleKeys =
    form.fields.keys.filter fun key => d.visibility.get? key = some true
  errors_visible : ∀ key ∈ view.errors.keys, key ∈ view.visibleKeys
  /-- All errors are shown if a submission has been refused since the last reset. -/
  errors_refused : (∃ m ∈ sinceReset ms, m.refuses = true) → view.errors = d.errors
  /-- Otherwise the errors of touched fields are shown. -/
  errors_touched : (¬ ∃ m ∈ sinceReset ms, m.refuses = true) →
    view.errors = d.errors.filter fun key _ => key ∈ d.touched
  /-- Every card anywhere in the layout agrees with the draft and the envelope. -/
  cards : ∀ card ∈ View.payloadsOf view.layout, Card d view card
  /-- For every error of a field in the layout there is a card that shows it. -/
  shown : ∀ id ∈ form.shownFields, (id : Text) ∈ view.errors.keys →
    ∃ card ∈ View.payloadsOf view.layout, card.fieldId = id

/-! ## The envelope -/

lemma shows_iff {d : Draft} {key : Text} :
    d.shows key = true ↔ d.visibility.get? key = some true := by
  unfold shows
  cases d.visibility.get? key with
  | none => simp
  | some shown => simp

/-- The names under which visible fields are listed. -/
lemma Coherent.visibleIds_filter (h : Coherent form receiver s) (named : form.NamesFields) :
    s.draft.visibleIds =
      form.fields.keys.filter fun key => s.draft.visibility.get? key = some true := by
  rw [h.visibleIds_eq named, visibleKeys, h.form_eq]
  refine List.filter_congr fun key _ => ?_
  rw [Bool.eq_iff_iff, decide_eq_true_eq]
  exact shows_iff

/-- An error that is shown is stored. -/
lemma stored_of_shownError {d : Draft} {key : Text} {messages : List Text}
    (h : d.shownErrors.get? key = some messages) : d.errors.get? key = some messages := by
  rw [shownErrors, Mapping.get?_filter] at h
  exact (Option.filter_eq_some_iff.1 h).1

/-- A field with an error that is shown is listed as visible. -/
lemma Coherent.visible_of_shownError (h : Coherent form receiver s) (named : form.NamesFields)
    {key : Text} {messages : List Text}
    (herror : s.draft.shownErrors.get? key = some messages) : key ∈ s.draft.visibleIds := by
  have hvisible := (h.errors_told (stored_of_shownError herror)).1
  have hdeclared : key ∈ form.fields.keys := by
    rw [← Form.keys_verdicts form s.draft.values, ← h.visibility_eq]
    exact Mapping.mem_keys_of_get? hvisible
  rw [h.visibleIds_filter named, List.mem_filter, decide_eq_true_eq]
  exact ⟨hdeclared, hvisible⟩

/-- Once a submission has been refused, all errors are shown. -/
lemma shownErrors_of_attempted {d : Draft} (h : d.attempted = true) : d.shownErrors = d.errors := by
  refine Mapping.eq_of_entries_eq (List.filter_eq_self.2 fun e _ => ?_)
  simp [h]

/-- Before that, the errors of touched fields are shown. -/
lemma shownErrors_of_not_attempted {d : Draft} (h : ¬ d.attempted = true) :
    d.shownErrors = d.errors.filter fun key _ => key ∈ d.touched := by
  refine Mapping.eq_of_entries_eq (List.filter_congr fun e _ => ?_)
  simp [h]

/-! ## The cards -/

/-- A card is that of the field under whose key its declaration stands. -/
lemma fieldId_of {d : Draft} (named : form.NamesFields) {id : Text} {f : Field}
    (hf : form.field? id = some f) : f.id = some id ∧ (FieldCard.of f d).fieldId = id := by
  have hid : f.id = some id := named (id, f) ((Mapping.mem_entries_iff _).2 hf)
  exact ⟨hid, by simp [FieldCard.of, hid]⟩

/-- The card of a visible field agrees with the draft and with the envelope. -/
lemma Coherent.card (h : Coherent form receiver s) (named : form.NamesFields) {id : Text}
    {f : Field} (hf : form.field? id = some f) (hshows : s.draft.shows id = true)
    {view : DraftView FieldCard} (hvisible : view.visibleKeys = s.draft.visibleIds)
    (herrors : view.errors = s.draft.shownErrors) : Card s.draft view (FieldCard.of f s.draft) := by
  obtain ⟨hid, hfieldId⟩ := fieldId_of (d := s.draft) named hf
  have herror : (FieldCard.of f s.draft).error =
      (s.draft.shownErrors.get? id).bind List.head? := by simp [FieldCard.of, hid]
  have hdeclared : id ∈ form.fields.keys := Mapping.mem_keys_of_get? hf
  obtain ⟨v, hv⟩ := Mapping.mem_keys_iff.1 (h.keys_values ▸ hdeclared)
  refine ⟨?_, ?_, ?_, ?_, ?_⟩
  · rw [hfieldId, hvisible, h.visibleIds_filter named, List.mem_filter, decide_eq_true_eq]
    exact ⟨hdeclared, shows_iff.1 hshows⟩
  · have hvalue : (FieldCard.of f s.draft).value = v := by simp [FieldCard.of, hid, hv]
    rw [hfieldId, hvalue, hv]
  · rw [hfieldId]
    simp [FieldCard.of, hid]
  · intro messages hmessages
    rw [hfieldId, herrors] at hmessages
    obtain ⟨message, -, rfl⟩ := (h.errors_told (stored_of_shownError hmessages)).2
    exact ⟨message, rfl, by rw [herror, hmessages]; rfl⟩
  · intro hnone
    rw [hfieldId, herrors] at hnone
    rw [herror, hnone]
    rfl

/-! ## The painted draft -/

/-- A coherent draft of a form whose parts agree is painted consistently, if it remembers the
refused submissions of its history. -/
theorem Coherent.consistent (h : Coherent form receiver s) (named : form.NamesFields)
    (declared : form.ShowsDeclared) {ms : List Moment}
    (hattempted : s.draft.attempted = true ↔ ∃ m ∈ sinceReset ms, m.refuses = true) :
    ∃ view, s.draft.paint paintCard = .ok view ∧ Consistent form s.draft ms view := by
  obtain ⟨layout, hlayout, hpainted⟩ :=
    painted_of_showsDeclared (d := s.draft) (h.form_eq ▸ declared) paintCard
  have hpayloads : View.payloadsOf layout =
      form.shownFields.filterMap (s.draft.look paintCard) := by
    rw [hpainted.payloads, h.form_eq]
    rfl
  have hpaint : s.draft.paint paintCard = .ok ⟨s.draft.form.id, s.draft.form.intro, layout,
      s.draft.visibleIds, s.draft.shownErrors⟩ := by
    rw [Draft.paint, hlayout]
    rfl
  have hvisible := h.visibleIds_filter named
  refine ⟨_, hpaint, hvisible, ?_, ?_, ?_, ?_, ?_⟩
  · intro key hkey
    obtain ⟨messages, herror⟩ := Mapping.mem_keys_iff.1 hkey
    exact h.visible_of_shownError named herror
  · intro hrefused
    exact shownErrors_of_attempted (hattempted.2 hrefused)
  · intro hrefused
    exact shownErrors_of_not_attempted (mt hattempted.1 hrefused)
  · intro card hcard
    rw [hpayloads, List.mem_filterMap] at hcard
    obtain ⟨id, -, hlook⟩ := hcard
    obtain ⟨f, hf, hshows, rfl⟩ := look_paintCard_eq_some.1 hlook
    exact h.card named (h.form_eq ▸ hf) hshows rfl rfl
  · intro id hid hkey
    obtain ⟨messages, herror⟩ := Mapping.mem_keys_iff.1 hkey
    obtain ⟨f, hf⟩ := declared id hid
    have hshows : s.draft.shows id = true :=
      shows_iff.2 (h.errors_told (stored_of_shownError herror)).1
    have hlook : s.draft.look paintCard id = some (FieldCard.of f s.draft) :=
      look_paintCard_eq_some.2 ⟨f, h.form_eq ▸ hf, hshows, rfl⟩
    refine ⟨FieldCard.of f s.draft, ?_, (fieldId_of named hf).2⟩
    rw [hpayloads]
    exact List.mem_filterMap.2 ⟨id, hid, hlook⟩

/-- However a form that has been read is mounted and whatever is done then, painting the draft
succeeds, and the painted draft agrees with the draft, with its history and with itself. -/
theorem consistent_after_run {doc : Value} {host : Predicate.Host} {today : Date} {d : Draft}
    (read : Form.read doc host = .accepted form)
    (mounted : (mount today form receiver).result = .ok d) (run : List Dated) :
    ∃ view, ((⟨d, today⟩ : Sitting).after run).draft.paint paintCard = .ok view ∧
      Consistent form ((⟨d, today⟩ : Sitting).after run).draft
        ((⟨d, today⟩ : Sitting).moments run) view := by
  have reached : Reached form receiver ⟨d, today⟩ := .mounted read mounted
  have coherent := (reached.after run).coherent
  have told := reached.told (told_of_mount mounted) run
  exact coherent.consistent (Form.namesFields_of_read read) (Form.showsDeclared_of_read read)
    told.attempted

/-- A tour with a guide whose language is asked for in vain. -/
def tourRun : List Dated :=
  [⟨tripDay, .write (.text "guide") (.bool true)⟩, ⟨tripDay, .submit none⟩]

theorem consistent_after_tourRun :
    ∃ view, ((⟨emptyTour, tripDay⟩ : Sitting).after tourRun).draft.paint paintCard = .ok view ∧
      Consistent tour ((⟨emptyTour, tripDay⟩ : Sitting).after tourRun).draft
        ((⟨emptyTour, tripDay⟩ : Sitting).moments tourRun) view ∧
      view.visibleKeys = ["guide", "language"] ∧
      view.errors.entries = ([("language", ["Required"])] : List (Text × List Text)) := by
  obtain ⟨view, hpaint, hconsistent⟩ :=
    consistent_after_run read_tourDocument mount_tour tourRun
  have hrefused : ∃ m ∈ sinceReset ((⟨emptyTour, tripDay⟩ : Sitting).moments tourRun),
      m.refuses = true :=
    ⟨_, List.mem_cons_of_mem _ List.mem_cons_self, rfl⟩
  refine ⟨view, hpaint, hconsistent, hconsistent.visible, ?_⟩
  rw [hconsistent.errors_refused hrefused]
  rfl

end Draft

end FormEngine
