import FormEngine.Proofs.Check.Conversion
import FormEngine.Proofs.Checklist.Independence
import FormEngine.Proofs.Draft.Coherence

/-!
# A write stays local

Writing one value derives everything anew that a draft stores.  `local_of_write` says what comes out
as it was all the same: the other values, the visibility of the fields that have no condition on the
written one, and the errors of those fields, unless a predicate looks further or a date does not
last.

It rests on what is looked at in deriving.  A condition looks at the value of the one field that it
is about (`Condition.judge_congr`), so the visibility of a field only moves along with one of its
own conditions (`Field.exists_condition_of_isShownBy_ne`).  The judgement of a field looks at its
value and no other (`Field.judge_eq_of_plain`).  Neither looks at whether a field is visible, so
what a write hides or shows hides and shows nothing else.
-/

namespace FormEngine

/-! ## What is looked at -/

/-- Whether a field has a condition on another. -/
def Field.DependsOn (g : Field) (key : Text) : Prop := ∃ c ∈ g.conditions, c.field = key
deriving Decidable

lemma Condition.judge_congr {c : Condition} {values values' : Mapping Value}
    (h : values.get? c.field = values'.get? c.field) : c.judge values = c.judge values' := by
  rw [judge, judge, h]

namespace Field

variable {g : Field} {values values' : Mapping Value}

lemma isShownBy_congr (h : ∀ c ∈ g.conditions, c.judge values = c.judge values') :
    g.isShownBy values = g.isShownBy values' := by
  rw [isShownBy, isShownBy, Condition.allMet, Condition.allMet, Bool.eq_iff_iff,
    List.all_eq_true, List.all_eq_true]
  exact forall₂_congr fun c hc => by rw [h c hc]

/-- The verdict on a field moves with the verdict on one of its conditions. -/
lemma exists_condition_of_isShownBy_ne (h : g.isShownBy values ≠ g.isShownBy values') :
    ∃ c ∈ g.conditions, c.judge values ≠ c.judge values' := by
  by_contra hnone
  push Not at hnone
  exact h (isShownBy_congr hnone)

/-- The judgement of a field without a predicate depends on its value alone, while that lasts. -/
lemma judge_eq_of_plain (plain : g.rules.bind (·.predicate) = none) {today day : Date} {v : Value}
    (lasts : g.Lasts day today v) (values values' : Mapping Value) :
    g.gate.judge today v values = g.gate.judge day v values' := by
  have hplain : g.gate.predicate = none := plain
  have hrun : g.gate.check.run today v = g.gate.check.run day v := run_eq_of_lasts lasts
  rw [Gate.judge, Gate.judge, hrun, hplain]

end Field

namespace Draft

open Sitting

variable {form : Form} {own : Option Receiver} {s : Sitting} {today : Date} {key : Text}
  {value : Value}

/-! ## Errors, field by field -/

namespace Coherent

lemma error_of_hidden (h : Coherent form own s) {id : Text} {g : Field}
    (hg : form.fields.get? id = some g) (hidden : g.isShownBy s.draft.values = false) :
    s.draft.errors.get? id = none := by
  obtain ⟨r, hr, herrors⟩ := h.errors_eq
  have hasked : ¬ form.checklist.Asks (some (form.shownKeys s.draft.values)) id := by
    rintro ⟨-, hid⟩
    obtain ⟨f, hf, hshown⟩ := Form.mem_shownKeys.1 (List.contains_iff_mem.1 hid)
    obtain rfl : f = g := Option.some.inj (hf.symm.trans hg)
    rw [hidden] at hshown
    cases hshown
  rw [herrors]
  exact congrArg Prod.snd ((Checklist.reports_of_judge hr).others id hasked)

/-- The error of a visible field is what the judgement of the field tells. -/
lemma error_of_shown (h : Coherent form own s) {id : Text} {g : Field}
    (hg : form.fields.get? id = some g) (shown : g.isShownBy s.draft.values = true) :
    ∃ j, (g.gate.judge s.day (Checklist.valueOf s.draft.values id) s.draft.values).result = .ok j ∧
      s.draft.errors.get? id = j.entry.2 := by
  obtain ⟨r, hr, herrors⟩ := h.errors_eq
  have hdeclared : id ∈ form.checklist.gates.keys := by
    rw [form.keys_gates]
    exact Mapping.mem_keys_of_get? hg
  have hasked : form.checklist.Asks (some (form.shownKeys s.draft.values)) id :=
    ⟨hdeclared, List.contains_iff_mem.2 (Form.mem_shownKeys.2 ⟨g, hg, shown⟩)⟩
  obtain ⟨j, hj, hleaves⟩ := (Checklist.reports_of_judge hr).asked id hasked
  rw [Form.judgeField_eq hg] at hj
  rw [herrors]
  exact ⟨j, hj, congrArg Prod.snd hleaves⟩

/-- Two drafts of a form have the same error for a field that both show or both hide, with the same
value in both, if the judgement of the field looks at nothing else. -/
lemma error_congr {s' : Sitting} (h : Coherent form own s) (h' : Coherent form own s')
    {id : Text} {g : Field} (hg : form.fields.get? id = some g)
    (plain : g.rules.bind (·.predicate) = none)
    (lasts : g.Lasts s.day s'.day (Checklist.valueOf s.draft.values id))
    (hvalue : s'.draft.values.get? id = s.draft.values.get? id)
    (hshown : g.isShownBy s'.draft.values = g.isShownBy s.draft.values) :
    s'.draft.errors.get? id = s.draft.errors.get? id := by
  cases shown : g.isShownBy s.draft.values with
  | false => rw [h.error_of_hidden hg shown, h'.error_of_hidden hg (hshown.trans shown)]
  | true =>
      obtain ⟨j, hj, herror⟩ := h.error_of_shown hg shown
      obtain ⟨j', hj', herror'⟩ := h'.error_of_shown hg (hshown.trans shown)
      have hsame : Checklist.valueOf s'.draft.values id = Checklist.valueOf s.draft.values id := by
        rw [Checklist.valueOf, Checklist.valueOf, hvalue]
      rw [hsame, Field.judge_eq_of_plain plain lasts _ s.draft.values, hj] at hj'
      obtain rfl : j = j' := Except.ok.inj hj'
      rw [herror, herror']

end Coherent

/-! ## A single write -/

/-- What a write to a field leaves as it was, given the draft after it. -/
structure Local (form : Form) (today : Date) (key : Text) (s : Sitting) (d : Draft) : Prop where
  values : ∀ id, id ≠ key → d.values.get? id = s.draft.values.get? id
  visibility : ∀ id g, form.fields.get? id = some g → ¬ g.DependsOn key →
    d.visibility.get? id = s.draft.visibility.get? id
  /-- The errors of a field are those of the day on which they have been derived, which only matters
  where a date is asked for and the value does not last. -/
  errors : ∀ id g, form.fields.get? id = some g → id ≠ key → ¬ g.DependsOn key →
    g.rules.bind (·.predicate) = none →
    g.Lasts s.day today (Checklist.valueOf s.draft.values id) →
      d.errors.get? id = s.draft.errors.get? id
  /-- Conditions on other fields keep their verdict, also on those that the write hides or shows. -/
  conditions : ∀ c : Condition, c.field ≠ key → c.judge d.values = c.judge s.draft.values
  /-- The visibility of a field moves only along with a condition of its own on the written one. -/
  moved : ∀ id g, form.fields.get? id = some g →
    d.visibility.get? id ≠ s.draft.visibility.get? id →
      ∃ c ∈ g.conditions, c.field = key ∧ c.judge d.values ≠ c.judge s.draft.values

/-- A write that ends without a fault stores its value and leaves the draft coherent. -/
lemma Coherent.write (h : Coherent form own s)
    (wrote : (s.draft.write today (.text key) value).outcome.result = .ok ()) :
    Coherent form own ⟨(s.draft.write today (.text key) value).draft, today⟩ ∧
      (s.draft.write today (.text key) value).draft.values = s.draft.values.set key value := by
  rcases write_cases today s.draft (.text key) value with hfails | ⟨id, r, hkey, hid, hr, -, hdraft⟩
  · obtain ⟨⟨fault, hfault⟩, -⟩ := hfails
    rw [hfault] at wrote
    cases wrote
  · obtain rfl : key = id := Value.text.inj hkey
    have hdeclared : key ∈ s.draft.values.keys := by rwa [h.keys_values, ← h.form_eq]
    have hkeys : (s.draft.values.set key value).keys = form.fields.keys := by
      rw [Mapping.keys_set_of_mem _ _ hdeclared, h.keys_values]
    rw [hdraft]
    exact ⟨h.settled hkeys (h.touching_declared [key]) hr, rfl⟩

/-- In every draft that a run can come to, a write that ends without a fault stays local: the other
values stay, a field is hidden or shown by it only through a condition of its own on the written
field, and fields that have none and no predicate keep their errors, if their values last until the
day of the write. -/
theorem local_of_write (reached : Reached form own s)
    (wrote : (s.draft.write today (.text key) value).outcome.result = .ok ()) :
    Local form today key s (s.draft.write today (.text key) value).draft := by
  have h := reached.coherent
  obtain ⟨h', hset⟩ := h.write wrote
  generalize (s.draft.write today (.text key) value).draft = d at h' hset
  have hvalues : ∀ id, id ≠ key → d.values.get? id = s.draft.values.get? id := by
    intro id hid
    rw [hset, Mapping.get?_set_of_ne _ _ hid]
  have hconditions : ∀ c : Condition, c.field ≠ key → c.judge d.values = c.judge s.draft.values :=
    fun c hc => Condition.judge_congr (hvalues c.field hc)
  have hshown : ∀ g : Field, ¬ g.DependsOn key →
      g.isShownBy d.values = g.isShownBy s.draft.values := by
    intro g hg
    refine Field.isShownBy_congr fun c hc => hconditions c ?_
    intro hkey
    exact hg ⟨c, hc, hkey⟩
  have hverdict : ∀ id g, form.fields.get? id = some g →
      d.visibility.get? id = some (g.isShownBy d.values) :=
    fun _ _ hg => h'.visibility_of_get? hg
  refine ⟨hvalues, ?_, ?_, hconditions, ?_⟩
  · intro id g hg independent
    rw [hverdict id g hg, h.visibility_of_get? hg, hshown g independent]
  · intro id g hg hid independent plain lasts
    exact h.error_congr h' hg plain lasts (hvalues id hid) (hshown g independent)
  · intro id g hg hmoved
    rw [hverdict id g hg, h.visibility_of_get? hg] at hmoved
    obtain ⟨c, hc, hjudge⟩ := Field.exists_condition_of_isShownBy_ne fun h => hmoved (by rw [h])
    exact ⟨c, hc, not_imp_comm.1 (hconditions c) hjudge, hjudge⟩

/-! ## A form with a chain of conditions -/

/-- A form that asks those who stay at a hotel for their room, and for the view of a double room. -/
def stayDocument : Value := .map [
  (.text "id", .text "stay"),
  (.text "fields", .map [
    (.text "hotel", .map [(.text "renderer", .text "checkbox")]),
    (.text "room", .map [
      (.text "renderer", .text "text"),
      (.text "visibleWhen", .map [
        (.text "field", .text "hotel"), (.text "op", .text "equals"),
        (.text "value", .bool true)])]),
    (.text "view", .map [
      (.text "renderer", .text "text"),
      (.text "rules", .map [(.text "required", .bool true)]),
      (.text "visibleWhen", .map [
        (.text "field", .text "room"), (.text "op", .text "equals"),
        (.text "value", .text "double")])])])]

/-- What the document declares. -/
def stay : Form where
  id := "stay"
  intro := {}
  fields := ⟨[
    ("hotel", ⟨some "hotel", "", .checkbox, none, none, none, .empty, none, none⟩),
    ("room", ⟨some "room", "", .text, none, none, none, .empty, none,
      some (.single ⟨"hotel", "equals", .bool true⟩)⟩),
    ("view", ⟨some "view", "", .text, none, none, none, .empty, some { required := .flag true },
      some (.single ⟨"room", "equals", .text "double"⟩)⟩)], by decide⟩
  layout := []

/-- The draft with which a stay begins. -/
def emptyStay : Draft where
  form := stay
  checklist := stay.checklist
  receiver := none
  values := ⟨[("hotel", .bool false), ("room", .text ""), ("view", .text "")], by decide⟩
  touched := []
  visibility := ⟨[("hotel", true), ("room", false), ("view", false)], by decide⟩
  errors := .empty
  attempted := false
  submissions := 0

lemma read_stayDocument : Form.read stayDocument = .accepted stay := rfl

lemma mount_stay : (mount tripDay stay none).result = .ok emptyStay := rfl

/-- A stay at a hotel, in a double room without a view. -/
def doubleStay : Sitting :=
  (⟨emptyStay, tripDay⟩ : Sitting).after
    [⟨tripDay, .write (.text "hotel") (.bool true)⟩,
      ⟨tripDay, .write (.text "room") (.text "double")⟩]

/-- Giving up the hotel hides the room; the view depends on the room and stays. -/
theorem local_of_doubleStay :
    Reached stay none doubleStay ∧
      (doubleStay.draft.write tripDay (.text "hotel") (.bool false)).outcome.result = .ok () ∧
      Local stay tripDay "hotel" doubleStay
        (doubleStay.draft.write tripDay (.text "hotel") (.bool false)).draft ∧
      doubleStay.draft.visibility.get? "room" = some true ∧
      (doubleStay.draft.write tripDay (.text "hotel") (.bool false)).draft.visibility.get? "room" =
        some false ∧
      (doubleStay.draft.write tripDay (.text "hotel") (.bool false)).draft.visibility.get? "view" =
        some true ∧
      (doubleStay.draft.write tripDay (.text "hotel") (.bool false)).draft.errors.get? "view" =
        some [("Required" : Text)] := by
  have reached : Reached stay none doubleStay :=
    (Reached.mounted read_stayDocument mount_stay).after _
  have wrote : (doubleStay.draft.write tripDay (.text "hotel") (.bool false)).outcome.result =
      .ok () := rfl
  have stays := local_of_write reached wrote
  have independent : ∀ g, stay.fields.get? "view" = some g → ¬ g.DependsOn "hotel" := by decide
  have hview := stays.visibility "view" _ rfl (independent _ rfl)
  have herror := stays.errors "view" _ rfl (by decide) (independent _ rfl) rfl
    (Field.lasts_refl _ tripDay _)
  exact ⟨reached, wrote, stays, rfl, rfl, hview.trans rfl, herror.trans rfl⟩

end Draft

end FormEngine
