import FormEngine.Proofs.Check.Faults
import FormEngine.Proofs.Draft.Atomicity

/-!
# Bad input is told, unless a field stalls

Whatever is entered into a form without predicates, it is judged: what is bad about it becomes the
message of a field, and no operation ends with a fault over it.  There is one exception, which
`Field.Stalls` describes: a text for a number or a date on which the check of the field itself has
no answer.  It takes the whole form along, since the fields are judged one after the other and the
first that stalls ends the walk (`Form.StallsFirst`).

`robust_of_hasNoPredicate` says that a form faults in no other way, be it judged, mounted or written
to, and that it does not fault at all on texts that are short enough.
-/

namespace FormEngine

namespace Form

variable {form : Form} {today : Date} {values : Mapping Value} {only : Option (List Text)}
  {fault : Fault}

/-- No field has a predicate. -/
def HasNoPredicate (form : Form) : Prop :=
  ∀ e ∈ form.fields.entries, e.2.rules.bind (·.predicate) = none

/-- A field that is asked for does not stall on its value. -/
def Passes (today : Date) (values : Mapping Value) (only : Option (List Text))
    (e : Text × Field) : Prop :=
  only.all (·.contains e.1) = true →
    ∀ fault, ¬ e.2.Stalls today (Checklist.valueOf values e.1) fault

/-- A field that is asked for stalls on its value. -/
def Halts (today : Date) (values : Mapping Value) (only : Option (List Text)) (fault : Fault)
    (e : Text × Field) : Prop :=
  only.all (·.contains e.1) = true ∧ e.2.Stalls today (Checklist.valueOf values e.1) fault

/-- The first asked field of a form that stalls on its value does so with a fault. -/
def StallsFirst (today : Date) (form : Form) (values : Mapping Value)
    (only : Option (List Text)) (fault : Fault) : Prop :=
  ∃ before e since, form.fields.entries = before ++ e :: since ∧
    (∀ e' ∈ before, Passes today values only e') ∧ Halts today values only fault e

/-- Every text among some values is short enough for its field. -/
def Fits (form : Form) (values : Mapping Value) : Prop :=
  ∀ e ∈ form.fields.entries, e.2.Fits (Checklist.valueOf values e.1)

/-! ## Judging -/

/-- A walk through gates without predicates ends with the fault of the first field that stalls. -/
lemma judgeFrom_eq_error {fields : List (Text × Field)}
    (plain : ∀ e ∈ fields, e.2.rules.bind (·.predicate) = none) {r : Report} :
    (Checklist.judgeFrom today values only (fields.map fun e => (e.1, e.2.gate)) r).result =
        .error fault ↔
      ∃ before e since, fields = before ++ e :: since ∧
        (∀ e' ∈ before, Passes today values only e') ∧ Halts today values only fault e := by
  induction fields generalizing r with
  | nil => simp [Checklist.judgeFrom]
  | cons e fields ih =>
      obtain ⟨hplain, hrest⟩ := List.forall_mem_cons.1 plain
      rw [exists_first_cons_iff, List.map_cons, Checklist.judgeFrom]
      by_cases hasked : only.all (·.contains e.1) = true
      · have hfaults : ∀ reason,
            (e.2.gate.judge today (Checklist.valueOf values e.1) values).result = .error reason ↔
              e.2.Stalls today (Checklist.valueOf values e.1) reason :=
          fun reason => Field.judge_faults_iff hplain
        rw [if_pos hasked, Traced.bind_result_eq_error, hfaults]
        cases hjudge : (e.2.gate.judge today (Checklist.valueOf values e.1) values).result with
        | error reason =>
            have hstalls := (hfaults reason).1 hjudge
            have hpasses : ¬ Passes today values only e := fun h => h hasked reason hstalls
            have hhalts : Halts today values only fault e ↔
                e.2.Stalls today (Checklist.valueOf values e.1) fault := and_iff_right hasked
            simp [hhalts, hpasses]
        | ok j =>
            have hpasses : Passes today values only e := by
              intro _ reason hstalls
              rw [(hfaults reason).2 hstalls] at hjudge
              cases hjudge
            have hhalts : ¬ Halts today values only fault e := fun h => hpasses h.1 fault h.2
            have hstalls : ¬ e.2.Stalls today (Checklist.valueOf values e.1) fault :=
              hpasses hasked fault
            simp only [hstalls, hhalts, hpasses, false_or, true_and, Except.ok.injEq,
              exists_eq_left']
            exact ih hrest
      · have hpasses : Passes today values only e := fun h => absurd h hasked
        have hhalts : ¬ Halts today values only fault e := fun h => hasked h.1
        rw [if_neg hasked, or_iff_right hhalts, and_iff_right hpasses]
        exact ih hrest

lemma HasNoPredicate.judge_eq_error (plain : form.HasNoPredicate) :
    (form.checklist.judge today values only).result = .error fault ↔
      form.StallsFirst today values only fault :=
  judgeFrom_eq_error plain

/-- No field stalls on texts that are short enough. -/
lemma Fits.not_stallsFirst (h : form.Fits values) (only : Option (List Text)) (fault : Fault) :
    ¬ form.StallsFirst today values only fault := by
  rintro ⟨before, e, since, hsplit, -, -, hstalls⟩
  have he : e ∈ form.fields.entries := by
    rw [hsplit]
    simp
  exact (h e he).not_stalls fault hstalls

end Form

namespace Draft

open Sitting

variable {form : Form} {today : Date} {receiver : Option Receiver}

/-! ## Mounting and writing -/

/-- A form faults over what is entered exactly as its first field that stalls does. -/
structure Robust (today : Date) (form : Form) : Prop where
  /-- Judging all fields or some of them. -/
  judged : ∀ values only fault,
    (form.checklist.judge today values only).result = .error fault ↔
      form.StallsFirst today values only fault
  /-- Mounting, where the fields are asked for that the initial values show. -/
  mounted : ∀ receiver fault, (mount today form receiver).result = .error fault ↔
    form.StallsFirst today form.initialValues (some (form.shownKeys form.initialValues)) fault
  /-- Writing the value of a field, where the fields are asked for that the new values show. -/
  wrote : ∀ receiver s, Reached form receiver s → ∀ key ∈ form.fields.keys, ∀ value fault,
    (s.draft.write today (.text key) value).outcome.result = .error fault ↔
      form.StallsFirst today (s.draft.values.set key value)
        (some (form.shownKeys (s.draft.values.set key value))) fault
  /-- Writing the values of several fields. -/
  wroteAll : ∀ receiver s, Reached form receiver s → ∀ written : List (Text × Value),
    (∀ e ∈ written, e.1 ∈ form.fields.keys) → ∀ fault,
      (s.draft.writeAll today (written.map fun e => (.text e.1, e.2))).outcome.result =
          .error fault ↔
        form.StallsFirst today (s.draft.values.setAll written)
          (some (form.shownKeys (s.draft.values.setAll written))) fault
  /-- Texts that are short enough are judged, whatever they say. -/
  fitting : ∀ values, form.Fits values → ∀ only,
    ∃ r, (form.checklist.judge today values only).result = .ok r

lemma mount_eq_error {fault : Fault} :
    (mount today form receiver).result = .error fault ↔
      (form.checklist.judge today form.initialValues
        (some (form.shownKeys form.initialValues))).result = .error fault := by
  rw [mount, Traced.bind_result_eq_error]
  constructor
  · rintro (hcompile | ⟨checklist, hcompile, hstart⟩)
    · cases hcompile
    · obtain rfl : form.checklist = checklist := Except.ok.inj hcompile
      exact settle_eq_error.1 hstart
  · intro h
    exact .inr ⟨form.checklist, rfl, settle_eq_error.2 h⟩

lemma stepTo_eq_error {d : Draft} {next : Traced Draft} {fault : Fault} :
    (d.stepTo next).outcome.result = .error fault ↔ next.result = .error fault := by
  rw [stepTo]
  cases next.result <;> simp [Except.map]

/-- Writing to declared fields ends with a fault exactly if judging the new values does. -/
lemma writeAll_eq_error {d : Draft} {written : List (Text × Value)}
    (declared : ∀ e ∈ written, e.1 ∈ d.form.fields.keys) {fault : Fault} :
    (d.writeAll today (written.map fun e => (.text e.1, e.2))).outcome.result = .error fault ↔
      (d.checklist.judge today (d.values.setAll written)
        (some (d.form.shownKeys (d.values.setAll written)))).result = .error fault := by
  have hentries : d.fieldEntries (written.map fun e => (.text e.1, e.2)) = .ok written :=
    fieldEntries_eq_ok.2 ⟨rfl, declared⟩
  rw [writeAll, stepTo_eq_error, hentries]
  exact settle_eq_error

/-- A form without predicates faults in no other way than by a field that stalls: judging, mounting
and writing to the fields of a draft, whatever a run has made of it, end with the fault of the
first asked field that stalls, and with none if no field does.  No field stalls on texts that are
short enough. -/
theorem robust_of_hasNoPredicate (plain : form.HasNoPredicate) (today : Date) :
    Robust today form := by
  have hjudged : ∀ values only fault,
      (form.checklist.judge today values only).result = .error fault ↔
        form.StallsFirst today values only fault :=
    fun _ _ _ => plain.judge_eq_error
  have hwrote : ∀ receiver s, Reached form receiver s → ∀ written : List (Text × Value),
      (∀ e ∈ written, e.1 ∈ form.fields.keys) → ∀ fault,
        (s.draft.writeAll today (written.map fun e => (.text e.1, e.2))).outcome.result =
            .error fault ↔
          form.StallsFirst today (s.draft.values.setAll written)
            (some (form.shownKeys (s.draft.values.setAll written))) fault := by
    intro receiver s reached written declared fault
    have h := reached.coherent
    rw [← hjudged, ← h.form_eq, ← h.made]
    exact writeAll_eq_error (by rwa [h.form_eq])
  refine ⟨hjudged, fun receiver fault => ?_, ?_, hwrote, ?_⟩
  · rw [mount_eq_error]
    exact hjudged _ _ fault
  · intro receiver s reached key hkey value fault
    rw [write_eq_writeAll]
    exact hwrote receiver s reached [(key, value)] (List.forall_mem_singleton.2 hkey) fault
  · intro values hfits only
    cases hjudge : (form.checklist.judge today values only).result with
    | error fault => exact absurd ((hjudged values only fault).1 hjudge) (hfits.not_stallsFirst _ _)
    | ok r => exact ⟨r, rfl⟩

/-! ## A form with a number that is too long -/

/-- A form that asks for a name and an age. -/
def guestDocument : Value := .map [
  (.text "id", .text "guest"),
  (.text "fields", .map [
    (.text "name", .map [(.text "renderer", .text "text")]),
    (.text "age", .map [(.text "renderer", .text "number")])])]

/-- What the document declares. -/
def guest : Form where
  id := "guest"
  intro := {}
  fields := ⟨[
    ("name", ⟨some "name", "", .text, none, none, none, .empty, none, none⟩),
    ("age", ⟨some "age", "", .number, none, none, none, .empty, none, none⟩)], by decide⟩
  layout := []

/-- The draft with which a guest begins. -/
def emptyGuest : Draft where
  form := guest
  checklist := guest.checklist
  receiver := none
  values := ⟨[("name", .text ""), ("age", .text "")], by decide⟩
  touched := []
  visibility := ⟨[("name", true), ("age", true)], by decide⟩
  errors := .empty
  attempted := false
  submissions := 0

lemma read_guestDocument : Form.read guestDocument = .accepted guest := rfl

lemma mount_guest : (mount tripDay guest none).result = .ok emptyGuest := rfl

/-- A text of nines. -/
def nines (count : Nat) : String := String.ofList (List.replicate count '9')

lemma writesInteger_nines {count : Nat} (h : 0 < count) :
    WritesInteger (nines count).toList count := by
  refine ⟨[], [], List.replicate count '9', [], by simp [nines], by simp, by simp, by simp, ?_, ?_,
    List.length_replicate⟩
  · intro c hc
    rw [List.eq_of_mem_replicate hc]
    decide
  · exact mt (List.replicate_eq_nil_iff _).1 h.ne'

lemma guest_hasNoPredicate : guest.HasNoPredicate :=
  List.forall_mem_cons.2 ⟨rfl, List.forall_mem_singleton.2 rfl⟩

/-- A guest of any age that is written with too many digits stalls. -/
lemma guest_stallsFirst {values : Mapping Value} {only : Option (List Text)} {count : Nat}
    (hlong : digitLimit < count) (hage : Checklist.valueOf values "age" = .text (nines count))
    (hasked : only.all (·.contains "age") = true) :
    guest.StallsFirst tripDay values only (.tooManyDigits count) := by
  refine ⟨_, _, [], rfl, List.forall_mem_singleton.2 fun _ fault => ?_, hasked, ?_⟩
  · intro hstalls
    rcases hstalls.widget_eq with shown | shown <;> cases shown
  · show Field.Stalls _ _ (Checklist.valueOf values "age") _
    rw [hage]
    exact .digits rfl (writesInteger_nines (Nat.zero_lt_of_lt hlong)) hlong

theorem robust_of_guest :
    guest.HasNoPredicate ∧ Reached guest none ⟨emptyGuest, tripDay⟩ ∧
      (∀ count, digitLimit < count →
        (guest.checklist.judge tripDay (Mapping.empty.set "age" (.text (nines count)))
            none).result = .error (.tooManyDigits count) ∧
          (emptyGuest.write tripDay (.text "age") (.text (nines count))).outcome.result =
            .error (.tooManyDigits count)) ∧
      ∀ only text, text.length ≤ digitLimit →
        ∃ r, (guest.checklist.judge tripDay (Mapping.empty.set "age" (.text text)) only).result =
          .ok r := by
  have reached : Reached guest none ⟨emptyGuest, tripDay⟩ := .mounted read_guestDocument mount_guest
  have robust := robust_of_hasNoPredicate guest_hasNoPredicate tripDay
  refine ⟨guest_hasNoPredicate, reached, fun count hlong => ?_, fun only text hshort => ?_⟩
  · constructor
    · exact (robust.judged _ none _).2 (guest_stallsFirst hlong rfl rfl)
    · exact (robust.wrote none _ reached "age" (by decide) _ _).2 (guest_stallsFirst hlong rfl rfl)
  · refine robust.fitting _ (List.forall_mem_cons.2 ⟨?_, List.forall_mem_singleton.2 ?_⟩) only
    · intro s _
      exact ⟨nofun, nofun⟩
    · rintro s hs
      obtain rfl : text = s := Value.text.inj hs
      exact ⟨fun _ => hshort, nofun⟩

end Draft

end FormEngine
