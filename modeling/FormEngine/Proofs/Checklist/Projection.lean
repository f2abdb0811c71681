import FormEngine.Proofs.Check.Conversion
import FormEngine.Proofs.Checklist.Independence
import FormEngine.Proofs.Draft.Robustness

/-!
# Accepted data are accepted again

The data of a report are what the checks have made of the values that were given.  They can be
stored, and be given back later to the same form: in a form without predicates a report on them,
asked for on just their fields, has the same data and no errors (`Form.data_judged_again`).

Field by field that is `Field.run_again`; that the reports agree follows from
`Checklist.judge_eq_ok_iff`.  A text that denotes a date may denote none on another day, so on other
days the same holds of data without dates only.
-/

namespace FormEngine

/-- Without a predicate a gate accepts what its check lets through. -/
lemma Gate.judge_of_run {g : Gate} (plain : g.predicate = none) {today : Date} {v v' : Value}
    (values : Mapping Value) (h : g.check.run today v = .ok v') :
    (g.judge today v values).result = .ok ⟨v', none⟩ := by
  rw [Gate.judge, h, plain]
  rfl

namespace Form

variable {form : Form} {today later : Date} {values : Mapping Value}
  {only : Option (List Text)} {r : Report}

/-- Without predicates a value among the data of a report is accepted as it is, on any day on which
its check still lets it through. -/
lemma HasNoPredicate.judgeField_data (plain : form.HasNoPredicate)
    (hr : (form.checklist.judge today values only).result = .ok r)
    (lasts : ∀ id ∈ r.data.keys, ∀ f, form.fields.get? id = some f →
      later = today ∨ f.widget ≠ .date) {id : Text} {v : Value}
    (hv : r.data.get? id = some v) :
    (form.checklist.judgeField later id r.data).result = .ok ⟨v, none⟩ := by
  obtain ⟨f, hf, hrun⟩ := run_of_data hr hv
  have hagain : f.check.run later v = .ok v := by
    rcases lasts id (Mapping.mem_keys_of_get? hv) f hf with rfl | hdate
    · exact Field.run_again hrun
    · rw [Field.run_eq_of_not_date hdate later today]
      exact Field.run_again hrun
  have hvalue : Checklist.valueOf r.data id = v := by
    rw [Checklist.valueOf, hv, Option.getD_some]
  have hplain : f.gate.predicate = none := plain (id, f) ((Mapping.mem_entries_iff _).2 hf)
  rw [judgeField_eq hf, hvalue]
  exact Gate.judge_of_run hplain r.data hagain

/-- The report on the data of a report, on a day on which their checks still let them through. -/
lemma HasNoPredicate.judge_data (plain : form.HasNoPredicate)
    (hr : (form.checklist.judge today values only).result = .ok r)
    (lasts : ∀ id ∈ r.data.keys, ∀ f, form.fields.get? id = some f →
      later = today ∨ f.widget ≠ .date) :
    (form.checklist.judge later r.data (some r.data.keys)).result = .ok ⟨r.data, .empty⟩ := by
  rw [Checklist.judge_eq_ok_iff]
  refine ⟨?_, ?_, ?_, ?_⟩
  · intro id hasked
    obtain ⟨v, hv⟩ := Mapping.mem_keys_iff.1 (List.contains_iff_mem.1 hasked.2)
    refine ⟨⟨v, none⟩, plain.judgeField_data hr lasts hv, ?_⟩
    rw [Report.about, hv]
    rfl
  · intro id hother
    have hmissing : r.data.get? id = none := by
      rw [Mapping.get?_eq_none_iff]
      intro hid
      have hdeclared := (Checklist.reports_of_judge hr).data_ordered.subset hid
      exact hother ⟨hdeclared, List.contains_iff_mem.2 hid⟩
    rw [Report.about, hmissing]
    rfl
  · exact (Checklist.reports_of_judge hr).data_ordered
  · exact List.nil_sublist _

/-- In a form without predicates the data of any report are accepted again just as they are when
they are judged for themselves, each by the field that it belongs to; and that stays so on all other
days, unless a date is among them. -/
theorem data_judged_again (plain : form.HasNoPredicate)
    (judged : (form.checklist.judge today values only).result = .ok r) :
    (form.checklist.judge today r.data (some r.data.keys)).result = .ok ⟨r.data, .empty⟩ ∧
      ((∀ id ∈ r.data.keys, ∀ f, form.fields.get? id = some f → f.widget ≠ .date) →
        ∀ later, (form.checklist.judge later r.data (some r.data.keys)).result =
          .ok ⟨r.data, .empty⟩) := by
  constructor
  · exact plain.judge_data judged fun _ _ _ _ => .inl rfl
  · intro undated later
    exact plain.judge_data judged fun id hid f hf => .inr (undated id hid f hf)

lemma visit_hasNoPredicate : visit.HasNoPredicate := by
  simp [HasNoPredicate, visit]

/-- What a visitor enters who takes the time, but leaves out the name. -/
def calmVisit : Mapping Value :=
  ⟨[("topics", .tuple [.text "art", .text "law"]), ("age", .text " 41 ")], by decide⟩

/-- What becomes of it. -/
def calmData : Mapping Value :=
  ⟨[("age", .int 41), ("topics", .list [.text "art", .text "law"])], by decide⟩

theorem data_of_calmVisit_judged_again :
    visit.HasNoPredicate ∧
      (visit.checklist.judge visitDay calmVisit (some ["topics", "age", "pet"])).result =
        .ok ⟨calmData, .empty⟩ ∧
      (visit.checklist.judge visitDay calmData (some ["age", "topics"])).result =
        .ok ⟨calmData, .empty⟩ ∧
      (visit.checklist.judge ⟨2030, 1, 1⟩ calmData (some ["age", "topics"])).result =
        .ok ⟨calmData, .empty⟩ := by
  have judged : (visit.checklist.judge visitDay calmVisit
      (some ["topics", "age", "pet"])).result = .ok ⟨calmData, .empty⟩ := rfl
  obtain ⟨again, later⟩ := data_judged_again visit_hasNoPredicate judged
  exact ⟨visit_hasNoPredicate, judged, again, later (by decide) _⟩

end Form

end FormEngine
