import FormEngine.Proofs.Check.Conversion
import FormEngine.Proofs.Checklist
import FormEngine.Proofs.Draft.Operation

/-!
# What lasts from one day to another

A text may leave out parts of a date, and these are then taken from the day on which it is read:
`31` denotes a date in May and none in June.  So a report on the same values need not be the same on
two days, and whatever is said about a report of another day has to say that this does not happen.

It does not happen while the values *last* (`Form.Lasts`): each visible field that asks for a date
holds a value that denotes one on both days, or on neither.  The values of a form without dates last
forever, and all values last for the day.  While they last, judging the visible fields is the same
on both days, with all that it asks predicates (`Form.Lasts.judge_eq`).
-/

namespace FormEngine

/-- Without a check that answers otherwise, a gate judges on one day as on the other. -/
lemma Field.Lasts.judge_eq {f : Field} {day today : Date} {v : Value} (h : f.Lasts day today v)
    (values : Mapping Value) : f.gate.judge today v values = f.gate.judge day v values := by
  have hrun : f.gate.check.run today v = f.gate.check.run day v := run_eq_of_lasts h
  rw [Gate.judge, Gate.judge, hrun]

namespace Form

variable {form : Form} {values : Mapping Value} {day today : Date}

/-! ## Judging the shown fields -/

/-- The gates that a report on the shown fields goes through. -/
lemma chosen_gates (form : Form) (values : Mapping Value) :
    Checklist.chosen (some (form.shownKeys values)) form.checklist.gates.entries =
      (form.fields.entries.filter fun e => e.2.isShownBy values).map fun e => (e.1, e.2.gate) := by
  have hgates : form.checklist.gates.entries = form.fields.entries.map fun e => (e.1, e.2.gate) :=
    rfl
  rw [Checklist.chosen, hgates, List.filter_map]
  refine congrArg (List.map _) (List.filter_congr fun e he => ?_)
  have hiff : e.1 ∈ form.shownKeys values ↔ e.2.isShownBy values = true := by
    rw [mem_shownKeys, (Mapping.mem_entries_iff _).1 he]
    simp
  show (form.shownKeys values).contains e.1 = e.2.isShownBy values
  rw [Bool.eq_iff_iff, List.contains_iff_mem]
  exact hiff

/-- The fields that a report on the shown fields is about. -/
lemma chosen_keys (form : Form) (values : Mapping Value) :
    (Checklist.chosen (some (form.shownKeys values)) form.checklist.gates.entries).map (·.1) =
      form.shownKeys values := by
  rw [chosen_gates, List.map_map]
  rfl

/-! ## Lasting values -/

/-- The values that a form shows on one day last until another. -/
def Lasts (form : Form) (day today : Date) (values : Mapping Value) : Prop :=
  ∀ id f, form.fields.get? id = some f → f.isShownBy values = true →
    f.Lasts day today (Checklist.valueOf values id)

lemma lasts_refl (form : Form) (day : Date) (values : Mapping Value) :
    form.Lasts day day values :=
  fun _ f _ _ => f.lasts_refl day _

/-- Where no field asks for a date everything lasts. -/
lemma lasts_of_no_dates (h : ∀ e ∈ form.fields.entries, e.2.widget ≠ .date) (day today : Date)
    (values : Mapping Value) : form.Lasts day today values :=
  fun _ _ hf _ => Field.lasts_of_not_date (h _ ((Mapping.mem_entries_iff _).2 hf))

/-- While values last, judging the fields that they show is the same. -/
theorem Lasts.judge_eq (h : form.Lasts day today values) :
    form.checklist.judge today values (some (form.shownKeys values)) =
      form.checklist.judge day values (some (form.shownKeys values)) := by
  rw [Checklist.judge, Checklist.judge, Checklist.judgeFrom_eq_chosen,
    Checklist.judgeFrom_eq_chosen day]
  refine Checklist.judgeFrom_congr (fun e he => ?_) _
  rw [chosen_gates, List.mem_map] at he
  obtain ⟨⟨id, f⟩, hf, rfl⟩ := he
  obtain ⟨hmem, hshown⟩ := List.mem_filter.1 hf
  have hlasts := h id f ((Mapping.mem_entries_iff _).1 hmem) hshown
  exact hlasts.judge_eq values

end Form

end FormEngine
