import FormEngine.Proofs.Check.Interpretation

/-!
# Values that have been converted

A check does not only judge a value, it also converts it: the text of a number becomes the number,
what is blank becomes nothing, and any collection becomes a list.  What it lets through is of
another kind than what it was given, and takes another way through the check when it comes back.

`Field.run_again` says that it is let through again as it is.  For numbers and selections that is
because the converted value stays as it is when it is converted (`Field.number_again`,
`Field.selection_again`), and because the demands on it are those on the value it has come from; all
other checks convert nothing.

The day on which a check is run matters where a date is asked for, and there only in that a text
may denote a date on one day and none on another: the rest of a date is that of the day.  A value
that does not do so lasts (`Field.Lasts`), and what lasts is judged alike (`Field.run_eq_of_lasts`).
-/

namespace FormEngine

/-- A number that has been entered is entered again as it is. -/
lemma enteredNumber_value {v : Value} {x : Number} (h : enteredNumber v = .ok x) :
    enteredNumber x.value = .ok x := by
  have hfinite : ∃ q, x.exact? = some q := by
    rcases enteredNumber_enters v with hnone | ⟨fault, hfault⟩ | ⟨y, q, hy, hq⟩
    · rw [hnone] at h
      cases h
    · rw [hfault] at h
      cases h
    · obtain rfl : y = x := Except.ok.inj (hy.symm.trans h)
      exact ⟨q, hq⟩
  obtain ⟨q, hq⟩ := hfinite
  cases x with
  | int i => rfl
  | float y =>
      cases y with
      | finite negative m e => rfl
      | infinite negative => cases hq
      | nan => cases hq

lemma Number.value_not_vacant (x : Number) : isVacant x.value = false := by
  cases x <;> rfl

namespace Rules

variable (rules : Rules)

/-- What is demanded of a number depends on the number that a value stands for. -/
lemma ofNumber_congr {v w : Value} (h : enteredNumber v = enteredNumber w) :
    rules.ofNumber v = rules.ofNumber w := by
  have hlacks : lacksNumber v = lacksNumber w := by
    simp only [lacksNumber, h]
  have hvalue : enteredValue? v = enteredValue? w := by
    simp only [enteredValue?, h]
  rw [ofNumber, hlacks, hvalue]
  rfl

/-- A value that meets the demands on a number stands for one. -/
lemma exists_number_of_met {v : Value} (met : ∀ d ∈ rules.ofNumber v, d.violated = .ok false) :
    ∃ x, enteredNumber v = .ok x := by
  have hnumber : lacksNumber v = .ok false := met _ List.mem_cons_self
  unfold lacksNumber at hnumber
  split at hnumber
  next x hx => exact ⟨x, hx⟩
  next => cases hnumber
  next => cases hnumber

/-- A value that meets the demands on a selection is missing or has items, and then the same is
demanded of the list of these items. -/
lemma exists_items_of_met {v : Value} (met : ∀ d ∈ rules.ofSelection v, d.violated = .ok false) :
    v = .null ∨ v ≠ .null ∧ ∃ items, v.items? = some items ∧
      rules.ofSelection v = rules.ofSelection (.list items) := by
  cases v with
  | null => exact .inl rfl
  | list items => exact .inr ⟨nofun, items, rfl, rfl⟩
  | tuple items => exact .inr ⟨nofun, items, rfl, rfl⟩
  | set items => exact .inr ⟨nofun, items, rfl, rfl⟩
  | _ => cases met _ List.mem_cons_self

end Rules

namespace Field

variable {today : Date} {f : Field} {v v' : Value}

/-! ## What is converted -/

/-- Only numbers and selections are converted. -/
lemma converted_eq_self (hnumber : f.widget ≠ .number) (hselection : f.widget ≠ .multiselect) :
    f.converted v = v := by
  unfold converted
  split
  · contradiction
  · contradiction
  · rfl

lemma demands_of_number (shown : f.widget = .number) (v : Value) :
    f.demands today v = if isVacant v then f.ownRules.ofMissing else f.ownRules.ofNumber v := by
  simp only [demands, shown]

lemma converted_of_number (shown : f.widget = .number) (v : Value) :
    f.converted v = if isVacant v then .null else
      ((enteredNumber v).toOption.map Number.value).getD .null := by
  simp only [converted, shown]

lemma demands_of_selection (shown : f.widget = .multiselect) (v : Value) :
    f.demands today v = f.ownRules.ofSelection v := by
  simp only [demands, shown]

lemma converted_null (shown : f.widget = .multiselect) : f.converted .null = .null := by
  simp only [converted, shown]

lemma converted_of_items (shown : f.widget = .multiselect) (present : v ≠ .null)
    {items : List Value} (h : v.items? = some items) : f.converted v = .list items := by
  simp only [converted, shown, h, Option.getD_some]

/-! ## Converting again -/

/-- A number that is accepted stays as it is when it is converted again, and no other demands are
made on it. -/
lemma number_again (shown : f.widget = .number)
    (met : ∀ d ∈ f.demands today v, d.violated = .ok false) :
    f.converted (f.converted v) = f.converted v ∧
      f.demands today (f.converted v) = f.demands today v := by
  rw [demands_of_number shown] at met
  by_cases hvacant : isVacant v = true
  · have hnull : f.converted v = .null := by
      rw [converted_of_number shown, if_pos hvacant]
    have hagain : isVacant .null = true := rfl
    rw [hnull, converted_of_number shown, demands_of_number shown, demands_of_number shown]
    simp only [hvacant, hagain, if_true]
    exact ⟨trivial, trivial⟩
  · rw [if_neg hvacant] at met
    obtain ⟨x, hx⟩ := f.ownRules.exists_number_of_met met
    have hvalue : f.converted v = x.value := by
      rw [converted_of_number shown, if_neg hvacant, hx]
      rfl
    have hagain : enteredNumber x.value = .ok x := enteredNumber_value hx
    have hdemands : f.ownRules.ofNumber x.value = f.ownRules.ofNumber v :=
      f.ownRules.ofNumber_congr (hagain.trans hx.symm)
    rw [hvalue, converted_of_number shown, demands_of_number shown, demands_of_number shown,
      if_neg hvacant, hdemands, hagain]
    simp only [x.value_not_vacant, Bool.false_eq_true, if_false]
    exact ⟨rfl, trivial⟩

/-- A selection that is accepted stays as it is when it is converted again, and no other demands
are made on it. -/
lemma selection_again (shown : f.widget = .multiselect)
    (met : ∀ d ∈ f.demands today v, d.violated = .ok false) :
    f.converted (f.converted v) = f.converted v ∧
      f.demands today (f.converted v) = f.demands today v := by
  rw [demands_of_selection shown] at met
  rcases f.ownRules.exists_items_of_met met with rfl | ⟨present, items, hitems, hdemands⟩
  · rw [converted_null shown, converted_null shown]
    exact ⟨rfl, rfl⟩
  · have hlist : f.converted v = .list items := converted_of_items shown present hitems
    have hagain : f.converted (.list items) = .list items :=
      converted_of_items shown (v := .list items) nofun rfl
    rw [hlist, hagain, demands_of_selection shown, demands_of_selection shown, hdemands]
    exact ⟨rfl, rfl⟩

/-- A value that the check of a field lets through is let through again as it is. -/
theorem run_again (h : f.check.run today v = .ok v') : f.check.run today v' = .ok v' := by
  rw [check_run, Demand.letThrough_eq_ok_iff] at h
  obtain ⟨rfl, met⟩ := h
  have hagain : f.converted (f.converted v) = f.converted v ∧
      f.demands today (f.converted v) = f.demands today v := by
    by_cases hnumber : f.widget = .number
    · exact number_again hnumber met
    · by_cases hselection : f.widget = .multiselect
      · exact selection_again hselection met
      · rw [converted_eq_self hnumber hselection, converted_eq_self hnumber hselection]
        exact ⟨rfl, rfl⟩
  rw [check_run, Demand.letThrough_eq_ok_iff, hagain.1, hagain.2]
  exact ⟨rfl, met⟩

/-! ## The day of a check -/

/-- A value that a field has on one day lasts until another if it does not come to denote a date or
cease to, provided that the field asks for one. -/
def Lasts (f : Field) (day today : Date) (v : Value) : Prop :=
  f.widget = .date → lacksDate today v = lacksDate day v

variable {day : Date}

lemma lasts_refl (f : Field) (day : Date) (v : Value) : f.Lasts day day v := fun _ => rfl

lemma lasts_of_not_date (h : f.widget ≠ .date) : f.Lasts day today v :=
  fun shown => absurd shown h

/-- What lasts is let through or refused as it was. -/
lemma run_eq_of_lasts (h : f.Lasts day today v) : f.check.run today v = f.check.run day v := by
  have hkind : f.ofKind today v = f.ofKind day v := by
    by_cases shown : f.widget = .date
    · simp only [ofKind, if_pos shown, h shown]
    · simp only [ofKind, if_neg shown]
  have hdemands : f.demands today v = f.demands day v := by
    simp only [demands, hkind]
  rw [check_run, check_run, hdemands]

/-- What is demanded depends on the day where a date is asked for, and nowhere else. -/
lemma run_eq_of_not_date (h : f.widget ≠ .date) (today later : Date) (v : Value) :
    f.check.run today v = f.check.run later v :=
  run_eq_of_lasts (lasts_of_not_date h)

end Field

end FormEngine
