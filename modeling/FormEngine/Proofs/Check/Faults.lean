import FormEngine.Proofs.Calendar.Phrase
import FormEngine.Proofs.Check.Interpretation
import FormEngine.Proofs.Number.Entry

/-!
# Values on which a check has no answer

Of nearly every demand it can be told whether a value violates it.  There are two exceptions, that
a text is a number and that it is a date, and a field makes one of them at most.  `Field.Stalls`
says for which values nothing can be told, and `Field.check_faults_iff` that it misses none: all
other values are accepted or refused with a message.
-/

namespace FormEngine

namespace Demand

/-- It can be told whether a demand is violated. -/
def IsTold (d : Demand) : Prop := ∃ violated, d.violated = .ok violated

lemma isTold_plain (violated : Prop) [Decidable violated] (message : Text) :
    (plain violated message).IsTold := ⟨_, rfl⟩

lemma isTold_ofRule {α : Type} (r : Option (Rule α)) (violates : α → Prop)
    [DecidablePred violates] (own : α → String) : ∀ d ∈ ofRule r violates own, d.IsTold := by
  intro d hd
  obtain ⟨r, -, rfl⟩ := List.mem_map.1 hd
  exact isTold_plain ..

lemma firstViolation_ne_error {ds : List Demand} (told : ∀ d ∈ ds, d.IsTold) (fault : Fault) :
    firstViolation ds ≠ .error fault := by
  induction ds with
  | nil => simp [firstViolation]
  | cons d ds ih =>
      obtain ⟨⟨violated, hd⟩, hrest⟩ := List.forall_mem_cons.1 told
      have hds := ih hrest
      rw [firstViolation, hd]
      cases violated with
      | true => simp [bind, Except.bind, pure, Except.pure]
      | false => exact hds

/-- If everything can be told of the other demands, nothing can be told of a list exactly if nothing
can be told of its head. -/
lemma firstViolation_cons_eq_error_iff {d : Demand} {since : List Demand}
    (told : ∀ d' ∈ since, d'.IsTold) {fault : Fault} :
    firstViolation (d :: since) = .error fault ↔ d.violated = .error fault := by
  have hrest := firstViolation_ne_error told fault
  rw [firstViolation]
  rcases d.violated with reason | _ | _ <;> simp [bind, Except.bind, pure, Except.pure, hrest]

/-- A demand of which nothing may be told has to be reached as well. -/
lemma firstViolation_concat_eq_error_iff {before : List Demand} {d : Demand}
    (told : ∀ d' ∈ before, d'.IsTold) {fault : Fault} :
    firstViolation (before ++ [d]) = .error fault ↔
      (∀ d' ∈ before, d'.violated = .ok false) ∧ d.violated = .error fault := by
  induction before with
  | nil => simp [firstViolation_cons_eq_error_iff]
  | cons d' before ih =>
      obtain ⟨⟨violated, hd'⟩, hrest⟩ := List.forall_mem_cons.1 told
      rw [List.cons_append, firstViolation, List.forall_mem_cons, hd']
      cases violated with
      | true => simp [bind, Except.bind, pure, Except.pure]
      | false =>
          rw [eq_self, true_and]
          exact ih hrest

lemma letThrough_faults_iff {ds : List Demand} {v : Value} {fault : Fault} :
    letThrough ds v = .error (.fault fault) ↔ firstViolation ds = .error fault := by
  rw [letThrough]
  rcases firstViolation ds with reason | _ | message <;> simp

end Demand

/-! ## Demands of which everything can be told -/

namespace Rules

variable (rules : Rules)

lemma ofMissing_told : ∀ d ∈ rules.ofMissing, d.IsTold :=
  List.forall_mem_singleton.2 (Demand.isTold_plain ..)

lemma ofText_told (v : Value) : ∀ d ∈ rules.ofText v, d.IsTold := by
  intro d hd
  simp only [ofText, List.mem_cons, List.mem_append] at hd
  rcases hd with rfl | hd | hd | hd
  · exact Demand.isTold_plain ..
  · exact Demand.isTold_ofRule _ _ _ d hd
  · exact Demand.isTold_ofRule _ _ _ d hd
  · exact Demand.isTold_ofRule _ _ _ d hd

lemma ofBox_told (v : Value) : ∀ d ∈ rules.ofBox v, d.IsTold := by
  unfold ofBox
  split
  · exact rules.ofMissing_told
  · exact List.forall_mem_singleton.2 (Demand.isTold_plain ..)
  · exact List.forall_mem_singleton.2 (Demand.isTold_plain ..)

lemma ofSelection_told (v : Value) : ∀ d ∈ rules.ofSelection v, d.IsTold := by
  unfold ofSelection
  split
  · exact rules.ofMissing_told
  · refine List.forall_mem_cons.2 ⟨Demand.isTold_plain .., ?_⟩
    exact List.forall_mem_singleton.2 (Demand.isTold_plain ..)

lemma lacksNumber_faults_iff {v : Value} {fault : Fault} :
    lacksNumber v = .error fault ↔ enteredNumber v = .error (.fault fault) := by
  rw [lacksNumber]
  rcases enteredNumber v with (message | reason) | x <;> simp

/-- Nothing can be told of a number exactly if nothing can be told of whether it is one. -/
lemma ofNumber_faults_iff {v : Value} {fault : Fault} :
    Demand.firstViolation (rules.ofNumber v) = .error fault ↔
      enteredNumber v = .error (.fault fault) := by
  have hbounds : ∀ d ∈ Demand.ofRule rules.min (fun b => (enteredValue? v).any b.isAbove)
        (fun b => "Must be at least " ++ boundText b) ++
      Demand.ofRule rules.max (fun b => (enteredValue? v).any b.isBelow)
        (fun b => "Must be at most " ++ boundText b), d.IsTold := by
    intro d hd
    rcases List.mem_append.1 hd with hd | hd
    · exact Demand.isTold_ofRule _ _ _ d hd
    · exact Demand.isTold_ofRule _ _ _ d hd
  rw [ofNumber, ← lacksNumber_faults_iff]
  exact Demand.firstViolation_cons_eq_error_iff hbounds

end Rules

namespace Field

variable {today : Date} {f : Field}

/-! ## Fields that stall -/

/-- The same field, shown as a line of text. -/
def asText (f : Field) : Field := { f with widget := .text }

/-- The check of a field has no answer to a value, but a fault: the value is a text that writes an
integer with too many digits for a number; or it is a text for a date which the rules would accept
as a text, with a number whose fraction is lost. -/
inductive Stalls (today : Date) (f : Field) : Value → Fault → Prop
  | digits {s : String} {count : Nat} (shown : f.widget = .number)
      (written : WritesInteger s.toList count) (long : digitLimit < count) :
      Stalls today f (.text s) (.tooManyDigits count)
  | fraction {t : Text} (shown : f.widget = .date)
      (accepted : f.asText.check.run today (.text t) = .ok (.text t))
      (lost : Calendar.Phrase.dateOf today t = .error .fractionLost) :
      Stalls today f (.text t) .fractionLost

/-- Only fields for numbers and dates stall. -/
lemma Stalls.widget_eq {v : Value} {fault : Fault} (h : f.Stalls today v fault) :
    f.widget = .number ∨ f.widget = .date := by
  rcases h with ⟨shown, -, -⟩ | ⟨shown, -, -⟩
  · exact .inl shown
  · exact .inr shown

lemma lacksDate_faults_iff {v : Value} {fault : Fault} :
    lacksDate today v = .error fault ↔
      ∃ t, v = .text t ∧ Calendar.Phrase.dateOf today t = .error .fractionLost ∧
        fault = .fractionLost := by
  cases v with
  | text t =>
      simp only [lacksDate, Value.text.injEq, exists_eq_left']
      rcases Calendar.Phrase.dateOf today t with (_ | _) | _ <;> simp [eq_comm]
  | _ => simp [lacksDate]

/-- A text whose fraction is lost is not empty. -/
lemma ne_empty_of_fractionLost {t : Text}
    (h : Calendar.Phrase.dateOf today t = .error .fractionLost) : t ≠ "" := by
  rintro rfl
  exact Calendar.Phrase.dateOf_answers (by decide) h

/-- What is demanded of a text by its rules and the type of input, before the date. -/
def beforeDate (f : Field) (v : Value) : List Demand :=
  f.ownRules.ofText v ++ [.plain (f.isInputOf "email" ∧ ¬ isTextWith isEmailAddress v)
    "Invalid email", .plain (f.isInputOf "url" ∧ ¬ isTextWith isWebAddress v) "Invalid URL"]

lemma beforeDate_told (v : Value) : ∀ d ∈ f.beforeDate v, d.IsTold := by
  intro d hd
  rcases List.mem_append.1 hd with hd | hd
  · exact f.ownRules.ofText_told v d hd
  · simp only [List.mem_cons, List.not_mem_nil, or_false] at hd
    rcases hd with rfl | rfl
    · exact Demand.isTold_plain ..
    · exact Demand.isTold_plain ..

lemma ofText_append_ofKind (v : Value) :
    f.ownRules.ofText v ++ f.ofKind today v = f.beforeDate v ++
      [⟨if f.widget = .date then lacksDate today v else .ok false, "Invalid date"⟩] := by
  rw [beforeDate, ofKind, List.append_assoc]
  rfl

/-- Shown as a line of text, a field accepts a text exactly if it meets all that is demanded before
the date. -/
lemma asText_accepts_iff {t : Text} (ht : t ≠ "") :
    f.asText.check.run today (.text t) = .ok (.text t) ↔
      ∀ d ∈ f.beforeDate (.text t), d.violated = .ok false := by
  have hdemands : f.asText.demands today (.text t) =
      f.beforeDate (.text t) ++ [⟨.ok false, "Invalid date"⟩] := by
    have hnothing : isNothing (.text t) = false := by simp [isNothing, ht]
    have happend : f.asText.ownRules.ofText (.text t) ++ f.asText.ofKind today (.text t) =
        f.beforeDate (.text t) ++ [⟨.ok false, "Invalid date"⟩] :=
      f.asText.ofText_append_ofKind (.text t)
    rw [demands]
    simp only [asText, hnothing]
    exact happend
  rw [check_run, hdemands]
  refine Demand.letThrough_eq_ok_iff.trans ((and_iff_right rfl).trans ?_)
  rw [List.forall_mem_append, List.forall_mem_singleton]
  exact and_iff_left rfl

lemma date_faults_iff (shown : f.widget = .date) {v : Value} {fault : Fault} :
    Demand.firstViolation (f.demands today v) = .error fault ↔ f.Stalls today v fault := by
  have hother : f.widget ≠ .number := by
    rw [shown]
    decide
  simp only [demands, shown]
  by_cases hnothing : isNothing v = true
  · rw [if_pos hnothing]
    refine iff_of_false (Demand.firstViolation_ne_error f.ownRules.ofMissing_told fault) ?_
    rintro (⟨hnumber, -, -⟩ | ⟨-, -, lost⟩)
    · exact hother hnumber
    · exact ne_empty_of_fractionLost lost (by simpa [isNothing] using hnothing)
  · rw [if_neg hnothing, ofText_append_ofKind, if_pos shown,
      Demand.firstViolation_concat_eq_error_iff (beforeDate_told v), lacksDate_faults_iff]
    constructor
    · rintro ⟨hmet, t, rfl, lost, rfl⟩
      exact .fraction shown ((asText_accepts_iff (ne_empty_of_fractionLost lost)).2 hmet) lost
    · rintro (⟨hnumber, -, -⟩ | ⟨-, accepted, lost⟩)
      · exact absurd hnumber hother
      · exact ⟨(asText_accepts_iff (ne_empty_of_fractionLost lost)).1 accepted, _, rfl, lost, rfl⟩

lemma number_faults_iff (shown : f.widget = .number) {v : Value} {fault : Fault} :
    Demand.firstViolation (f.demands today v) = .error fault ↔ f.Stalls today v fault := by
  have hother : f.widget ≠ .date := by
    rw [shown]
    decide
  simp only [demands, shown]
  by_cases hvacant : isVacant v = true
  · rw [if_pos hvacant]
    refine iff_of_false (Demand.firstViolation_ne_error f.ownRules.ofMissing_told fault) ?_
    rintro (⟨-, written, -⟩ | ⟨hdate, -, -⟩)
    · rw [written.not_vacant] at hvacant
      cases hvacant
    · exact hother hdate
  · rw [if_neg hvacant, Rules.ofNumber_faults_iff, enteredNumber_faults_iff]
    constructor
    · rintro ⟨s, count, rfl, written, long, rfl⟩
      exact .digits shown written long
    · rintro (⟨-, written, long⟩ | ⟨hdate, -, -⟩)
      · exact ⟨_, _, rfl, written, long, rfl⟩
      · exact absurd hdate hother

/-- Where neither a number nor a date is asked for, everything can be told. -/
lemma demands_told (hnumber : f.widget ≠ .number) (hdate : f.widget ≠ .date) (v : Value) :
    ∀ d ∈ f.demands today v, d.IsTold := by
  have htext : ∀ d ∈ if isNothing v then f.ownRules.ofMissing
      else f.ownRules.ofText v ++ f.ofKind today v, d.IsTold := by
    split
    · exact f.ownRules.ofMissing_told
    · rw [ofText_append_ofKind, if_neg hdate]
      refine List.forall_mem_append.2 ⟨beforeDate_told v, List.forall_mem_singleton.2 ⟨false, rfl⟩⟩
  unfold demands
  split
  · exact absurd ‹_› hnumber
  · exact f.ownRules.ofBox_told v
  · exact f.ownRules.ofBox_told v
  · exact f.ownRules.ofSelection_told v
  all_goals exact htext

/-- The check of a field ends with a fault for the values on which it stalls, and for no others. -/
theorem check_faults_iff {v : Value} {fault : Fault} :
    f.check.run today v = .error (.fault fault) ↔ f.Stalls today v fault := by
  rw [check_run, Demand.letThrough_faults_iff]
  by_cases hnumber : f.widget = .number
  · exact number_faults_iff hnumber
  · by_cases hdate : f.widget = .date
    · exact date_faults_iff hdate
    · refine iff_of_false (Demand.firstViolation_ne_error (demands_told hnumber hdate v) fault) ?_
      exact fun hstalls => hstalls.widget_eq.elim hnumber hdate

/-- A field without a predicate cannot be judged exactly if it stalls, whatever the other values
are. -/
theorem judge_faults_iff (plain : f.rules.bind (·.predicate) = none) {v : Value}
    {values : Mapping Value} {fault : Fault} :
    (f.gate.judge today v values).result = .error fault ↔ f.Stalls today v fault := by
  rw [← check_faults_iff]
  have hcheck : f.gate.check.run today v = f.check.run today v := rfl
  have hpredicate : f.gate.predicate = none := plain
  rw [Gate.judge, hcheck, hpredicate]
  rcases f.check.run today v with (message | reason) | converted
  · simp [pure, Traced.answer]
  · simp [Traced.fault]
  · simp [pure, Traced.answer]

/-! ## Texts that are short enough -/

/-- A value is no text that is too long for a field: at most as many characters as there may be
digits for a number, and at most 28 characters for a date. -/
def Fits (f : Field) (v : Value) : Prop :=
  ∀ t : Text, v = .text t →
    (f.widget = .number → t.length ≤ digitLimit) ∧ (f.widget = .date → t.length ≤ 28)

/-- No field stalls on a text that is not too long. -/
lemma Fits.not_stalls {v : Value} (h : f.Fits v) (fault : Fault) : ¬ f.Stalls today v fault := by
  rintro (⟨shown, written, long⟩ | ⟨shown, -, lost⟩)
  · have hfew := (h _ rfl).1 shown
    have hcount := written.count_le
    rw [String.length_toList, ← Text.length_plain] at hcount
    omega
  · exact Calendar.Phrase.dateOf_answers ((h _ rfl).2 shown) lost

end Field

end FormEngine
