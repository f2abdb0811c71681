import Mathlib.Tactic.Lemma
import FormEngine.Checklist

/-!
# Refusals always say something

A value that is not accepted is told with a message.  Rules may come with messages of their own,
and those may be empty; the declaration then counts as giving none.  Predicates may answer with
text, and there too an empty text counts as none.  This file follows the message from the rule
through the four variants of checks to the judgement of a field: it is never empty
(`Gate.message_ne_empty`).

`Tells` is the invariant that is carried along: whatever an `Except Refusal` refuses for a
violation, it refuses with a message.
-/

namespace FormEngine

/-- A violation that a check refuses comes with a message. -/
def Tells {α : Type} (x : Except Refusal α) : Prop :=
  ∀ message, x = .error (.violation message) → message ≠ ""

namespace Tells

variable {α β : Type}

lemma ok (a : α) : Tells (.ok a : Except Refusal α) := by
  intro message h
  cases h

lemma fault (f : Fault) : Tells (.error (.fault f) : Except Refusal α) := by
  intro message h
  cases h

lemma violation {message : Text} (h : message ≠ "") :
    Tells (.error (.violation message) : Except Refusal α) := by
  intro message' h'
  cases h'
  exact h

/-- What is done one after the other tells if each part does. -/
lemma bind {x : Except Refusal α} {f : α → Except Refusal β} (hx : Tells x)
    (hf : ∀ a, Tells (f a)) : Tells (x >>= f) := by
  cases x with
  | error r =>
      intro message h
      cases h
      exact hx message rfl
  | ok a => exact hf a

lemma ite {c : Prop} [Decidable c] {x y : Except Refusal α} (hx : Tells x) (hy : Tells y) :
    Tells (if c then x else y) := by
  split
  · exact hx
  · exact hy

end Tells

/-! ## Rules -/

lemma refuseIf_tells (violated : Bool) {message : Text} (h : message ≠ "") :
    Tells (refuseIf violated message) :=
  Tells.ite (Tells.violation h) (Tells.ok ())

/-- A demanded field that is not filled in is told with the message of the demand. -/
lemma Requirement.reminder_ne_empty (r : Requirement) : r.reminder ≠ "" := by
  cases r with
  | flag required => simp [reminder]
  | message text =>
      rw [reminder]
      split
      · simp
      · assumption

lemma Requirement.enforce_tells (r : Requirement) : Tells r.enforce :=
  refuseIf_tells _ r.reminder_ne_empty

/-- An empty message of a rule counts as none. -/
lemma Rule.messageOr_ne_empty {α : Type} (r : Rule α) {own : String} (h : own ≠ "") :
    r.messageOr own ≠ "" := by
  unfold messageOr
  have hown : (own : Text) ≠ "" := fun hempty => h (Text.plain.inj hempty)
  split
  · split
    · exact hown
    · assumption
  · exact hown

lemma Rule.enforce_tells {α : Type} (r : Option (Rule α)) (violates : α → Bool)
    {own : α → String} (h : ∀ demand, own demand ≠ "") : Tells (Rule.enforce r violates own) := by
  cases r with
  | none => exact Tells.ok ()
  | some r => exact refuseIf_tells _ (r.messageOr_ne_empty (h r.demand))

/-! ## Checks -/

lemma append_ne_empty {s : String} (t : String) (h : s ≠ "") : s ++ t ≠ "" := by
  rw [Ne, String.append_eq_empty_iff]
  exact fun hst => h hst.1

lemma refuseUnlessDate_tells (today : Date) (v : Value) : Tells (refuseUnlessDate today v) := by
  unfold refuseUnlessDate
  split
  · split
    · exact Tells.ok ()
    · exact Tells.violation (by decide)
    · exact Tells.fault _
  · exact Tells.violation (by decide)

lemma TextCheck.run_tells (today : Date) (c : TextCheck) (v : Value) : Tells (c.run today v) := by
  unfold TextCheck.run
  refine Tells.ite (Tells.bind c.required.enforce_tells fun _ => Tells.ok v) ?_
  cases v.points? with
  | none => exact Tells.violation (by decide)
  | some points =>
      have hmin : ∀ n : Nat, "Must be at least " ++ toString n ++ " characters" ≠ "" :=
        fun n => append_ne_empty _ (append_ne_empty _ (by decide))
      have hmax : ∀ n : Nat, "Must be at most " ++ toString n ++ " characters" ≠ "" :=
        fun n => append_ne_empty _ (append_ne_empty _ (by decide))
      refine Tells.bind (Rule.enforce_tells _ _ hmin) fun _ => ?_
      refine Tells.bind (Rule.enforce_tells _ _ hmax) fun _ => ?_
      refine Tells.bind (Rule.enforce_tells _ _ fun _ => by decide) fun _ => ?_
      refine Tells.bind (refuseIf_tells _ (by decide)) fun _ => ?_
      refine Tells.bind (refuseIf_tells _ (by decide)) fun _ => ?_
      exact Tells.ite (Tells.bind (refuseUnlessDate_tells today v) fun _ => Tells.ok v) (Tells.ok v)

lemma enteredNumber_tells (v : Value) : Tells (enteredNumber v) := by
  have hnone : Tells (.error (.violation notANumber) : Except Refusal Number) :=
    Tells.violation (by decide)
  have hfinite : ∀ x, Tells (finiteNumber x) := fun x => Tells.ite (Tells.ok x) hnone
  cases v with
  | int i => exact Tells.ok _
  | float x => exact hfinite _
  | text t =>
      cases t with
      | raw points marred => exact hnone
      | plain s =>
          refine Tells.bind ?_ hfinite
          unfold numberOfText
          split
          · exact Tells.ite (Tells.fault _) (Tells.ok _)
          · split
            · exact Tells.ok _
            · exact hnone
  | _ => exact hnone

lemma NumericCheck.run_tells (c : NumericCheck) (v : Value) : Tells (c.run v) := by
  unfold NumericCheck.run
  refine Tells.ite (Tells.bind c.required.enforce_tells fun _ => Tells.ok _) ?_
  refine Tells.bind (enteredNumber_tells v) fun x => ?_
  refine Tells.bind (Rule.enforce_tells _ _ fun b => append_ne_empty _ (by decide)) fun _ => ?_
  exact Tells.bind (Rule.enforce_tells _ _ fun b => append_ne_empty _ (by decide))
    fun _ => Tells.ok _

lemma BoxCheck.run_tells (c : BoxCheck) (v : Value) : Tells (c.run v) := by
  unfold BoxCheck.run
  cases v with
  | null => exact Tells.bind c.required.enforce_tells fun _ => Tells.ok _
  | bool ticked =>
      exact Tells.ite (Tells.bind c.required.enforce_tells fun _ => Tells.ok _) (Tells.ok _)
  | _ => exact Tells.violation (by decide)

lemma SelectionCheck.run_tells (c : SelectionCheck) (v : Value) : Tells (c.run v) := by
  unfold SelectionCheck.run
  split
  · exact Tells.bind c.required.enforce_tells fun _ => Tells.ok _
  · cases v.items? with
    | none => exact Tells.violation (by decide)
    | some items =>
        refine Tells.bind (refuseIf_tells _ (by decide)) fun _ => ?_
        exact Tells.ite (Tells.bind c.required.enforce_tells fun _ => Tells.ok _) (Tells.ok _)

lemma Check.run_tells (today : Date) (c : Check) (v : Value) : Tells (c.run today v) := by
  cases c with
  | text c => exact c.run_tells today v
  | number c => exact c.run_tells v
  | box c => exact c.run_tells v
  | selection c => exact c.run_tells v

/-! ## Judgements -/

lemma Predicate.rejection_ne_empty {text message : Text}
    (h : Predicate.rejection text = .rejected message) : message ≠ "" := by
  unfold rejection at h
  split at h <;> cases h
  · decide
  · assumption

/-- A predicate that rejects says something, whatever it answered. -/
lemma Predicate.verdictOf_ne_empty {answer : Value} {message : Text}
    (h : Predicate.verdictOf answer = .rejected message) : message ≠ "" := by
  unfold verdictOf at h
  split at h
  · cases h
  · exact rejection_ne_empty h
  · cases h
    decide

lemma Predicate.judge_message_ne_empty {p : Predicate} {field : Text} {given converted : Value}
    {values : Mapping Value} {j : Judgement} {message : Text}
    (h : (p.judge field given converted values).result = .ok j) (hm : j.message = some message) :
    message ≠ "" := by
  rw [Predicate.judge, Traced.bind_result_eq_ok] at h
  obtain ⟨-, -, h⟩ := h
  split at h
  · cases h
  · split at h
    · cases h
      cases hm
    · rename_i hv
      cases h
      cases hm
      exact verdictOf_ne_empty hv

/-- A field whose value is not accepted is judged with a message that is not empty. -/
lemma Gate.message_ne_empty {today : Date} {g : Gate} {v : Value} {values : Mapping Value}
    {j : Judgement} {message : Text} (h : (g.judge today v values).result = .ok j)
    (hm : j.message = some message) : message ≠ "" := by
  unfold Gate.judge at h
  split at h
  · rename_i refused
    cases h
    cases hm
    exact g.check.run_tells today v _ refused
  · cases h
  · split at h
    · cases h
      cases hm
    · exact Predicate.judge_message_ne_empty h hm

end FormEngine
