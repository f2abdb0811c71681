import Mathlib.Tactic.Lemma
import FormEngine.Checklist
import FormEngine.Form.Visibility

/-!
# What is handed over during an operation

The events of an operation tell what has been handed to receivers, in order.  `Traced.handOvers`
reads it off them, and forgets the lines of the log and the questions to predicates.  It adds up
along operations that follow one another, and judging, whether visibility or values, hands nothing
over.  Judging visibility does nothing at all but write to the log (`Traced.OnlyLogs`).
-/

namespace FormEngine

/-- What an event hands over, and whether it is handed to the receiver of the draft. -/
def Event.handOver? : Event → Option (Bool × Mapping Value)
  | .submitted own data => some (own, data)
  | _ => none

namespace Traced

variable {α β : Type}

/-- All that is handed over during an operation, in order. -/
def handOvers (t : Traced α) : List (Bool × Mapping Value) := t.events.filterMap Event.handOver?

lemma handOvers_bind_of_ok {t : Traced α} {a : α} (h : t.result = .ok a) (f : α → Traced β) :
    (t >>= f).handOvers = t.handOvers ++ (f a).handOvers := by
  rw [handOvers, events_bind_of_ok h]
  exact List.filterMap_append

/-- Nothing is handed over if neither part hands anything over. -/
lemma handOvers_bind_eq_nil {t : Traced α} {f : α → Traced β} (ht : t.handOvers = [])
    (hf : ∀ a, (f a).handOvers = []) : (t >>= f).handOvers = [] := by
  cases h : t.result with
  | ok a => rw [handOvers_bind_of_ok h, ht, hf, List.append_nil]
  | error fault =>
      rw [handOvers, events_bind_of_error h]
      exact ht

/-- Nothing happens during an operation but that lines are written to the log. -/
def OnlyLogs (t : Traced α) : Prop := ∀ e ∈ t.events, ∃ line, e = .logged line

namespace OnlyLogs

lemma pure (a : α) : OnlyLogs (Pure.pure a) := fun _ he => absurd he List.not_mem_nil

lemma log (level : Level) (source : Source) (message : Text) :
    (Traced.log level source message).OnlyLogs :=
  List.forall_mem_singleton.2 ⟨_, rfl⟩

lemma bind {t : Traced α} {f : α → Traced β} (ht : t.OnlyLogs) (hf : ∀ a, (f a).OnlyLogs) :
    (t >>= f).OnlyLogs := by
  cases h : t.result with
  | ok a =>
      rw [OnlyLogs, events_bind_of_ok h]
      exact List.forall_mem_append.2 ⟨ht, hf a⟩
  | error fault =>
      rw [OnlyLogs, events_bind_of_error h]
      exact ht

lemma handOvers_eq {t : Traced α} (h : t.OnlyLogs) : t.handOvers = [] :=
  List.filterMap_eq_nil_iff.2 fun e he => by
    obtain ⟨line, rfl⟩ := h e he
    rfl

end OnlyLogs

end Traced

/-! ## Judging hands nothing over -/

lemma Predicate.judge_handOvers (p : Predicate) (field : Text) (given converted : Value)
    (values : Mapping Value) : (p.judge field given converted values).handOvers = [] := by
  refine Traced.handOvers_bind_eq_nil rfl fun _ => ?_
  split
  · rfl
  · split <;> rfl

lemma Gate.judge_handOvers (today : Date) (g : Gate) (v : Value) (values : Mapping Value) :
    (g.judge today v values).handOvers = [] := by
  unfold Gate.judge
  split
  · rfl
  · rfl
  · split
    · rfl
    · exact Predicate.judge_handOvers ..

lemma Checklist.judgeFrom_handOvers (today : Date) (values : Mapping Value)
    (only : Option (List Text)) (gates : List (Text × Gate)) (r : Report) :
    (judgeFrom today values only gates r).handOvers = [] := by
  induction gates generalizing r with
  | nil => rfl
  | cons e gates ih =>
      unfold judgeFrom
      split
      · exact Traced.handOvers_bind_eq_nil (e.2.judge_handOvers ..) fun j => ih _
      · exact ih r

lemma Condition.judgeAll_onlyLogs (values : Mapping Value) (cs : List Condition) :
    (Condition.judgeAll values cs).OnlyLogs := by
  induction cs with
  | nil => exact .pure true
  | cons c cs ih =>
      rw [Condition.judgeAll]
      split
      · exact ih
      · exact .pure false
      · exact (Traced.OnlyLogs.log _ _ _).bind fun _ => ih

end FormEngine
