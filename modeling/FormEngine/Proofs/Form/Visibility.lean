import Mathlib.Tactic.Lemma
import FormEngine.Form.Visibility

/-!
# Verdicts on visibility

Judging conditions stops at the first that fails and warns about operators without meaning on the
way.  What is left when the warnings are forgotten is a plain conjunction:
`Field.visibleUnder_result` says that the verdict always comes, and that it is `Field.isShownBy`.
-/

namespace FormEngine

/-- Whether no condition fails. -/
def Condition.allMet (values : Mapping Value) (cs : List Condition) : Bool :=
  cs.all fun c => c.judge values ≠ .fails

/-- Whether no condition of a field fails under some values. -/
def Field.isShownBy (f : Field) (values : Mapping Value) : Bool :=
  Condition.allMet values f.conditions

lemma Condition.judgeAll_result (values : Mapping Value) (cs : List Condition) :
    (Condition.judgeAll values cs).result = .ok (Condition.allMet values cs) := by
  induction cs with
  | nil => rfl
  | cons c cs ih =>
      rw [Condition.judgeAll]
      cases h : c.judge values with
      | holds => simpa [Condition.allMet, h] using ih
      | fails => simp [Condition.allMet, h]
      | unknown =>
          rw [Traced.bind_result_eq_ok]
          exact ⟨(), rfl, by simpa [Condition.allMet, h] using ih⟩

/-- The verdict on a field always comes. -/
@[simp] lemma Field.visibleUnder_result (f : Field) (values : Mapping Value) :
    (f.visibleUnder values).result = .ok (f.isShownBy values) :=
  Condition.judgeAll_result values f.conditions

end FormEngine
