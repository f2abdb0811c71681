import FormEngine.Form.Basic
import FormEngine.Traced

/-!
# Visibility

Whether a field is part of the form is decided by its conditions and the current values, and by
nothing else: there is no memory of earlier verdicts, and a hidden field counts with its value like
any other.  All conditions of a rule have to hold.  A condition with an operator that nobody knows
holds; the log says so, unless a condition before it has already failed.
-/

namespace FormEngine

/-- The operators with a meaning. -/
inductive Operator where
  | equals
  | notEquals
  | isIn
deriving DecidableEq, Repr

/-- The operator of a name. -/
def Operator.ofName? : Text → Option Operator
  | .plain "equals" => some .equals
  | .plain "notEquals" => some .notEquals
  | .plain "in" => some .isIn
  | _ => none

/-- Whether an operator holds between the value of a field and the value of a condition. -/
def Operator.holds (op : Operator) (value compared : Value) : Bool :=
  match op with
  | .equals => value.strictlySame compared
  | .notEquals => !value.strictlySame compared
  | .isIn => compared.items?.any fun items => items.any fun item => value.strictlySame item

namespace Condition

/-- What is said about a condition: whether it holds, or that its operator has no meaning. -/
inductive Verdict where
  | holds
  | fails
  | unknown
deriving DecidableEq, Repr

/-- Judges a condition by the current values; a missing value counts as null. -/
def judge (c : Condition) (values : Mapping Value) : Verdict :=
  match Operator.ofName? c.operator with
  | none => .unknown
  | some op => if op.holds ((values.get? c.field).getD .null) c.value then .holds else .fails

/-- The line of the log about an operator without meaning. -/
def warning (c : Condition) : Text :=
  "Unknown visibility operator '" ++ c.operator ++ "' on condition for field '" ++ c.field
    ++ "'; treating as satisfied"

/-- Judges conditions in order up to the first that fails. -/
def judgeAll (values : Mapping Value) : List Condition → Traced Bool
  | [] => pure true
  | c :: cs =>
    match c.judge values with
    | .holds => judgeAll values cs
    | .fails => pure false
    | .unknown => do
      Traced.log .warning .visibility c.warning
      judgeAll values cs

end Condition

/-- Whether a field is part of the form. -/
def Field.visibleUnder (f : Field) (values : Mapping Value) : Traced Bool :=
  Condition.judgeAll values f.conditions

end FormEngine
