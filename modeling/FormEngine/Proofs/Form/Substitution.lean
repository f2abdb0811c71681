import FormEngine.Proofs.Form.Conditions
import FormEngine.Proofs.Value.Strictness

/-!
# What is strictly the same can be put for each other

Strict sameness is an equivalence on the values that a program can hold and in which every number is
one (`Value.strictlySame_equivalence`).  Conditions compare values in this way and in no other.  So
a value can be replaced by one that is strictly the same wherever a condition looks at it: as the
value of a field, as the value that it is compared with, or as an item of a collection.
`Condition.Restates` relates conditions that differ in this way, and `Field.restated` says that
neither the verdict nor the log tells them apart.
-/

namespace FormEngine

namespace Value

variable {u v w : Value}

/-! ## An equivalence -/

/-- The values that a program can hold and in which everything that is a number is one. -/
abbrev Comparable := { v : Value // v.Proper ∧ v.NanFree }

lemma strictlySame_self (h : v.NanFree) : v.strictlySame v = true :=
  strictlySame_iff.2 ⟨same_self h, fun _ => Iff.rfl⟩

lemma Proper.strictlySame_symm (hv : v.Proper) (hw : w.Proper) (h : v.strictlySame w = true) :
    w.strictlySame v = true := by
  obtain ⟨hsame, htop⟩ := strictlySame_iff.1 h
  exact strictlySame_iff.2 ⟨hv.same_symm hw hsame, fun b => (htop b).symm⟩

lemma strictlySame_trans (huv : u.strictlySame v = true) (hvw : v.strictlySame w = true) :
    u.strictlySame w = true := by
  obtain ⟨huv, htop⟩ := strictlySame_iff.1 huv
  obtain ⟨hvw, htop'⟩ := strictlySame_iff.1 hvw
  exact strictlySame_iff.2 ⟨same_trans huv hvw, fun b => (htop b).trans (htop' b)⟩

lemma strictlySame_equivalence :
    Equivalence fun v w : Comparable => v.1.strictlySame w.1 = true where
  refl v := strictlySame_self v.2.2
  symm {v w} h := v.2.1.strictlySame_symm w.2.1 h
  trans := strictlySame_trans

/-! ## Replacing one value -/

/-- One value can stand for another: it is the other, or strictly the same. -/
def StandsFor (v w : Value) : Prop :=
  v = w ∨ v.Proper ∧ w.Proper ∧ v.strictlySame w = true

namespace StandsFor

lemma left (h : v.StandsFor w) (u : Value) : v.strictlySame u = w.strictlySame u := by
  obtain rfl | ⟨hv, hw, hsame⟩ := h
  · rfl
  · rw [Bool.eq_iff_iff]
    exact ⟨strictlySame_trans (hv.strictlySame_symm hw hsame), strictlySame_trans hsame⟩

lemma right (h : v.StandsFor w) (u : Value) : u.strictlySame v = u.strictlySame w := by
  obtain rfl | ⟨hv, hw, hsame⟩ := h
  · rfl
  · rw [Bool.eq_iff_iff]
    exact ⟨fun huv => strictlySame_trans huv hsame,
      fun huw => strictlySame_trans huw (hv.strictlySame_symm hw hsame)⟩

end StandsFor

/-- Of two collections, every item of each can stand for one of the other or the other way
round. -/
def ItemsStandFor (xs ys : List Value) : Prop :=
  (∀ x ∈ xs, ∃ y ∈ ys, x.StandsFor y) ∧ ∀ y ∈ ys, ∃ x ∈ xs, x.StandsFor y

lemma ItemsStandFor.any_eq {xs ys : List Value} (h : ItemsStandFor xs ys) (u : Value) :
    (xs.any fun x => u.strictlySame x) = ys.any fun y => u.strictlySame y := by
  rw [Bool.eq_iff_iff, List.any_eq_true, List.any_eq_true]
  constructor
  · rintro ⟨x, hx, hux⟩
    obtain ⟨y, hy, hxy⟩ := h.1 x hx
    exact ⟨y, hy, hxy.right u ▸ hux⟩
  · rintro ⟨y, hy, huy⟩
    obtain ⟨x, hx, hxy⟩ := h.2 y hy
    exact ⟨x, hx, hxy.right u ▸ huy⟩

end Value

/-! ## Replacing what conditions look at -/

/-- One condition restates another: the two are the same, or one compares with a value that can
stand for the other's, or looks for its value among items that can stand for the other's. -/
inductive Condition.Restates : Condition → Condition → Prop
  | same (c : Condition) : Restates c c
  | equals {field : String} {v w : Value} (h : v.StandsFor w) :
      Restates ⟨field, "equals", v⟩ ⟨field, "equals", w⟩
  | notEquals {field : String} {v w : Value} (h : v.StandsFor w) :
      Restates ⟨field, "notEquals", v⟩ ⟨field, "notEquals", w⟩
  | isIn {field : String} {v w : Value} {xs ys : List Value} (hv : v.items? = some xs)
      (hw : w.items? = some ys) (h : Value.ItemsStandFor xs ys) :
      Restates ⟨field, "in", v⟩ ⟨field, "in", w⟩

lemma Operator.holds_of_standsFor {v w : Value} (h : v.StandsFor w) (op : Operator)
    (compared : Value) : op.holds v compared = op.holds w compared := by
  cases op <;> simp only [Operator.holds, h.left]

namespace Condition

variable {c c' : Condition} {values values' : Mapping Value}

lemma Restates.judge_eq (h : c.Restates c') (values : Mapping Value) :
    c.judge values = c'.judge values := by
  cases h with
  | same => rfl
  | equals h =>
      refine judge_congr_holds rfl fun op hop => ?_
      obtain rfl : Operator.equals = op := Operator.name_inj.1 (Text.plain.inj hop)
      exact h.right _
  | notEquals h =>
      refine judge_congr_holds rfl fun op hop => ?_
      obtain rfl : Operator.notEquals = op := Operator.name_inj.1 (Text.plain.inj hop)
      exact congrArg not (h.right _)
  | isIn hv hw h =>
      refine judge_congr_holds rfl fun op hop => ?_
      obtain rfl : Operator.isIn = op := Operator.name_inj.1 (Text.plain.inj hop)
      simp only [Operator.holds, hv, hw, Option.any_some, h.any_eq]
      rfl

lemma Restates.warning_eq (h : c.Restates c') : c.warning = c'.warning := by
  cases h <;> rfl

end Condition

/-- Strict sameness is reflexive, symmetric and transitive, and no field is hidden or shown by
replacing what is strictly the same: the values of the fields that it has conditions on, the values
that these compare with, and the items of the collections in which they look.  Nor is anything else
logged. -/
theorem Field.visibleUnder_of_restated :
    (Equivalence fun v w : Value.Comparable => v.1.strictlySame w.1 = true) ∧
      ∀ (f g : Field) (values values' : Mapping Value),
        List.Forall₂ Condition.Restates f.conditions g.conditions →
        (∀ c ∈ f.conditions, (c.subject values).StandsFor (c.subject values')) →
        f.visibleUnder values = g.visibleUnder values' := by
  refine ⟨Value.strictlySame_equivalence, fun f g values values' restated stands => ?_⟩
  refine Condition.judgeAll_congr (((List.forall₂_and_left _ _).2 ⟨stands, restated⟩).imp ?_)
  rintro c c' ⟨hstands, hrestates⟩
  refine ⟨?_, hrestates.warning_eq⟩
  calc c.judge values
      = c.judge values' :=
        Condition.judge_congr_holds rfl fun op _ => op.holds_of_standsFor hstands c.value
    _ = c'.judge values' := hrestates.judge_eq values'

/-! ## A field with two conditions -/

namespace Value

/-- What somebody likes, written with integers. -/
def taste : Value := .map [(.text "art", .list [.int 1]), (.text "food", .set [.int 2])]

/-- The same with floats, and in another order. -/
def tasteAgain : Value :=
  .map [(.text "food", .set [.float (.ofInt 2)]), (.text "art", .list [.float (.ofInt 1)])]

lemma proper_of_parts {v : Value} (h : v.RepeatsNothing) (hparts : v.parts = []) : v.Proper :=
  .intro h fun _ hw => absurd (hparts ▸ hw) List.not_mem_nil

lemma proper_pair {key key' : String} (hne : key ≠ key') {v w : Value} (hv : v.Proper)
    (hw : w.Proper) : (Value.map [(.text key, v), (.text key', w)]).Proper := by
  have htext : ∀ text : String, (Value.text text).Proper := fun _ => proper_of_parts trivial rfl
  refine .intro (by simp [RepeatsNothing, same, hne]) ?_
  simp [parts, htext, hv, hw]

lemma proper_one {v : Value} (hv : v.Proper) :
    (Value.list [v]).Proper ∧ (Value.set [v]).Proper :=
  ⟨.intro trivial (List.forall_mem_singleton.2 hv),
    .intro (List.pairwise_singleton ..) (List.forall_mem_singleton.2 hv)⟩

lemma taste_standsFor : taste.StandsFor tasteAgain := by
  have hint : ∀ n, (Value.int n).Proper := fun _ => proper_of_number? rfl
  have hfloat : ∀ n, (Value.float (.ofInt n)).Proper := fun _ => proper_of_number? rfl
  refine .inr ⟨?_, ?_, rfl⟩
  · exact proper_pair (by decide) (proper_one (hint 1)).1 (proper_one (hint 2)).2
  · exact proper_pair (by decide) (proper_one (hfloat 2)).2 (proper_one (hfloat 1)).1

end Value

/-- A field for those who wear a size and like something. -/
def sizeField (size liked : Value) : Field :=
  ⟨none, "", .text, none, none, none, .empty, none,
    some (.all [⟨"size", "equals", size⟩, ⟨"likes", "in", liked⟩])⟩

/-- A size and a taste. -/
def sizeValues (size likes : Value) : Mapping Value :=
  ⟨[("size", size), ("likes", likes)], by simp⟩

theorem visibleUnder_of_sizeField :
    List.Forall₂ Condition.Restates
        (sizeField (.int 7) (.list [.null, Value.taste])).conditions
        (sizeField (.float (.ofInt 7)) (.tuple [Value.tasteAgain, .null])).conditions ∧
      (∀ c ∈ (sizeField (.int 7) (.list [.null, Value.taste])).conditions,
        (c.subject (sizeValues (.int 7) Value.taste)).StandsFor
          (c.subject (sizeValues (.float (.ofInt 7)) Value.tasteAgain))) ∧
      (sizeField (.int 7) (.list [.null, Value.taste])).visibleUnder
          (sizeValues (.int 7) Value.taste) =
        (sizeField (.float (.ofInt 7)) (.tuple [Value.tasteAgain, .null])).visibleUnder
          (sizeValues (.float (.ofInt 7)) Value.tasteAgain) ∧
      ((sizeField (.int 7) (.list [.null, Value.taste])).visibleUnder
          (sizeValues (.int 7) Value.taste)).result = .ok true := by
  have hseven : (Value.int 7).StandsFor (.float (.ofInt 7)) :=
    .inr ⟨Value.proper_of_number? rfl, Value.proper_of_number? rfl, rfl⟩
  have hitems : Value.ItemsStandFor [.null, Value.taste] [Value.tasteAgain, .null] := by
    constructor
    · exact List.forall_mem_cons.2 ⟨⟨.null, by simp, .inl rfl⟩,
        List.forall_mem_singleton.2 ⟨Value.tasteAgain, by simp, Value.taste_standsFor⟩⟩
    · exact List.forall_mem_cons.2 ⟨⟨Value.taste, by simp, Value.taste_standsFor⟩,
        List.forall_mem_singleton.2 ⟨.null, by simp, .inl rfl⟩⟩
  have restated : List.Forall₂ Condition.Restates
      (sizeField (.int 7) (.list [.null, Value.taste])).conditions
      (sizeField (.float (.ofInt 7)) (.tuple [Value.tasteAgain, .null])).conditions :=
    .cons (.equals hseven) (.cons (.isIn rfl rfl hitems) .nil)
  have stands : ∀ c ∈ (sizeField (.int 7) (.list [.null, Value.taste])).conditions,
      (c.subject (sizeValues (.int 7) Value.taste)).StandsFor
        (c.subject (sizeValues (.float (.ofInt 7)) Value.tasteAgain)) :=
    List.forall_mem_cons.2 ⟨hseven, List.forall_mem_singleton.2 Value.taste_standsFor⟩
  exact ⟨restated, stands, Field.visibleUnder_of_restated.2 _ _ _ _ restated stands, rfl⟩

end FormEngine
