import Mathlib.Data.List.Forall2
import Mathlib.Data.List.TakeWhile
import FormEngine.Proofs.Form.Visibility

/-!
# What the conditions of a field mean

Judging the conditions of a field goes through them one by one, stops at the first that fails, and
warns on the way.  `Condition.Holds` says what a single condition means, without order and without
a log, and a field is visible exactly if all of its conditions hold.  So neither their order matters
to the verdict, nor how often they are given, nor those whose operator has no meaning.

The order does matter to the log.  `Condition.judgeAll_events` reads the warnings off the conditions
before the first that fails.
-/

namespace FormEngine

namespace Operator

/-- The name of an operator in a condition. -/
def name : Operator → String
  | .equals => "equals"
  | .notEquals => "notEquals"
  | .isIn => "in"

/-- What an operator demands of the value of a field, given the value of the condition. -/
def Demands : Operator → Value → Value → Prop
  | .equals, value, compared => value.strictlySame compared = true
  | .notEquals, value, compared => ¬ value.strictlySame compared = true
  | .isIn, value, compared =>
    ∃ items, compared.items? = some items ∧ ∃ item ∈ items, value.strictlySame item = true

lemma ofName?_eq_some_iff {text : Text} {op : Operator} :
    ofName? text = some op ↔ text = op.name := by
  unfold ofName?
  split <;> cases op <;> simp_all [name]

lemma name_inj {op op' : Operator} : op.name = op'.name ↔ op = op' := by
  rw [← Text.plain.injEq, ← ofName?_eq_some_iff, ofName?_eq_some_iff.2 rfl, Option.some.injEq]

lemma holds_iff {op : Operator} {value compared : Value} :
    op.holds value compared = true ↔ op.Demands value compared := by
  cases op with
  | equals => exact Iff.rfl
  | notEquals => simp [holds, Demands]
  | isIn => simp [holds, Demands, Option.any_eq_true]

end Operator

namespace Condition

variable {values values' : Mapping Value} {c : Condition} {cs : List Condition}

/-! ## A single condition -/

/-- The value that a condition is about; a missing one counts as null. -/
def subject (c : Condition) (values : Mapping Value) : Value :=
  (values.get? c.field).getD .null

/-- Whether the operator of a condition is one of those with a meaning. -/
def HasMeaning (c : Condition) : Prop := ∃ op : Operator, c.operator = op.name

/-- What a condition says: what its operator demands, and nothing if that has no meaning. -/
def Holds (c : Condition) (values : Mapping Value) : Prop :=
  ∀ op : Operator, c.operator = op.name → op.Demands (c.subject values) c.value

lemma hasMeaning_iff : c.HasMeaning ↔ (Operator.ofName? c.operator).isSome = true := by
  rw [HasMeaning, Option.isSome_iff_exists]
  exact exists_congr fun op => Operator.ofName?_eq_some_iff.symm

instance : DecidablePred HasMeaning := fun _ => decidable_of_iff _ hasMeaning_iff.symm

lemma not_hasMeaning_iff : ¬ c.HasMeaning ↔ Operator.ofName? c.operator = none := by
  rw [hasMeaning_iff, Option.not_isSome_iff_eq_none]

lemma holds_of_not_hasMeaning (h : ¬ c.HasMeaning) (values : Mapping Value) : c.Holds values :=
  fun op hop => absurd ⟨op, hop⟩ h

lemma holds_iff_demands (op : Operator) (hop : c.operator = op.name) :
    c.Holds values ↔ op.Demands (c.subject values) c.value := by
  refine ⟨fun h => h op hop, fun h op' hop' => ?_⟩
  obtain rfl := Operator.name_inj.1 (Text.plain.inj (hop.symm.trans hop'))
  exact h

lemma judge_eq_unknown_iff : c.judge values = .unknown ↔ ¬ c.HasMeaning := by
  rw [not_hasMeaning_iff, judge]
  cases Operator.ofName? c.operator with
  | none => simp
  | some op =>
      simp only [reduceCtorEq, iff_false]
      split <;> simp

/-- A condition fails exactly if it does not hold. -/
lemma judge_eq_fails_iff : c.judge values = .fails ↔ ¬ c.Holds values := by
  rw [judge]
  cases h : Operator.ofName? c.operator with
  | none =>
      have hholds := holds_of_not_hasMeaning (not_hasMeaning_iff.2 h) values
      simp [hholds]
  | some op =>
      rw [holds_iff_demands op (Operator.ofName?_eq_some_iff.1 h), ← Operator.holds_iff, subject]
      simp

/-- Conditions with one operator are judged alike if the operator holds alike. -/
lemma judge_congr_holds {c' : Condition} (hoperator : c.operator = c'.operator)
    (h : ∀ op : Operator, c.operator = op.name →
      op.holds (c.subject values) c.value = op.holds (c'.subject values') c'.value) :
    c.judge values = c'.judge values' := by
  rw [judge, judge, ← hoperator]
  cases hname : Operator.ofName? c.operator with
  | none => rfl
  | some op =>
      have hholds := h op (Operator.ofName?_eq_some_iff.1 hname)
      rw [subject, subject] at hholds
      simp only
      rw [hholds]

/-- A condition looks at nothing but its subject. -/
lemma judge_of_subject_eq (h : c.subject values = c.subject values') :
    c.judge values = c.judge values' :=
  judge_congr_holds rfl fun op _ => by rw [h]

/-- How the operators that have a meaning belong together, and what the others come to. -/
structure OperatorLaws (values : Mapping Value) : Prop where
  /-- What differs does not equal. -/
  notEquals : ∀ field compared,
    (⟨field, "notEquals", compared⟩ : Condition).judge values = .fails ↔
      (⟨field, "equals", compared⟩ : Condition).judge values = .holds
  /-- What is in a list, a tuple or a set equals one of its items. -/
  isIn : ∀ field compared items, compared ∈ [Value.list items, .tuple items, .set items] →
    ((⟨field, "in", compared⟩ : Condition).judge values = .holds ↔
      ∃ item ∈ items, (⟨field, "equals", item⟩ : Condition).judge values = .holds)
  /-- Nothing is in text, octets, a mapping, or a value that has no items at all. -/
  isIn_none : ∀ field compared, (∀ items, compared ∉ [Value.list items, .tuple items, .set items]) →
    (⟨field, "in", compared⟩ : Condition).judge values = .fails
  /-- A condition with another operator never fails. -/
  meaningless : ∀ c : Condition, ¬ c.HasMeaning → c.judge values ≠ .fails

lemma judge_eq_holds_iff (op : Operator) (hop : c.operator = op.name) :
    c.judge values = .holds ↔ op.Demands (c.subject values) c.value := by
  rw [judge, Operator.ofName?_eq_some_iff.2 hop, ← Operator.holds_iff, subject]
  simp

lemma items?_eq_none_iff {v : Value} :
    v.items? = none ↔ ∀ items, v ∉ [Value.list items, .tuple items, .set items] := by
  cases v <;> simp [Value.items?]

lemma operatorLaws (values : Mapping Value) : OperatorLaws values where
  notEquals field compared := by
    rw [judge_eq_fails_iff, holds_iff_demands .notEquals rfl,
      judge_eq_holds_iff .equals rfl]
    exact not_not
  isIn field compared items h := by
    have hitems : compared.items? = some items := by
      simp only [List.mem_cons, List.not_mem_nil, or_false] at h
      rcases h with rfl | rfl | rfl <;> rfl
    rw [judge_eq_holds_iff .isIn rfl]
    simp only [Operator.Demands, hitems, Option.some.injEq, exists_eq_left']
    exact exists_congr fun item => and_congr_right fun _ =>
      (judge_eq_holds_iff (c := ⟨field, "equals", item⟩) .equals rfl).symm
  isIn_none field compared h := by
    rw [judge_eq_fails_iff, holds_iff_demands .isIn rfl]
    rintro ⟨items, hitems, -⟩
    rw [items?_eq_none_iff.2 h] at hitems
    cases hitems
  meaningless c h := by
    rw [Ne, judge_eq_fails_iff, not_not]
    exact holds_of_not_hasMeaning h values

/-! ## Several conditions -/

lemma allMet_iff : allMet values cs = true ↔ ∀ c ∈ cs, c.Holds values := by
  rw [allMet, List.all_eq_true]
  refine forall₂_congr fun c _ => ?_
  rw [decide_eq_true_eq, Ne, judge_eq_fails_iff, not_not]

/-- Conditions that are judged alike one by one, and would be warned of alike, are judged alike. -/
lemma judgeAll_congr {cs' : List Condition}
    (h : List.Forall₂ (fun c c' => c.judge values = c'.judge values' ∧ c.warning = c'.warning)
      cs cs') : judgeAll values cs = judgeAll values' cs' := by
  induction h with
  | nil => rfl
  | cons head _ ih =>
      rw [judgeAll, judgeAll, head.1, head.2, ih]

/-- The line of the log about a condition. -/
def warningEvent (c : Condition) : Event := .logged ⟨.warning, .visibility, c.warning⟩

/-- What is logged are the conditions without meaning before the first that fails. -/
lemma judgeAll_events (values : Mapping Value) (cs : List Condition) :
    (judgeAll values cs).events =
      ((cs.takeWhile fun c => c.judge values ≠ .fails).filter fun c => ¬ c.HasMeaning).map
        warningEvent := by
  induction cs with
  | nil => rfl
  | cons c cs ih =>
      have hmeaning : ¬ c.HasMeaning ↔ c.judge values = .unknown := judge_eq_unknown_iff.symm
      rw [judgeAll]
      cases h : c.judge values with
      | holds => simpa [h, hmeaning] using ih
      | fails => simp [h]
      | unknown =>
          have hbind : (Traced.log .warning .visibility c.warning >>=
              fun _ => judgeAll values cs).events =
                c.warningEvent :: (judgeAll values cs).events := rfl
          simp [h, hmeaning, hbind, ih]

end Condition

/-! ## The rule of a field -/

/-- How its conditions govern a field under some values. -/
structure Field.Governed (f : Field) (values : Mapping Value) : Prop where
  /-- The verdict always comes. -/
  answered : (f.visibleUnder values).result = .ok (f.isShownBy values)
  /-- A field is visible if it has no rule, or else if all conditions of its rule hold. -/
  isShownBy_iff : f.isShownBy values = true ↔
    ∀ rule, f.visibleWhen = some rule → ∀ c ∈ rule.conditions, c.Holds values
  /-- A single condition is as good as a list of one. -/
  single : ∀ (g : Field) (c : Condition), f.visibleWhen = some (.single c) →
    g.visibleWhen = some (.all [c]) → g.visibleUnder values = f.visibleUnder values
  /-- Conditions may come in any order and any number, and those without meaning may be left out or
  put in. -/
  isShownBy_eq : ∀ g : Field,
    (∀ c : Condition, c.HasMeaning → (c ∈ g.conditions ↔ c ∈ f.conditions)) →
      g.isShownBy values = f.isShownBy values
  /-- More conditions make no hidden field visible. -/
  hidden : ∀ g : Field, f.conditions ⊆ g.conditions → f.isShownBy values = false →
    g.isShownBy values = false
  /-- Nothing else is looked at than the values that the conditions are about. -/
  visibleUnder_eq : ∀ values' : Mapping Value,
    (∀ c ∈ f.conditions, c.subject values' = c.subject values) →
      f.visibleUnder values' = f.visibleUnder values
  /-- Of the conditions without meaning those are logged, in their order, that come before the first
  condition that does not hold. -/
  logged : ∃ before since, f.conditions = before ++ since ∧ (∀ c ∈ before, c.Holds values) ∧
    (∀ c ∈ since.head?, ¬ c.Holds values) ∧ (f.visibleUnder values).events =
      (before.filter fun c => ¬ c.HasMeaning).map Condition.warningEvent

namespace Field

variable {f g : Field} {values values' : Mapping Value}

lemma mem_conditions {c : Condition} :
    c ∈ f.conditions ↔ ∃ rule, f.visibleWhen = some rule ∧ c ∈ rule.conditions := by
  rw [conditions]
  cases f.visibleWhen <;> simp

lemma isShownBy_iff : f.isShownBy values = true ↔ ∀ c ∈ f.conditions, c.Holds values :=
  Condition.allMet_iff

/-- Conditions hold if those of them that have a meaning are among conditions that hold. -/
lemma holds_of_meaningful_subset (hsubset : ∀ c ∈ g.conditions, c.HasMeaning → c ∈ f.conditions)
    (h : ∀ c ∈ f.conditions, c.Holds values) : ∀ c ∈ g.conditions, c.Holds values := by
  intro c hc
  by_cases hmeaning : c.HasMeaning
  · exact h c (hsubset c hc hmeaning)
  · exact Condition.holds_of_not_hasMeaning hmeaning values

lemma visibleUnder_congr (h : ∀ c ∈ f.conditions, c.subject values' = c.subject values) :
    f.visibleUnder values' = f.visibleUnder values := by
  refine Condition.judgeAll_congr (List.forall₂_same.2 fun c hc => ⟨?_, rfl⟩)
  exact Condition.judge_of_subject_eq (h c hc)

/-- The conditions of a field decide whether it is visible by what they say of the values that they
are about, all together and each for itself, in whatever order they are given; the order decides
what is logged about conditions without meaning. -/
theorem governed_by_conditions (f : Field) (values : Mapping Value) :
    Condition.OperatorLaws values ∧ f.Governed values := by
  refine ⟨Condition.operatorLaws values, f.visibleUnder_result values, ?_, ?_, ?_, ?_, ?_, ?_⟩
  · rw [isShownBy_iff]
    refine ⟨fun h rule hrule c hc => h c (mem_conditions.2 ⟨rule, hrule, hc⟩), fun h c hc => ?_⟩
    obtain ⟨rule, hrule, hc⟩ := mem_conditions.1 hc
    exact h rule hrule c hc
  · intro g c hf hg
    rw [visibleUnder, visibleUnder, conditions, conditions, hf, hg]
    rfl
  · intro g same
    rw [Bool.eq_iff_iff, isShownBy_iff, isShownBy_iff]
    constructor
    · exact holds_of_meaningful_subset fun c hc hmeaning => (same c hmeaning).2 hc
    · exact holds_of_meaningful_subset fun c hc hmeaning => (same c hmeaning).1 hc
  · intro g more hidden
    rw [← Bool.not_eq_true, isShownBy_iff] at hidden ⊢
    exact mt (holds_of_meaningful_subset fun c hc _ => more hc) hidden
  · exact fun values' same => visibleUnder_congr same
  · refine ⟨f.conditions.takeWhile fun c => c.judge values ≠ .fails,
      f.conditions.dropWhile fun c => c.judge values ≠ .fails,
      List.takeWhile_append_dropWhile.symm, fun c hc => ?_, fun c hc => ?_,
      Condition.judgeAll_events values f.conditions⟩
    · have hfails := List.mem_takeWhile_imp hc
      rwa [decide_eq_true_eq, Ne, Condition.judge_eq_fails_iff, not_not] at hfails
    · have hfirst := List.head?_dropWhile_not
        (fun c : Condition => decide (c.judge values ≠ .fails)) f.conditions
      rw [Option.mem_def.1 hc] at hfirst
      simpa [Condition.judge_eq_fails_iff] using hfirst

end Field

/-- Nobody is warned of what comes after a condition that fails. -/
example (f : Field) :
    ({ f with visibleWhen := some (.all [⟨"a", "above", .null⟩, ⟨"a", "equals", .int 1⟩,
      ⟨"a", "below", .null⟩]) }.visibleUnder .empty).events =
      [Condition.warningEvent ⟨"a", "above", .null⟩] := rfl

end FormEngine
