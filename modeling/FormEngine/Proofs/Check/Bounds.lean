import FormEngine.Proofs.Checklist
import FormEngine.Proofs.Form.Bounds
import FormEngine.Proofs.Number.Decimal

/-!
# Integers and their bounds

What becomes of an integer that is entered where a document bounds a number by an integer.  Bounds
are binary64 numbers, while integers that are entered keep their size, and the two are compared by
exact value.  So a bound is enforced as it is written if binary64 holds it, as it does up to
`2 ^ 53`, and otherwise the number nearest to it is enforced (`Form.judgeField_of_bound`); beyond
that size an integer below the bound may be let through (`Form.judgeField_beyond_written`).

The outcome is told by taking the bound away: what it excludes is refused with its message, and
everything else is judged as if there were no such bound (`Field.run_of_bound`).
-/

namespace FormEngine

/-! ## Integers that are entered -/

/-- An integer is entered as itself, or as a text that spells it, with blanks around. -/
inductive EntersAs (v : ℤ) : Value → Prop
  | number : EntersAs v (.int v)
  | text {before after : List ℕ} {cs : List Char} : Spells cs v →
      (∀ m ∈ before, isBlankPoint m = true) → (∀ m ∈ after, isBlankPoint m = true) →
      digitCount (before ++ cs.map Char.toNat ++ after) ≤ digitLimit →
      EntersAs v (.ofPoints (before ++ cs.map Char.toNat ++ after))

lemma EntersAs.enteredNumber_eq {v : ℤ} {given : Value} (h : EntersAs v given) :
    enteredNumber given = .ok (.int v) := by
  cases h with
  | number => rfl
  | @text before after cs hspells hbefore hafter hcount =>
      obtain ⟨d, rfl, hnumber⟩ := hspells.exists_decimal
      have hfills : d.Fills (before ++ d.chars.map Char.toNat ++ after) :=
        ⟨before, after, rfl, hbefore, hafter⟩
      exact enteredNumber_ofPoints_iff.2 ⟨d, hfills, hnumber.symm, rfl,
        fun _ => hfills.length_whole_le.trans hcount⟩

/-- What stands for a number is not blank. -/
lemma not_vacant_of_entered {given : Value} {x : Number} (h : enteredNumber given = .ok x) :
    isVacant given = false := by
  cases given with
  | null => cases h
  | text t =>
      obtain ⟨s⟩ | ⟨points, marred⟩ := t
      case raw => cases h
      obtain ⟨d, ⟨before, after, hchars, -, -⟩, -⟩ := enteredNumber_text_iff.1 h
      obtain ⟨c, hc⟩ := List.exists_mem_of_ne_nil _ d.chars_ne_nil
      rw [isVacant, List.all_eq_false]
      exact ⟨c, by simp [hchars, hc], by simp [d.not_blank_of_mem hc]⟩
  | _ => rfl

/-! ## Bounds -/

namespace Limit

/-- Whether a bound excludes an integer. -/
def Excludes : Limit → ℤ → ℤ → Prop
  | least, b, v => v < b
  | greatest, b, v => b < v

instance : (limit : Limit) → (b v : ℤ) → Decidable (limit.Excludes b v)
  | least, b, v => inferInstanceAs (Decidable (v < b))
  | greatest, b, v => inferInstanceAs (Decidable (b < v))

/-- The message of a bound that gives none. -/
def message : Limit → ℤ → String
  | least, b => "Must be at least " ++ toString b
  | greatest, b => "Must be at most " ++ toString b

/-- Refuses a number that a bound excludes, if there is one. -/
def enforce : Limit → Option (Rule Double) → Number → Except Refusal Unit
  | least, rule?, x =>
    Rule.enforce rule? (fun b => x.lt (.float b)) fun b => "Must be at least " ++ boundText b
  | greatest, rule?, x =>
    Rule.enforce rule? (fun b => Number.lt (.float b) x) fun b => "Must be at most " ++ boundText b

/-- Rules without a bound. -/
def lift : Limit → Rules → Rules
  | least, rules => { rules with min := none }
  | greatest, rules => { rules with max := none }

end Limit

/-- A field without a bound. -/
def Field.without (f : Field) (limit : Limit) : Field := { f with rules := f.rules.map limit.lift }

lemma boundText_eq {x : Double} {b : ℤ} (h : x.toRat? = some (b : ℚ)) :
    boundText x = toString b := by
  have hint : x.toInt? = some b := by simp [Double.toInt?, h]
  rw [boundText, hint]

/-- What comes after a refusal is reached if there is none. -/
lemma refuseIf_bind {α : Type} (p : Prop) [Decidable p] (message : Text)
    (next : Unit → Except Refusal α) : (refuseIf (decide p) message >>= next) =
      if p then .error (.violation message) else next () := by
  by_cases h : p
  · rw [decide_eq_true h, if_pos h]
    rfl
  · rw [decide_eq_false h, if_neg h]
    rfl

/-- An integer is refused by a bound exactly if the bound excludes it. -/
lemma Limit.enforce_eq (limit : Limit) {rule : Rule Double} {b : ℤ}
    (h : rule.demand.toRat? = some (b : ℚ)) (v : ℤ) :
    limit.enforce (some rule) (.int v) =
      refuseIf (decide (limit.Excludes b v)) (rule.messageOr (limit.message b)) := by
  cases limit with
  | least =>
      have hbelow : (Number.int v).lt (.float rule.demand) = decide (v < b) := by
        rw [Number.lt_float_eq (q := v) rfl, Double.isAbove, h]
        simp
      rw [enforce, Rule.enforce, hbelow, boundText_eq h]
      rfl
  | greatest =>
      have habove : Number.lt (.float rule.demand) (.int v) = decide (b < v) := by
        rw [Number.float_lt_eq (q := v) rfl, Double.isBelow, h]
        simp
      rw [enforce, Rule.enforce, habove, boundText_eq h]
      rfl

/-- The bounds are looked at one after the other. -/
lemma NumericCheck.run_of_integer (c : NumericCheck) {given : Value} {v : ℤ}
    (h : EntersAs v given) : c.run given = (do
      Limit.least.enforce c.min (.int v)
      Limit.greatest.enforce c.max (.int v)
      return .int v) := by
  have hnumber := h.enteredNumber_eq
  rw [NumericCheck.run, if_neg (Bool.eq_false_iff.1 (not_vacant_of_entered hnumber)), hnumber]
  rfl

/-! ## Fields -/

namespace Field

variable {f : Field} {rules : Rules} {rule : Rule Double} {limit : Limit} {b v : ℤ} {given : Value}

/-- What a bound excludes is refused, and everything else is checked as if there were no such
bound. -/
lemma run_of_bound (hwidget : f.widget = .number) (hrules : f.rules = some rules)
    (hrule : limit.rule? rules = some rule) (hb : rule.demand.toRat? = some (b : ℚ))
    (hfirst : limit = .greatest → rules.min = none) (h : EntersAs v given) (today : Date) :
    f.check.run today given =
      if limit.Excludes b v then .error (.violation (rule.messageOr (limit.message b)))
      else (f.without limit).check.run today given := by
  have hcheck : f.check = .number ⟨rules.required, rules.min, rules.max⟩ := by
    simp only [check, hwidget, hrules, Option.getD_some]
  have hlifted : (f.without limit).check =
      .number ⟨(limit.lift rules).required, (limit.lift rules).min, (limit.lift rules).max⟩ := by
    simp only [check, without, hwidget, hrules, Option.map_some, Option.getD_some]
  rw [hcheck, hlifted, Check.run, Check.run, NumericCheck.run_of_integer _ h,
    NumericCheck.run_of_integer _ h]
  have hrefused := limit.enforce_eq hb v
  cases limit with
  | least =>
      have hmin : rules.min = some rule := hrule
      rw [hmin, hrefused]
      exact refuseIf_bind (Limit.least.Excludes b v) _ _
  | greatest =>
      have hmax : rules.max = some rule := hrule
      rw [Limit.lift, hfirst rfl, hmax, hrefused]
      exact refuseIf_bind (Limit.greatest.Excludes b v) (rule.messageOr (Limit.greatest.message b))
        fun _ => .ok (Value.int v)

/-- A bound concerns the check of a field and not its predicate. -/
lemma judge_of_bound (hwidget : f.widget = .number) (hrules : f.rules = some rules)
    (hrule : limit.rule? rules = some rule) (hb : rule.demand.toRat? = some (b : ℚ))
    (hfirst : limit = .greatest → rules.min = none) (h : EntersAs v given) (today : Date)
    (values : Mapping Value) :
    f.gate.judge today given values =
      if limit.Excludes b v then pure ⟨given, some (rule.messageOr (limit.message b))⟩
      else (f.without limit).gate.judge today given values := by
  have hrun := run_of_bound hwidget hrules hrule hb hfirst h today
  have hpredicate : (f.without limit).gate.predicate = f.gate.predicate := by
    simp only [gate, without, hrules]
    cases limit <;> rfl
  have hcheck : f.gate.check = f.check := rfl
  have hlifted : (f.without limit).gate.check = (f.without limit).check := rfl
  rw [Gate.judge, Gate.judge, hcheck, hlifted, hpredicate, hrun]
  by_cases hexcluded : limit.Excludes b v
  · rw [if_pos hexcluded, if_pos hexcluded]
  · rw [if_neg hexcluded, if_neg hexcluded]
    rfl

end Field

/-! ## Documents -/

/-- Where a document that declares a form bounds a number by an integer, there is an integer `b`,
the binary64 number nearest to the one that is written and equal to it if binary64 holds that, as it
does up to `2 ^ 53`.  An integer of any size that is entered for the number is refused with the
message of the bound exactly if it lies beyond `b`, and else it is judged as if there were no such
bound.  The greatest value is looked at if no least one is given. -/
theorem Form.judgeField_of_bound {document definition : Value} {host : Predicate.Host}
    {form : Form} {name : String} {limit : Limit} {members : Members} {n : ℤ}
    (hread : Form.read document host = .accepted form)
    (hgives : Form.Gives document name definition) (hnumber : Field.IsNumber definition)
    (hrule : Field.GivesRule definition limit.key (.map members))
    (hvalue : Value.lookupText "value" members = some (.int n))
    (hfirst : limit = .greatest →
      ∀ rule, Field.GivesRule definition Limit.least.key rule → rule = .null) :
    ∃ (field : Field) (rule : Rule Double) (b : ℤ),
      form.field? name = some field ∧ readMessage members = .accepted rule.message ∧
      Double.RoundsTo n b ∧ (Double.IsValue n → b = n) ∧ (|n| ≤ 2 ^ 53 → b = n) ∧
      ∀ (today : Date) (values : Mapping Value) (v : ℤ),
        EntersAs v (Checklist.valueOf values name) →
        form.checklist.judgeField today name values =
          if limit.Excludes b v then
            pure ⟨Checklist.valueOf values name, some (rule.messageOr (limit.message b))⟩
          else (field.without limit).gate.judge today (Checklist.valueOf values name) values := by
  obtain ⟨f, hfield, hget⟩ := Form.exists_field_of_read hread hgives
  obtain ⟨rules, rule, hrules, hlimit, hmessage, b, hb, hround⟩ :=
    Field.exists_bound_of_read hfield hrule hvalue
  have hwidget : f.widget = .number := Field.widget_of_read hfield hnumber
  have hexact : Double.IsValue n → b = n := fun hheld => by
    exact_mod_cast hround.eq_of_isValue hheld
  refine ⟨{ f with id := some name }, rule, b, hget, hmessage, hround, hexact,
    fun hsmall => hexact (Double.isValue_intCast hsmall), fun today values v hv => ?_⟩
  have halone : limit = .greatest → rules.min = none := fun hgreatest =>
    Field.rule?_of_read hfield hrules (hfirst hgreatest)
  rw [Form.judgeField_eq hget]
  exact Field.judge_of_bound (f := { f with id := some name }) hwidget hrules hlimit hb halone hv
    today values

/-! ## Serial numbers -/

/-- The definition of a serial number with one bound. -/
def serialDefinition (limit : Limit) (n : ℤ) : Value :=
  .map [(.text "renderer", .text "number"),
    (.text "rules", .map [(.text limit.key, .map [(.text "value", .int n)])])]

/-- A document that asks for a serial number with one bound. -/
def serialDocument (limit : Limit) (n : ℤ) : Value :=
  .map [(.text "id", .text "ticket"),
    (.text "fields", .map [(.text "serial", serialDefinition limit n)])]

/-- A serial number as it is entered. -/
def serialValues (given : Value) : Mapping Value := ⟨[("serial", given)], by simp⟩

lemma serialDocument_gives (limit : Limit) (n : ℤ) :
    Form.Gives (serialDocument limit n) "serial" (serialDefinition limit n) ∧
      Field.IsNumber (serialDefinition limit n) ∧
      Field.GivesRule (serialDefinition limit n) limit.key
        (.map [(.text "value", .int n)]) := by
  refine ⟨⟨_, _, rfl, rfl, @FieldsGive.byKey _ _ [] [] _ rfl (by simp)⟩,
    ⟨_, _, rfl, rfl, rfl⟩, _, _, rfl, rfl, ?_⟩
  cases limit <;> rfl

/-- A number below the least one is refused, written with a sign and a zero, and so is a number
above the greatest one. -/
theorem Form.judgeField_of_serial :
    (∃ form, Form.read (serialDocument .least 18) = .accepted form ∧
      form.checklist.judgeField ⟨2023, 4, 30⟩ "serial" (serialValues (.text " +017")) =
        pure ⟨.text " +017", some "Must be at least 18"⟩) ∧
    ∃ form, Form.read (serialDocument .greatest 120) = .accepted form ∧
      form.checklist.judgeField ⟨2023, 4, 30⟩ "serial" (serialValues (.int 121)) =
        pure ⟨.int 121, some "Must be at most 120"⟩ := by
  have hmessage : ∀ (n b : ℤ) (limit : Limit) (rule : Rule Double),
      readMessage [(.text "value", .int n)] = .accepted rule.message →
      rule.messageOr (limit.message b) = limit.message b := by
    intro n b limit rule hread
    have hnone : rule.message = none := (Checked.accepted.inj hread).symm
    rw [Rule.messageOr, hnone]
  constructor
  · obtain ⟨form, hform⟩ : ∃ form, Form.read (serialDocument .least 18) = .accepted form :=
      ⟨_, rfl⟩
    obtain ⟨hgives, hnumber, hrule⟩ := serialDocument_gives .least 18
    obtain ⟨field, rule, b, -, hread, -, -, hexact, hjudge⟩ :=
      Form.judgeField_of_bound hform hgives hnumber hrule rfl (fun h => by cases h)
    obtain rfl : b = 18 := hexact (by decide)
    have hv : EntersAs 17 (.text " +017") :=
      @EntersAs.text 17 [0x20] [] ['+', '0', '1', '7'] ⟨.plus, 1, rfl, by decide⟩ (by decide)
        (by decide) (by decide)
    have hbelow : Limit.least.Excludes 18 17 := by decide
    refine ⟨form, hform, (hjudge _ (serialValues (.text " +017")) 17 hv).trans ?_⟩
    rw [if_pos hbelow, hmessage 18 18 .least rule hread]
    rfl
  · obtain ⟨form, hform⟩ : ∃ form, Form.read (serialDocument .greatest 120) = .accepted form :=
      ⟨_, rfl⟩
    obtain ⟨hgives, hnumber, hrule⟩ := serialDocument_gives .greatest 120
    have hfirst : ∀ rule, Field.GivesRule (serialDefinition .greatest 120) Limit.least.key rule →
        rule = .null := by
      rintro rule ⟨es, rules, hes, hrules, hlookup⟩
      obtain rfl := Option.some.inj hes
      obtain rfl := Value.map.inj (Option.some.inj hrules)
      cases hlookup
    obtain ⟨field, rule, b, -, hread, -, -, hexact, hjudge⟩ :=
      Form.judgeField_of_bound hform hgives hnumber hrule rfl fun _ => hfirst
    obtain rfl : b = 120 := hexact (by decide)
    have habove : Limit.greatest.Excludes 120 121 := by decide
    refine ⟨form, hform, (hjudge _ (serialValues (.int 121)) 121 .number).trans ?_⟩
    rw [if_pos habove, hmessage 120 120 .greatest rule hread]
    rfl

/-- Where binary64 does not hold a bound, a number below the least one is let through, and the
greatest one itself is refused. -/
theorem Form.judgeField_beyond_written :
    (∃ form, Form.read (serialDocument .least 9007199254740993) = .accepted form ∧
      (9007199254740992 : ℤ) < 9007199254740993 ∧
      form.checklist.judgeField ⟨2023, 4, 30⟩ "serial" (serialValues (.int 9007199254740992)) =
        pure ⟨.int 9007199254740992, none⟩) ∧
    ∃ form, Form.read (serialDocument .greatest 9007199254740993) = .accepted form ∧
      form.checklist.judgeField ⟨2023, 4, 30⟩ "serial" (serialValues (.int 9007199254740993)) =
        pure ⟨.int 9007199254740993, some "Must be at most 9007199254740992"⟩ :=
  ⟨⟨_, rfl, by decide, rfl⟩, ⟨_, rfl, rfl⟩⟩

end FormEngine
