import Mathlib.Tactic.Lemma
import FormEngine.Checklist
import FormEngine.Proofs.Value.Points

/-!
# Checks and the rules they come from

The check of a field is made once and then run on many values.  This file says what its rules mean
without making anything: they are a list of `Demand`s on a value, in a fixed order that depends on
the widget of the field, and the first one that is violated gives the message.  `Field.interpret`
judges a value in that way, and `Field.judge_eq_interpret` says that what has been made from the
rules judges every value alike.

Bounds are compared by exact value: `Double.isAbove` and `Double.isBelow` speak of rationals, and so
does `enteredValue?` of the number that a value stands for.
-/

namespace FormEngine

/-- The first member of a list that is taken, all before it being passed over, is its head or comes
behind the head. -/
lemma exists_first_cons_iff {α : Type} {passed taken : α → Prop} {a : α} {as : List α} :
    (∃ before b since, a :: as = before ++ b :: since ∧ (∀ c ∈ before, passed c) ∧ taken b) ↔
      taken a ∨ passed a ∧
        ∃ before b since, as = before ++ b :: since ∧ (∀ c ∈ before, passed c) ∧ taken b := by
  constructor
  · rintro ⟨_ | ⟨c, before⟩, b, since, hsplit, hpassed, htaken⟩
    · obtain ⟨rfl, rfl⟩ := List.cons.inj hsplit
      exact .inl htaken
    · obtain ⟨rfl, rfl⟩ := List.cons.inj hsplit
      obtain ⟨hfirst, hpassed⟩ := List.forall_mem_cons.1 hpassed
      exact .inr ⟨hfirst, before, b, since, rfl, hpassed, htaken⟩
  · rintro (htaken | ⟨hfirst, before, b, since, rfl, hpassed, htaken⟩)
    · exact ⟨[], a, as, rfl, by simp, htaken⟩
    · exact ⟨a :: before, b, since, rfl, List.forall_mem_cons.2 ⟨hfirst, hpassed⟩, htaken⟩

/-! ## Demands -/

/-- Something that is demanded of a value: whether the value violates it, if that can be told, and
the message of the violation. -/
structure Demand where
  violated : Except Fault Bool
  message : Text

namespace Demand

/-- A demand of which it can always be told whether it is violated. -/
def plain (violated : Prop) [Decidable violated] (message : Text) : Demand :=
  ⟨.ok violated, message⟩

/-- The demand of a rule, if there is one, given the message of a rule that gives none. -/
def ofRule {α : Type} (r : Option (Rule α)) (violates : α → Prop) [DecidablePred violates]
    (own : α → String) : List Demand :=
  r.toList.map fun r => plain (violates r.demand) (r.messageOr (own r.demand))

/-- Refuses what violates a demand. -/
def enforce (d : Demand) : Except Refusal Unit :=
  match d.violated with
  | .error fault => .error (.fault fault)
  | .ok violated => refuseIf violated d.message

/-- The message of the first demand that is violated. -/
def firstViolation : List Demand → Except Fault (Option Text)
  | [] => .ok none
  | d :: ds => do
    if ← d.violated then return some d.message
    firstViolation ds

/-- Nothing is violated if every single demand is met. -/
lemma firstViolation_eq_none_iff {ds : List Demand} :
    firstViolation ds = .ok none ↔ ∀ d ∈ ds, d.violated = .ok false := by
  induction ds with
  | nil => simp [firstViolation]
  | cons d ds ih =>
      rw [List.forall_mem_cons, ← ih, firstViolation]
      rcases d.violated with fault | _ | _ <;> simp [bind, Except.bind, pure, Except.pure]

/-- The message is that of a violated demand before which all are met. -/
lemma firstViolation_eq_some_iff {ds : List Demand} {message : Text} :
    firstViolation ds = .ok (some message) ↔
      ∃ before d since, ds = before ++ d :: since ∧ (∀ d' ∈ before, d'.violated = .ok false) ∧
        d.violated = .ok true ∧ d.message = message := by
  induction ds with
  | nil => simp [firstViolation]
  | cons d ds ih =>
      rw [exists_first_cons_iff, ← ih, firstViolation]
      rcases d.violated with fault | _ | _ <;> simp [bind, Except.bind, pure, Except.pure]

/-- What the demands leave of a converted value. -/
def letThrough (ds : List Demand) (converted : Value) : Except Refusal Value :=
  match firstViolation ds with
  | .error fault => .error (.fault fault)
  | .ok (some message) => .error (.violation message)
  | .ok none => .ok converted

@[simp] lemma letThrough_nil (v : Value) : letThrough [] v = .ok v := rfl

/-- What comes through is the converted value, if all demands are met. -/
lemma letThrough_eq_ok_iff {ds : List Demand} {v v' : Value} :
    letThrough ds v = .ok v' ↔ v = v' ∧ ∀ d ∈ ds, d.violated = .ok false := by
  rw [letThrough, ← firstViolation_eq_none_iff]
  rcases firstViolation ds with fault | _ | message <;> simp

/-- Demands are enforced one after the other. -/
lemma letThrough_cons (d : Demand) (ds : List Demand) (v : Value) :
    letThrough (d :: ds) v = d.enforce >>= fun _ => letThrough ds v := by
  rw [letThrough, firstViolation, enforce]
  rcases d.violated with fault | _ | _ <;> rfl

@[simp] lemma letThrough_plain_cons (violated : Prop) [Decidable violated] (message : Text)
    (ds : List Demand) (v : Value) :
    letThrough (plain violated message :: ds) v =
      refuseIf violated message >>= fun _ => letThrough ds v :=
  letThrough_cons ..

@[simp] lemma letThrough_ofRule_append {α : Type} (r : Option (Rule α)) (violates : α → Prop)
    [DecidablePred violates] (own : α → String) (ds : List Demand) (v : Value) :
    letThrough (ofRule r violates own ++ ds) v =
      Rule.enforce r (fun a => violates a) own >>= fun _ => letThrough ds v := by
  cases r with
  | none => rfl
  | some r => exact letThrough_plain_cons ..

lemma letThrough_ofRule {α : Type} (r : Option (Rule α)) (violates : α → Prop)
    [DecidablePred violates] (own : α → String) (v : Value) :
    letThrough (ofRule r violates own) v =
      Rule.enforce r (fun a => violates a) own >>= fun _ => .ok v := by
  rw [← List.append_nil (ofRule r violates own), letThrough_ofRule_append, letThrough_nil]

end Demand

/-! ## Exact comparison -/

/-- Whether a bound is above an exact number.  What is not a number is above none. -/
def Double.isAbove (b : Double) (q : Rat) : Bool :=
  match b.toRat? with
  | some limit => q < limit
  | none => b = .infinite false

/-- Whether a bound is below an exact number.  What is not a number is below none. -/
def Double.isBelow (b : Double) (q : Rat) : Bool :=
  match b.toRat? with
  | some limit => limit < q
  | none => b = .infinite true

/-- The exact value of a number, if it is finite. -/
def Number.exact? : Number → Option Rat
  | .int i => some i
  | .float x => x.toRat?

lemma Number.extent?_of_exact? {x : Number} {q : Rat} (h : x.exact? = some q) :
    x.extent? = some (.at q) := by
  cases x with
  | int i => exact congrArg (some ∘ Extent.at) (Option.some.inj h)
  | float x =>
      cases x with
      | finite negative m e => exact congrArg (some ∘ Extent.at) (Option.some.inj h)
      | infinite negative => cases h
      | nan => cases h

lemma Number.lt_float_eq {x : Number} {q : Rat} (h : x.exact? = some q) (b : Double) :
    x.lt (.float b) = b.isAbove q := by
  rw [Number.lt, extent?_of_exact? h]
  cases b with
  | finite negative m e => rfl
  | infinite negative => cases negative <;> rfl
  | nan => rfl

lemma Number.float_lt_eq {x : Number} {q : Rat} (h : x.exact? = some q) (b : Double) :
    Number.lt (.float b) x = b.isBelow q := by
  rw [Number.lt, extent?_of_exact? h]
  cases b with
  | finite negative m e => rfl
  | infinite negative => cases negative <;> rfl
  | nan => rfl

/-- What can come of a value that is entered for a number: it is refused with one message, nothing
can be told, or it stands for a number that is finite. -/
def Enters (x : Except Refusal Number) : Prop :=
  x = .error (.violation "Expected a number") ∨ (∃ fault, x = .error (.fault fault)) ∨
    ∃ n q, x = .ok n ∧ n.exact? = some q

lemma finiteNumber_enters (x : Number) : Enters (finiteNumber x) := by
  cases x with
  | int i => exact .inr (.inr ⟨_, i, rfl, rfl⟩)
  | float x =>
      cases x with
      | finite negative m e => exact .inr (.inr ⟨_, _, rfl, rfl⟩)
      | infinite negative => exact .inl rfl
      | nan => exact .inl rfl

lemma numberOfText_enters (cs : List Char) : Enters ((numberOfText cs).bind finiteNumber) := by
  unfold numberOfText
  split
  next i _ =>
    by_cases h : digitLimit < (takeSign cs).2.length
    · rw [if_pos h]
      exact .inr (.inl ⟨_, rfl⟩)
    · rw [if_neg h]
      exact finiteNumber_enters (.int i)
  next =>
    split
    · exact finiteNumber_enters _
    · exact .inl rfl

lemma enteredNumber_enters (v : Value) : Enters (enteredNumber v) := by
  cases v with
  | int i => exact finiteNumber_enters (.int i)
  | float x => exact finiteNumber_enters (.float x)
  | text t =>
      cases t with
      | plain s => exact numberOfText_enters _
      | raw points marred => exact .inl rfl
  | _ => exact .inl rfl

/-- The exact value of the number that a value stands for. -/
def enteredValue? (v : Value) : Option Rat := (enteredNumber v).toOption.bind Number.exact?

/-! ## What the rules demand -/

namespace Rules

variable (rules : Rules)

/-- What is demanded of a value that is missing: that it is not, if it is required. -/
def ofMissing : List Demand := [.plain rules.required.isDemanded rules.required.reminder]

/-- What is demanded of a text by its rules. -/
def ofText (v : Value) : List Demand :=
  let points := v.points?.getD []
  .plain (v.points? = none) "Expected text" ::
  (Demand.ofRule rules.minLength (points.length < ·)
      (fun n => "Must be at least " ++ toString n ++ " characters") ++
    (Demand.ofRule rules.maxLength (· < points.length)
        (fun n => "Must be at most " ++ toString n ++ " characters") ++
      Demand.ofRule rules.pattern (fun p => ¬ p.occursIn points) fun _ => "Invalid format"))

/-- Whether a value stands for no number, if that can be told. -/
def lacksNumber (v : Value) : Except Fault Bool :=
  match enteredNumber v with
  | .ok _ => .ok false
  | .error (.violation _) => .ok true
  | .error (.fault fault) => .error fault

/-- What is demanded of a number: that it is one, and that it lies between the bounds. -/
def ofNumber (v : Value) : List Demand :=
  ⟨lacksNumber v, "Expected a number"⟩ ::
  (Demand.ofRule rules.min (fun b => (enteredValue? v).any b.isAbove)
      (fun b => "Must be at least " ++ boundText b) ++
    Demand.ofRule rules.max (fun b => (enteredValue? v).any b.isBelow)
      (fun b => "Must be at most " ++ boundText b))

/-- What is demanded of a box: that it is one, and that it is ticked if it is required. -/
def ofBox : Value → List Demand
  | .null => rules.ofMissing
  | .bool ticked => [.plain (rules.required.isDemanded ∧ ticked = false) rules.required.reminder]
  | _ => [.plain True "Expected true or false"]

/-- What is demanded of a selection: that it is a collection of texts, and that it holds one if it
is required. -/
def ofSelection : Value → List Demand
  | .null => rules.ofMissing
  | v => [.plain (¬ v.items?.any fun items => items.all (·.points?.isSome))
        "Expected a list of strings",
      .plain (rules.required.isDemanded ∧ v.items?.any List.isEmpty) rules.required.reminder]

end Rules

namespace Field

variable (today : Date) (f : Field)

/-- The rules of a field; one that declares none has rules that demand nothing. -/
def ownRules : Rules := f.rules.getD {}

/-- Whether the type of input is a name, in any case. -/
def isInputOf (name : String) : Prop :=
  f.inputType.any fun
    | .plain s => s.toLower = name
    | .raw .. => false
deriving Decidable

/-- Whether a value denotes no date, if that can be told. -/
def lacksDate : Value → Except Fault Bool
  | .text s =>
    match Calendar.Phrase.dateOf today s with
    | .ok _ => .ok false
    | .error .noDate => .ok true
    | .error .fractionLost => .error .fractionLost
  | _ => .ok true

/-- What is demanded of a text by the type of input and by the widget. -/
def ofKind (v : Value) : List Demand :=
  [.plain (f.isInputOf "email" ∧ ¬ isTextWith isEmailAddress v) "Invalid email",
    .plain (f.isInputOf "url" ∧ ¬ isTextWith isWebAddress v) "Invalid URL",
    ⟨if f.widget = .date then lacksDate today v else .ok false, "Invalid date"⟩]

/-- All that is demanded of a value, in order. -/
def demands (v : Value) : List Demand :=
  match f.widget with
  | .number => if isVacant v then f.ownRules.ofMissing else f.ownRules.ofNumber v
  | .checkbox | .switch => f.ownRules.ofBox v
  | .multiselect => f.ownRules.ofSelection v
  | .text | .textarea | .select | .radio | .date | .file =>
    if isNothing v then f.ownRules.ofMissing else f.ownRules.ofText v ++ f.ofKind today v

/-- What becomes of a value that meets the demands. -/
def converted (v : Value) : Value :=
  match f.widget with
  | .number => if isVacant v then .null else
      ((enteredNumber v).toOption.map Number.value).getD .null
  | .multiselect =>
    match v with
    | .null => .null
    | v => .list (v.items?.getD [])
  | _ => v

/-- What the answer of a predicate says against a value: nothing if it is true, and else the answer
itself if it is a text that is not empty. -/
def objectionOf : Value → Option Text
  | .bool true => none
  | answer => if answer.points?.any (· ≠ []) then some answer.plain else some "Invalid value"

/-- What the rules say about a value in the light of all values: the first demand that is violated
decides, and if there is none, the predicate does. -/
def interpret (v : Value) (values : Mapping Value) : Traced Judgement :=
  match Demand.firstViolation (f.demands today v) with
  | .error fault => Traced.fault fault
  | .ok (some message) => pure ⟨v, some message⟩
  | .ok none =>
    match f.rules.bind (·.predicate) with
    | none => pure ⟨f.converted v, none⟩
    | some p => do
      Traced.event (.asked (f.id.getD "") (f.converted v) values)
      match p.answer (f.converted v) values with
      | .error message => Traced.fault (.raised message)
      | .ok answer =>
        match objectionOf answer with
        | none => return ⟨f.converted v, none⟩
        | some message => return ⟨v, some message⟩

/-! ## Checks as demands -/

lemma letThrough_ofMissing (rules : Rules) (v : Value) :
    Demand.letThrough rules.ofMissing v = rules.required.enforce >>= fun _ => .ok v := by
  rw [Rules.ofMissing, Demand.letThrough_plain_cons, Bool.decide_eq_true, Requirement.enforce]
  rfl

lemma number_run (rules : Rules) (v : Value) :
    NumericCheck.run ⟨rules.required, rules.min, rules.max⟩ v =
      if isVacant v then Demand.letThrough rules.ofMissing .null
      else Demand.letThrough (rules.ofNumber v)
        (((enteredNumber v).toOption.map Number.value).getD .null) := by
  unfold NumericCheck.run
  split
  · rw [letThrough_ofMissing]
    rfl
  · rcases enteredNumber_enters v with h | ⟨fault, h⟩ | ⟨x, q, h, hx⟩
    · simp only [Rules.ofNumber, Demand.letThrough_cons, Demand.enforce, Rules.lacksNumber, h]
      rfl
    · simp only [Rules.ofNumber, Demand.letThrough_cons, Demand.enforce, Rules.lacksNumber, h]
      rfl
    · have hvalue : enteredValue? v = some q := by
        rw [enteredValue?, h]
        exact hx
      have hmin : ∀ b : Double, x.lt (.float b) = (enteredValue? v).any b.isAbove := fun b => by
        rw [hvalue]
        exact Number.lt_float_eq hx b
      have hmax : ∀ b : Double, Number.lt (.float b) x = (enteredValue? v).any b.isBelow :=
        fun b => by
          rw [hvalue]
          exact Number.float_lt_eq hx b
      simp only [Rules.ofNumber, Demand.letThrough_cons, Demand.enforce, Rules.lacksNumber, h,
        Demand.letThrough_ofRule_append, Demand.letThrough_ofRule, Bool.decide_eq_true]
      rw [← funext hmin, ← funext hmax]
      rfl

lemma box_run (rules : Rules) (v : Value) :
    BoxCheck.run ⟨rules.required⟩ v = Demand.letThrough (rules.ofBox v) v := by
  cases v with
  | null => exact (letThrough_ofMissing rules .null).symm
  | bool ticked =>
      rw [Rules.ofBox, Demand.letThrough_plain_cons, Demand.letThrough_nil]
      cases ticked with
      | true => simp [BoxCheck.run, refuseIf]; rfl
      | false => simp [BoxCheck.run, Requirement.enforce]; rfl
  | _ => rfl

/-- The check looks for an item that is no text, and the demand is that all items are. -/
lemma items_run (rules : Rules) (items : List Value) :
    (do
      refuseIf (items.any fun item => item.points?.isNone) "Expected a list of strings"
      if items.isEmpty then rules.required.enforce
      return .list items : Except Refusal Value) =
      Demand.letThrough
        [.plain (¬ (some items).any fun items => items.all (·.points?.isSome))
          "Expected a list of strings",
        .plain (rules.required.isDemanded ∧ (some items).any List.isEmpty) rules.required.reminder]
        (.list items) := by
  have htexts : (items.any fun item => item.points?.isNone) =
      decide (¬ (some items).any (fun items => items.all (·.points?.isSome)) = true) := by
    rw [Option.any_some, Bool.eq_iff_iff]
    simp
  have hempty : ∀ answer : Except Refusal Value,
      (if items.isEmpty then rules.required.enforce >>= fun _ => answer else answer) =
        refuseIf (decide (rules.required.isDemanded ∧ (some items).any List.isEmpty))
          rules.required.reminder >>= fun _ => answer := by
    intro answer
    cases items with
    | nil => simp [Requirement.enforce]
    | cons item items =>
        simp [refuseIf]
        rfl
  rw [Demand.letThrough_plain_cons, Demand.letThrough_plain_cons, Demand.letThrough_nil,
    ← htexts, ← hempty]
  rfl

lemma selection_run (rules : Rules) (v : Value) :
    SelectionCheck.run ⟨rules.required⟩ v = Demand.letThrough (rules.ofSelection v)
      (match v with
        | .null => .null
        | v => .list (v.items?.getD [])) := by
  cases v with
  | null => exact (letThrough_ofMissing rules .null).symm
  | list items => exact items_run rules items
  | tuple items => exact items_run rules items
  | set items => exact items_run rules items
  | _ => rfl

/-- The names of the types of input are compared without their cases. -/
lemma hasInputType_eq {name : String} (h : name ≠ "") :
    f.hasInputType name = decide (f.isInputOf name) := by
  rw [Bool.eq_iff_iff, decide_eq_true_eq, hasInputType, isInputOf]
  rcases f.inputType with _ | text | _
  · simpa using h.symm
  · have hlower : String.ofList (text.toList.map Char.toLower) = text.toLower := by
      show _ = text.map Char.toLower
      rw [String.ext_iff, String.toList_ofList, String.toList_map]
    simp [hlower]
  · simp

lemma refuseUnlessDate_eq (v : Value) :
    refuseUnlessDate today v = Demand.enforce ⟨lacksDate today v, "Invalid date"⟩ := by
  cases v with
  | text s =>
      simp only [refuseUnlessDate, Demand.enforce, lacksDate]
      rcases Calendar.Phrase.dateOf today s with (_ | _) | _ <;> rfl
  | _ => rfl

lemma text_run (v : Value) :
    (f.textCheck f.ownRules).run today v =
      if isNothing v then Demand.letThrough f.ownRules.ofMissing v
      else Demand.letThrough (f.ownRules.ofText v ++ f.ofKind today v) v := by
  unfold TextCheck.run
  split
  · rw [letThrough_ofMissing]
    rfl
  · rw [Rules.ofText, ofKind]
    cases v.points? with
    | none => rfl
    | some points =>
        simp only [List.cons_append, List.append_assoc, Demand.letThrough_plain_cons,
          Demand.letThrough_ofRule_append]
        simp only [Option.getD_some, Bool.decide_and, decide_not, Bool.decide_eq_true]
        have hemail : (f.textCheck f.ownRules).email = decide (f.isInputOf "email") :=
          f.hasInputType_eq (by decide)
        have hurl : (f.textCheck f.ownRules).url = decide (f.isInputOf "url") :=
          f.hasInputType_eq (by decide)
        have hdate : (if (f.textCheck f.ownRules).date = true then do
              refuseUnlessDate today v
              pure v
            else pure v) = Demand.letThrough
              [⟨if f.widget = .date then lacksDate today v else .ok false, "Invalid date"⟩] v := by
          rw [Demand.letThrough_cons, Demand.letThrough_nil]
          have hkind : (f.textCheck f.ownRules).date = true ↔ f.widget = .date := decide_eq_true_iff
          by_cases h : f.widget = .date
          · rw [if_pos h, if_pos (hkind.2 h), refuseUnlessDate_eq]
            rfl
          · rw [if_neg h, if_neg (mt hkind.1 h)]
            rfl
        rw [hemail, hurl, hdate]
        rfl

/-- Running the check of a field is enforcing the demands of its rules. -/
lemma check_run (v : Value) :
    f.check.run today v = Demand.letThrough (f.demands today v) (f.converted v) := by
  unfold check demands converted
  cases f.widget with
  | number =>
      refine (number_run f.ownRules v).trans ?_
      split <;> rfl
  | checkbox | switch => exact box_run f.ownRules v
  | multiselect => exact selection_run f.ownRules v
  | _ =>
      refine (f.text_run today v).trans ?_
      split <;> rfl

end Field

/-! ## Judging -/

/-- The verdict on an answer is the objection that it makes. -/
lemma Predicate.verdictOf_eq (answer : Value) :
    Predicate.verdictOf answer =
      match Field.objectionOf answer with
      | none => .accepted
      | some message => .rejected message := by
  cases answer with
  | bool b => cases b <;> rfl
  | text s =>
      by_cases h : s = ""
      · subst h
        rfl
      · have hpoints : (Value.text s).points?.any (· ≠ []) = true := by
          simpa [Value.points?, Text.points_eq_nil_iff] using h
        simp only [Predicate.verdictOf, Predicate.rejection, Field.objectionOf, hpoints, if_neg h,
          if_true]
        rfl
  | _ => rfl

namespace Field

variable (today : Date) (f : Field) (v : Value) (values : Mapping Value)

lemma predicate_judge (p : Predicate) :
    p.judge (f.id.getD "") v (f.converted v) values = do
      Traced.event (.asked (f.id.getD "") (f.converted v) values)
      match p.answer (f.converted v) values with
      | .error message => Traced.fault (.raised message)
      | .ok answer =>
        match objectionOf answer with
        | none => return ⟨f.converted v, none⟩
        | some message => return ⟨v, some message⟩ := by
  unfold Predicate.judge
  cases p.answer (f.converted v) values with
  | error message => rfl
  | ok answer =>
      simp only [Predicate.verdictOf_eq answer]
      cases objectionOf answer <;> rfl

/-- Judging a value with what has been made from the rules of a field is interpreting the rules: the
answer, the fault and what happens on the way are the same, for every field, every value and all
values beside it.  The first demand that is violated decides: unless there is a predicate, a value
is told with a message exactly if that is the message of a violated demand before which all demands
are met, and it is accepted exactly if all are met. -/
theorem judge_eq_interpret :
    f.gate.judge today v values = f.interpret today v values ∧
      (f.rules.bind (·.predicate) = none →
        (∀ message, (f.gate.judge today v values).result = .ok ⟨v, some message⟩ ↔
          ∃ before d since, f.demands today v = before ++ d :: since ∧
            (∀ d' ∈ before, d'.violated = .ok false) ∧ d.violated = .ok true ∧
            d.message = message) ∧
        ((f.gate.judge today v values).result = .ok ⟨f.converted v, none⟩ ↔
          ∀ d ∈ f.demands today v, d.violated = .ok false)) := by
  have hjudge : f.gate.judge today v values = f.interpret today v values := by
    unfold Gate.judge interpret
    rw [show f.gate.check.run today v = _ from f.check_run today v, Demand.letThrough]
    cases Demand.firstViolation (f.demands today v) with
    | error fault => rfl
    | ok first =>
        cases first with
        | some message => rfl
        | none =>
            show (match f.rules.bind (·.predicate) with
              | none => _
              | some p => _) = _
            cases f.rules.bind (·.predicate) with
            | none => rfl
            | some p => exact f.predicate_judge v values p
  have hresult : f.rules.bind (·.predicate) = none →
      (f.gate.judge today v values).result =
        (Demand.firstViolation (f.demands today v)).map fun
          | none => ⟨f.converted v, none⟩
          | some message => ⟨v, some message⟩ := by
    intro hnone
    rw [hjudge, interpret, hnone]
    rcases Demand.firstViolation (f.demands today v) with fault | _ | message <;> rfl
  refine ⟨hjudge, fun hnone => ⟨fun message => ?_, ?_⟩⟩
  · rw [hresult hnone, ← Demand.firstViolation_eq_some_iff]
    rcases Demand.firstViolation (f.demands today v) with fault | _ | message <;> simp [Except.map]
  · rw [hresult hnone, ← Demand.firstViolation_eq_none_iff]
    rcases Demand.firstViolation (f.demands today v) with fault | _ | message <;> simp [Except.map]

end Field

end FormEngine
