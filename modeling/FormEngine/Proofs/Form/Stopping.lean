import FormEngine.Proofs.Form.Conclusion
import FormEngine.Service.Basic

/-!
# Documents whose reading is given up

A document either declares a form, or problems are told about it, or it is no mapping.  Three kinds
of documents fall outside: the reading of a form is given up at once when a field in a list calls
itself by a value that can be no key, when a rule holds a pattern with a count beyond all bounds,
and when what is wrong would be told in a sentence that holds an unpaired surrogate and cannot be
encoded.  `Form.Stops` says which documents these are, by what stands in them.

`Form.ofDocument_outcome` is the account of all documents: there are exactly these four ends, and
it says of each document which of them it is, apart from the choice between a form and problems.
The two requests that carry a form crash for the same documents.
-/

namespace FormEngine

open Checked

/-! ## Objections that cannot be told -/

/-- The sentence of an objection cannot be encoded, which ends the reading with a fault. -/
def Objection.EndsReading (o : Objection) (fault : ReadFault) : Prop :=
  o.sentence.isPlain = false ∧ fault = .unencodable o.sentence

lemma fault?_objected {α : Type} {o : Objection} {fault : ReadFault} :
    (objected o : Checked α).fault? = some fault ↔ o.EndsReading fault := by
  unfold objected Objection.EndsReading
  cases o.sentence.isPlain <;> simp [fault?, problem, eq_comm]

/-! ## Patterns that end the reading -/

/-- A value is the source of a pattern with a count beyond all bounds, or of a malformed one whose
fault cannot be told. -/
def Pattern.EndsReading (source : Value) (fault : ReadFault) : Prop :=
  ∃ text, Scalar.readText source = .accepted text ∧
    (Pattern.read text = .error .countTooLarge ∧ fault = .countTooLarge ∨
      ∃ cause index, Pattern.read text = .error (.malformed cause index) ∧
        (Objection.invalidPattern text cause index).EndsReading fault)

/-- A rule with such a pattern. -/
def Rule.EndsReading (rule : Value) (fault : ReadFault) : Prop :=
  ∃ es source, rule = .map es ∧ Value.lookupText "value" es = some source ∧
    Pattern.EndsReading source fault

/-- Rules with such a pattern. -/
def Rules.EndReading (rules : Value) (fault : ReadFault) : Prop :=
  ∃ es rule, rules = .map es ∧ Value.lookupText "pattern" es = some rule ∧
    Rule.EndsReading rule fault

/-- The definition of a field with such a pattern. -/
def Field.EndsReading (definition : Value) (fault : ReadFault) : Prop :=
  ∃ es rules, membersOf? .field definition = some es ∧
    Value.lookupText "rules" es = some rules ∧ Rules.EndReading rules fault

section

variable {fault : ReadFault}

lemma fault?_readPatternSource {source : Value} :
    (readPatternSource source).fault? = some fault ↔ Pattern.EndsReading source fault := by
  have htold := @Scalar.concludes_readText (fun _ => False) source
  unfold readPatternSource Pattern.EndsReading
  cases htext : Scalar.readText source with
  | stopped other =>
      rw [htext] at htold
      exact htold.elim
  | rejected problems => simp [Checked.bind, fault?]
  | accepted text =>
      simp only [Checked.bind, Checked.accepted.injEq, exists_eq_left']
      cases hread : Pattern.read text with
      | ok p => simp [fault?]
      | error cause =>
          cases cause with
          | countTooLarge => simp [fault?, eq_comm]
          | conflictingOptions =>
              have hplain : ¬ Objection.conflictingPattern.EndsReading fault := fun h => by
                cases h.1
              simp [fault?_objected, hplain]
          | malformed cause index => simp [fault?_objected]

lemma fault?_readPattern {rule : Value} :
    (Rule.readPattern rule).fault? = some fault ↔ Rule.EndsReading rule fault := by
  unfold Rule.readPattern Rule.read readPart Rule.EndsReading
  split
  next es =>
    have hmessage : (readMessage es).fault? = none := (concludes_readMessage es).fault?_eq_none
    simp only [fault?_seq, fault?_map, Members.fault?_need, hmessage, Option.or_none,
      Option.bind_eq_some_iff, fault?_readPatternSource, Value.map.injEq]
    constructor
    · rintro ⟨source, hsource, hends⟩
      exact ⟨es, source, rfl, hsource, hends⟩
    · rintro ⟨_, source, rfl, hsource, hends⟩
      exact ⟨source, hsource, hends⟩
  next hmap =>
    refine iff_of_false (by simp [problem, fault?]) ?_
    rintro ⟨es, -, hrule, -⟩
    exact hmap es hrule

/-- Null is read as nothing, which is no fault either. -/
lemma fault?_orNull {α : Type} (read : Value → Checked α) (h : (read .null).fault? = none)
    (v : Value) : (Scalar.orNull read v).fault? = (read v).fault? := by
  unfold Scalar.orNull
  split
  · exact h.symm
  · exact fault?_map _ _

lemma fault?_readRules {rules : Value} {host : Predicate.Host} :
    (Rules.read rules host).fault? = some fault ↔ Rules.EndReading rules fault := by
  unfold Rules.read readPart Rules.EndReading
  split
  next es =>
    have hrequired : (Members.take es "required" "required" (.flag false)
        Requirement.read).fault? = none :=
      (Members.concludes_take Requirement.concludes_read).fault?_eq_none
    have hlength : ∀ spelling other,
        (Members.take es spelling other none (Scalar.orNull Rule.readLength)).fault? = none :=
      fun _ _ => (Members.concludes_take (Scalar.concludes_orNull
        (Rule.concludes_read Scalar.concludes_readCount))).fault?_eq_none
    have hbound : ∀ spelling other,
        (Members.take es spelling other none (Scalar.orNull Rule.readBound)).fault? = none :=
      fun _ _ => (Members.concludes_take (Scalar.concludes_orNull
        (Rule.concludes_read Scalar.concludes_readDouble))).fault?_eq_none
    have hpredicate : (Members.take es "validate" "validate_" none
        (Scalar.orNull (Predicate.read · host))).fault? = none :=
      (Members.concludes_take (Scalar.concludes_orNull
        (Predicate.concludes_read · host))).fault?_eq_none
    simp only [fault?_seq, fault?_map, hrequired, hlength, hbound, hpredicate, Option.none_or,
      Option.or_none, Members.fault?_take, fault?_orNull Rule.readPattern rfl,
      Option.bind_eq_some_iff, fault?_readPattern, Value.map.injEq]
    constructor
    · rintro ⟨rule, hrule, hends⟩
      exact ⟨es, rule, rfl, hrule, hends⟩
    · rintro ⟨_, rule, rfl, hrule, hends⟩
      exact ⟨rule, hrule, hends⟩
  next hmap =>
    refine iff_of_false (by simp [problem, fault?]) ?_
    rintro ⟨es, -, hrules, -⟩
    exact hmap es hrules

lemma fault?_readField {definition : Value} {host : Predicate.Host} :
    (Field.read definition host).fault? = some fault ↔ Field.EndsReading definition fault := by
  unfold Field.read Field.EndsReading
  split
  next hmembers => simp [problem, fault?, hmembers]
  next es hmembers =>
    have htext : ∀ spelling other,
        (Members.take es spelling other none (Scalar.orNull Scalar.readText)).fault? = none :=
      fun _ _ => (Members.concludes_take (Scalar.concludes_orNull
        Scalar.concludes_readText)).fault?_eq_none
    have hlabel : (Members.take es "label" "label" ("" : Text) Scalar.readText).fault? = none :=
      (Members.concludes_take Scalar.concludes_readText).fault?_eq_none
    have hwidget : (Members.need es "renderer" "renderer"
        (Scalar.readEnum Widget.ofName? (Widget.all.map Widget.name))).fault? = none :=
      (Members.concludes_need (Scalar.concludes_readEnum _ _)).fault?_eq_none
    have hdefault : (Members.take es "defaultValue" "default_value" none
        (fun v => .accepted (some v))).fault? = none :=
      (Members.concludes_take fun v => concludes_accepted (some v)).fault?_eq_none
    have hprops : (Members.take es "props" "props" .empty (readMapping .accepted)).fault? = none :=
      (Members.concludes_take (concludes_readMapping concludes_accepted)).fault?_eq_none
    have hvisible : (Members.take es "visibleWhen" "visible_when" none
        (Scalar.orNull VisibilityRule.read)).fault? = none :=
      (Members.concludes_take (Scalar.concludes_orNull
        VisibilityRule.concludes_read)).fault?_eq_none
    simp only [fault?_seq, fault?_map, htext, hlabel, hwidget, hdefault, hprops, hvisible,
      Option.none_or, Option.or_none, Members.fault?_take,
      fault?_orNull (Rules.read · host) rfl, Option.bind_eq_some_iff, fault?_readRules,
      hmembers, Option.some.injEq]
    constructor
    · rintro ⟨rules, hrules, hends⟩
      exact ⟨es, rules, rfl, hrules, hends⟩
    · rintro ⟨_, rules, rfl, hrules, hends⟩
      exact ⟨rules, hrules, hends⟩

/-- The first of some definitions whose reading ends at once does so with a fault. -/
def Field.FirstEndsReading (definitions : List Value) (fault : ReadFault) : Prop :=
  ∃ before definition after, definitions = before ++ definition :: after ∧
    Field.EndsReading definition fault ∧
    ∀ earlier ∈ before, ∀ other, ¬ Field.EndsReading earlier other

/-- Definitions under names end with the fault of the first of them that ends with one. -/
lemma fault?_readDefinitions {es : Members} {host : Predicate.Host} :
    (readMapping (Field.read · host) (.map es)).fault? = some fault ↔
      Field.FirstEndsReading (es.map (·.2)) fault := by
  have hnone : ∀ definition : Value, (Field.read definition host).fault? = none ↔
      ∀ other, ¬ Field.EndsReading definition other := by
    intro definition
    rw [Option.eq_none_iff_forall_ne_some]
    exact forall_congr' fun other => not_congr fault?_readField
  rw [readMapping, fault?_map, fault?_readEntries]
  have hvalues : (es.findSome? fun e => (Field.read e.2 host).fault?) =
      (es.map (·.2)).findSome? fun v => (Field.read v host).fault? := by
    rw [List.findSome?_map]
    rfl
  simp only [hvalues, List.findSome?_eq_some_iff, fault?_readField, hnone,
    Field.FirstEndsReading]

end

/-! ## Ids that can be no keys, or cannot be told -/

namespace Form

/-- Every item of a list gives an id that can be a key, and no id is given twice. -/
structure Identified (items : List Value) : Prop where
  something : ∀ item ∈ items, isSomething (listedId item) = true
  hashable : ∀ item ∈ items, (listedId item).unhashable? = none
  distinct : items.Pairwise fun earlier later =>
    Value.same (listedId later) (listedId earlier) = false

/-- An item under its id. -/
def underId (item : Value) : Value × Value := (listedId item, item)

lemma Identified.of_append {before after : List Value} (h : Identified (before ++ after)) :
    Identified before where
  something item hitem := h.something item (List.mem_append_left _ hitem)
  hashable item hitem := h.hashable item (List.mem_append_left _ hitem)
  distinct := (List.pairwise_append.1 h.distinct).1

lemma hasKey_underId {id : Value} {items : List Value} :
    Value.hasKey id (items.map underId) = false ↔
      ∀ item ∈ items, Value.same id (listedId item) = false := by
  simp [Value.hasKey, underId]

/-- One more item is identified exactly if its id can be a key and is new. -/
lemma identified_concat {items : List Value} {item : Value} (h : Identified items) :
    Identified (items ++ [item]) ↔ isSomething (listedId item) = true ∧
      (listedId item).unhashable? = none ∧
      Value.hasKey (listedId item) (items.map underId) = false := by
  rw [hasKey_underId]
  constructor
  · intro hall
    have hlast : item ∈ items ++ [item] := List.mem_append_right _ (List.mem_singleton_self _)
    have hnew := (List.pairwise_append.1 hall.distinct).2.2
    exact ⟨hall.something item hlast, hall.hashable item hlast,
      fun other hother => hnew other hother item (List.mem_singleton_self _)⟩
  · rintro ⟨hsomething, hhashable, hnew⟩
    refine ⟨?_, ?_, List.pairwise_append.2 ⟨h.distinct, List.pairwise_singleton _ _, ?_⟩⟩
    · simpa [or_imp, forall_and] using ⟨h.something, hsomething⟩
    · simpa [or_imp, forall_and] using ⟨h.hashable, hhashable⟩
    · intro other hother last hlast
      rw [List.mem_singleton.1 hlast]
      exact hnew other hother

/-- An item that is identified is put under its id. -/
lemma underIds_of_identified {items before : List Value} {item : Value} (h : Identified before)
    (hnext : Identified (before ++ [item])) :
    underIds (item :: items) (before.map underId) =
      underIds items ((before ++ [item]).map underId) := by
  obtain ⟨hsomething, hhashable, hnew⟩ := (identified_concat h).1 hnext
  simp [underIds, hsomething, hhashable, hnew, underId]

/-- The id of an item after others ends the reading with a fault: it is something but can be no key,
or it has been given before and cannot be told. -/
def IdEndsReading (before : List Value) (item : Value) (fault : ReadFault) : Prop :=
  isSomething (listedId item) = true ∧
    ((∃ kind, (listedId item).unhashable? = some kind ∧ fault = .unhashableId kind) ∨
      (listedId item).unhashable? = none ∧
        (∃ other ∈ before, Value.same (listedId item) (listedId other) = true) ∧
        (Objection.idRepeated (listedId item).plain).EndsReading fault)

/-- At the first item that is not identified the list is refused, and given up if its id ends the
reading. -/
lemma underIds_of_not_identified {items before : List Value} {item : Value}
    (h : Identified before) (hnext : ¬ Identified (before ++ [item])) :
    (∃ problems, problems ≠ [] ∧ underIds (item :: items) (before.map underId) = .rejected problems
      ∧ ∀ fault, ¬ IdEndsReading before item fault) ∨
    ∃ fault, underIds (item :: items) (before.map underId) = .stopped fault ∧
      ∀ other, IdEndsReading before item other ↔ other = fault := by
  unfold IdEndsReading
  cases hsomething : isSomething (listedId item) with
  | false =>
      refine .inl ⟨[⟨[], .objection .idMissing⟩], List.cons_ne_nil _ _, ?_, by simp⟩
      simp only [underIds, hsomething]
      rfl
  | true =>
      cases hhashable : (listedId item).unhashable? with
      | some kind => exact .inr ⟨.unhashableId kind, by simp [underIds, hsomething, hhashable]⟩
      | none =>
          have hagain : Value.hasKey (listedId item) (before.map underId) = true := by
            by_contra hnew
            exact hnext ((identified_concat h).2
              ⟨hsomething, hhashable, Bool.eq_false_iff.2 hnew⟩)
          have hgiven : ∃ other ∈ before,
              Value.same (listedId item) (listedId other) = true := by
            simpa [Value.hasKey, underId] using hagain
          have hunder : underIds (item :: items) (before.map underId) =
              objected (.idRepeated (listedId item).plain) := by
            simp [underIds, hsomething, hhashable, hagain]
          rw [hunder]
          cases hplain : (Objection.idRepeated (listedId item).plain).sentence.isPlain with
          | true =>
              refine .inl ⟨_, List.cons_ne_nil _ _, by rw [objected, hplain]; rfl, ?_⟩
              rintro fault ⟨-, ⟨kind, hkind, -⟩ | ⟨-, -, hraw, -⟩⟩
              · cases hkind
              · rw [hplain] at hraw
                cases hraw
          | false =>
              refine .inr ⟨_, by rw [objected, hplain]; rfl, fun other => ?_⟩
              simp [hgiven, Objection.EndsReading, hplain]

/-- A list goes on with items that are identified, up to an id that ends the reading. -/
def Breaks (before items : List Value) (fault : ReadFault) : Prop :=
  ∃ between item after, items = between ++ item :: after ∧
    Identified (before ++ between) ∧ IdEndsReading (before ++ between) item fault

/-- An id that ends the reading is not identified. -/
lemma IdEndsReading.not_identified {before : List Value} {item : Value} {fault : ReadFault}
    (h : IdEndsReading before item fault) (hbefore : Identified before) :
    ¬ Identified (before ++ [item]) := by
  intro hnext
  obtain ⟨-, hhashable, hnew⟩ := (identified_concat hbefore).1 hnext
  obtain ⟨-, ⟨kind, hkind, -⟩ | ⟨-, ⟨other, hother, hsame⟩, -⟩⟩ := h
  · rw [hhashable] at hkind
    cases hkind
  · rw [hasKey_underId.1 hnew other hother] at hsame
    cases hsame

lemma breaks_cons_of_identified {items before : List Value} {item : Value} {fault : ReadFault}
    (h : Identified before) (hnext : Identified (before ++ [item])) :
    Breaks before (item :: items) fault ↔ Breaks (before ++ [item]) items fault := by
  constructor
  · rintro ⟨between, last, after, hsplit, hbetween, hlast⟩
    cases between with
    | nil =>
        obtain ⟨rfl, rfl⟩ := List.cons.inj hsplit
        rw [List.append_nil] at hlast
        exact absurd hnext (hlast.not_identified h)
    | cons first between =>
        obtain ⟨rfl, rfl⟩ := List.cons.inj hsplit
        rw [List.append_cons] at hbetween hlast
        exact ⟨between, last, after, rfl, hbetween, hlast⟩
  · rintro ⟨between, last, after, rfl, hbetween, hlast⟩
    rw [← List.append_cons] at hbetween hlast
    exact ⟨item :: between, last, after, rfl, hbetween, hlast⟩

lemma breaks_cons_of_not_identified {items before : List Value} {item : Value} {fault : ReadFault}
    (h : Identified before) (hnext : ¬ Identified (before ++ [item])) :
    Breaks before (item :: items) fault ↔ IdEndsReading before item fault := by
  constructor
  · rintro ⟨between, last, after, hsplit, hbetween, hlast⟩
    cases between with
    | nil =>
        obtain ⟨rfl, rfl⟩ := List.cons.inj hsplit
        rwa [List.append_nil] at hlast
    | cons first between =>
        obtain ⟨rfl, rfl⟩ := List.cons.inj hsplit
        rw [List.append_cons] at hbetween
        exact absurd hbetween.of_append hnext
  · intro hitem
    exact ⟨[], item, items, rfl, by simpa using h, by simpa using hitem⟩

/-- How a list of fields ends: all of them are put under their ids, or it is given up at an id that
ends the reading, or a problem is told. -/
lemma underIds_ends (items : List Value) {before : List Value} (h : Identified before) :
    (∀ es, underIds items (before.map underId) = .accepted es ↔
      Identified (before ++ items) ∧ es = (before ++ items).map underId) ∧
    (∀ fault, underIds items (before.map underId) = .stopped fault ↔
      Breaks before items fault) ∧
    (underIds items (before.map underId)).Concludes fun _ => True := by
  induction items generalizing before with
  | nil => exact ⟨by simp [underIds, h, eq_comm], by simp [underIds, Breaks], trivial⟩
  | cons item items ih =>
      by_cases hnext : Identified (before ++ [item])
      · have hbreaks : ∀ fault, Breaks before (item :: items) fault ↔
            Breaks (before ++ [item]) items fault := fun _ => breaks_cons_of_identified h hnext
        rw [underIds_of_identified h hnext, List.append_cons before item items]
        simp only [hbreaks]
        exact ih hnext
      · have hnone : ¬ Identified (before ++ item :: items) := by
          intro hall
          rw [List.append_cons] at hall
          exact hnext hall.of_append
        have hbreaks : ∀ fault, Breaks before (item :: items) fault ↔
            IdEndsReading before item fault := fun _ => breaks_cons_of_not_identified h hnext
        simp only [hbreaks, hnone, false_and, iff_false]
        rcases underIds_of_not_identified h hnext with
          ⟨problems, hproblems, hrejected, hnever⟩ | ⟨fault, hstopped, honly⟩
        · rw [hrejected]
          exact ⟨by simp, by simp [hnever], hproblems⟩
        · rw [hstopped]
          exact ⟨by simp, by simp [honly, eq_comm], trivial⟩

/-! ## Forms that are given up -/

/-- The fields of a form are given up: a list of them at an id that ends the reading, and otherwise
fields by names or a list of identified ones at the first definition that does. -/
inductive FieldsStop : Value → ReadFault → Prop
  | atId {items : List Value} {fault : ReadFault} : Breaks [] items fault →
      FieldsStop (.list items) fault
  | inMapping {es : Members} {fault : ReadFault} : Field.FirstEndsReading (es.map (·.2)) fault →
      FieldsStop (.map es) fault
  | inList {items : List Value} {fault : ReadFault} : Identified items →
      Field.FirstEndsReading items fault → FieldsStop (.list items) fault

/-- All parts of the form in a mapping are read, and the first thing that they say against each
other cannot be told. -/
def Disagrees (es : Members) (fault : ReadFault) : Prop :=
  ∃ parts o, readParts (.map es) .ofDescription = .accepted parts ∧
    parts.disagreement? = some o ∧ o.EndsReading fault

/-- The form in a mapping is given up: its fields are, or its parts disagree in a way that cannot be
told. -/
def Stops (es : Members) (fault : ReadFault) : Prop :=
  (∃ v, Value.lookupText "fields" es = some v ∧ FieldsStop v fault) ∨ Disagrees es fault

lemma identified_nil : Identified [] := ⟨by simp, by simp, .nil⟩

section

variable {v : Value} {es : Members} {host : Predicate.Host} {fault : ReadFault}

/-- Whether there are any fields is asked last and ends with no fault. -/
lemma concludes_nonempty {allowed : ReadFault → Prop} (fields : Mapping Field) :
    (if fields.isEmpty then .problem .noEntries else .accepted fields : Checked _).Concludes
      allowed :=
  concludes_ite (concludes_problem _) (concludes_accepted _)

lemma told_readFields : (readFields v host).Concludes fun _ => True := by
  unfold readFields
  refine Concludes.bind (Concludes.bind ?_ ?_) concludes_nonempty
  · split
    · next items =>
      have htold := (underIds_ends items identified_nil).2.2
      exact htold.map Value.map
    · exact concludes_accepted _
  · exact concludes_readMapping (Field.concludes_read fun _ => trivial)

lemma fault?_readFields : (readFields v host).fault? = some fault ↔ FieldsStop v fault := by
  unfold readFields
  rw [fault?_bind concludes_nonempty]
  cases v with
  | map es =>
      show (readMapping (Field.read · host) (.map es)).fault? = some fault ↔ _
      rw [fault?_readDefinitions]
      constructor
      · exact .inMapping
      · intro h
        cases h with
        | inMapping hends => exact hends
  | list items =>
      obtain ⟨haccepted, hstopped, -⟩ := underIds_ends items identified_nil
      simp only [List.map_nil, List.nil_append] at haccepted hstopped
      show (((underIds items []).map Value.map).bind
        (readMapping (Field.read · host))).fault? = some fault ↔ _
      cases hunder : underIds items [] with
      | accepted entries =>
          obtain ⟨hidentified, rfl⟩ := (haccepted _).1 hunder
          have hnever : ¬ Breaks [] items fault := by
            rw [← hstopped, hunder]
            simp
          show (readMapping (Field.read · host) (.map (items.map underId))).fault? = _ ↔ _
          have hitems : (items.map underId).map (·.2) = items := by
            rw [List.map_map]
            exact List.map_id items
          rw [fault?_readDefinitions, hitems]
          constructor
          · exact .inList hidentified
          · intro h
            cases h with
            | atId hbreaks => exact absurd hbreaks hnever
            | inList _ hends => exact hends
      | rejected problems =>
          refine iff_of_false (by simp [Checked.map, Checked.bind, fault?]) fun h => ?_
          cases h with
          | atId hbreaks => simp [(hstopped _).2 hbreaks] at hunder
          | inList hidentified _ => simp [(haccepted _).2 ⟨hidentified, rfl⟩] at hunder
      | stopped other =>
          have hfault : other = fault ↔ Breaks [] items fault := by
            rw [← hstopped, hunder, Checked.stopped.injEq]
          show some other = some fault ↔ _
          rw [Option.some.injEq, hfault]
          constructor
          · exact .atId
          · intro h
            cases h with
            | atId hbreaks => exact hbreaks
            | inList hidentified _ => simp [(haccepted _).2 ⟨hidentified, rfl⟩] at hunder
  | _ =>
      refine iff_of_false (by simp [Checked.bind, readMapping, problem, fault?]) ?_
      rintro ⟨⟩

lemma concludes_agreed (form : Form) : form.agreed.Concludes fun _ => True := by
  unfold agreed
  split
  · exact concludes_objected fun _ => trivial
  · trivial

lemma fault?_agreed {form : Form} : form.agreed.fault? = some fault ↔
    ∃ o, form.disagreement? = some o ∧ o.EndsReading fault := by
  unfold agreed
  cases form.disagreement? with
  | none => simp [fault?]
  | some o => simp [fault?_objected]

lemma told_read : (Form.read (.map es) host).Concludes fun _ => True := by
  refine Concludes.bind ?_ concludes_agreed
  refine (Concludes.seq ?_ (Members.concludes_need fun _ => told_readFields)).seq
    (Members.concludes_take Layout.concludes_readAll)
  exact ((Members.concludes_need Scalar.concludes_readName).map _).seq
    (Members.concludes_take Intro.concludes_read)

/-- The reading of the parts of a form ends with the fault of its fields. -/
lemma fault?_readParts : (readParts (.map es) host).fault? = some fault ↔
    ∃ v, Value.lookupText "fields" es = some v ∧ FieldsStop v fault := by
  have hid : (Members.need es "id" "id" Scalar.readName).fault? = none :=
    (Members.concludes_need Scalar.concludes_readName).fault?_eq_none
  have hintro : (Members.take es "meta" "meta" {} Intro.read).fault? = none :=
    (Members.concludes_take Intro.concludes_read).fault?_eq_none
  have hlayout : (Members.take es "layout" "layout" [] Layout.readAll).fault? = none :=
    (Members.concludes_take Layout.concludes_readAll).fault?_eq_none
  rw [readParts, readPart]
  simp only [fault?_seq, fault?_map, hid, hintro, hlayout, Option.none_or, Option.or_none,
    Members.fault?_need, Option.bind_eq_some_iff, fault?_readFields]

/-- The reading of a form in a mapping is given up exactly if the form stops. -/
lemma read_eq_stopped : Form.read (.map es) = .stopped fault ↔ Stops es fault := by
  rw [← fault?_eq_some, Form.read, Stops, ← @fault?_readParts _ .ofDescription, Disagrees]
  cases readParts (.map es) .ofDescription with
  | accepted parts =>
      have hfields : (accepted parts).fault? = none := rfl
      simp [Checked.bind, fault?_agreed, hfields]
  | rejected problems => simp [Checked.bind, fault?]
  | stopped other => simp [Checked.bind, fault?]

end

/-! ## The ends of documents -/

/-- A mapping declares a form, or problems are told about it, or its reading is given up. -/
lemma ofDocument_map (es : Members) :
    (∃ form, ofDocument (.map es) = .ok form) ∨
    (∃ problems, problems ≠ [] ∧ ofDocument (.map es) = .error (.rejected problems)) ∨
    ∃ fault, ofDocument (.map es) = .error (.stopped fault) := by
  have htold := @told_read es .ofDescription
  unfold ofDocument
  cases hread : Form.read (.map es) with
  | accepted form => exact .inl ⟨form, rfl⟩
  | rejected problems =>
      rw [hread] at htold
      exact .inr (.inl ⟨problems, htold, rfl⟩)
  | stopped fault => exact .inr (.inr ⟨fault, rfl⟩)

lemma ofDocument_eq_notMapping {document : Value} :
    ofDocument document = .error .notMapping ↔ ∀ es, document ≠ .map es := by
  constructor
  · rintro h es rfl
    rcases ofDocument_map es with ⟨form, hform⟩ | ⟨problems, -, hrejected⟩ | ⟨fault, hstopped⟩
    · simp [h] at hform
    · simp [h] at hrejected
    · simp [h] at hstopped
  · intro h
    unfold ofDocument
    split
    next es => exact absurd rfl (h es)
    next => rfl

lemma ofDocument_eq_stopped {document : Value} {fault : ReadFault} :
    ofDocument document = .error (.stopped fault) ↔
      ∃ es, document = .map es ∧ Stops es fault := by
  unfold ofDocument
  split
  next es =>
    simp only [← read_eq_stopped, Value.map.injEq, exists_eq_left']
    cases Form.read (.map es) <;> simp
  next hmap => simpa using fun es h => absurd h (hmap es)

end Form

namespace Service

/-! ## Requests with a form -/

/-- A body is read as a request with the form in a mapping. -/
def Carries (read : Value → Checked FormRequest) (octets : List UInt8) (es : Members) : Prop :=
  ∃ body request, Json.decodeOctets octets = .ok body ∧ read body = .accepted request ∧
    request.document = .map es

lemma concludes_needDocument {allowed : ReadFault → Prop} (es : Members) :
    (needDocument es).Concludes allowed :=
  Members.concludes_need fun v => (concludes_readMapping concludes_accepted v).map Value.ofMapping

lemma concludes_readCheck {allowed : ReadFault → Prop} (v : Value) :
    (FormRequest.readCheck v).Concludes allowed :=
  concludes_readPart (fun es => (concludes_needDocument es).map _) v

lemma concludes_readMount {allowed : ReadFault → Prop} (v : Value) :
    (FormRequest.readMount v).Concludes allowed := by
  refine concludes_readPart (fun es => ?_) v
  exact ((concludes_needDocument es).map _).seq (Members.concludes_take
    (Scalar.concludes_orNull Scalar.concludes_readText))

lemma FormRefusal.ofLoad_eq_stopped {cause : DocumentFault} {fault : ReadFault} :
    FormRefusal.ofLoad cause = .stopped fault ↔ cause = .stopped fault := by
  cases cause with
  | json cause => cases cause <;> simp [FormRefusal.ofLoad, FormRefusal.ofJson]
  | _ => simp [FormRefusal.ofLoad]

/-- The reading of a body is given up exactly if it carries a form that stops. -/
lemma readForm_eq_stopped {read : Value → Checked FormRequest} {octets : List UInt8}
    {fault : ReadFault} (hread : ∀ v, (read v).Concludes fun _ => False) :
    readForm read octets = .error (.stopped fault) ↔
      ∃ es, Carries read octets es ∧ Form.Stops es fault := by
  unfold readForm Carries
  cases hdecode : Json.decodeOctets octets with
  | error cause => cases cause <;> simp [FormRefusal.ofJson]
  | ok body =>
      have hconcludes := hread body
      cases hrequest : read body with
      | rejected problems => simp [hrequest]
      | stopped other =>
          rw [hrequest] at hconcludes
          exact hconcludes.elim
      | accepted request =>
          have hform : readForm read octets = .error (.stopped fault) ↔
              Form.ofDocument request.document = .error (.stopped fault) := by
            simp only [readForm, hdecode, hrequest]
            cases Form.ofDocument request.document with
            | ok form => simp
            | error cause => simp [FormRefusal.ofLoad_eq_stopped]
          simp only [readForm, hdecode, hrequest] at hform
          simp only [hrequest, hform, Form.ofDocument_eq_stopped]
          constructor
          · rintro ⟨es, hdocument, hstops⟩
            exact ⟨es, ⟨body, request, rfl, hrequest, hdocument⟩, hstops⟩
          · rintro ⟨es, ⟨_, other, hbody, hother, hdocument⟩, hstops⟩
            obtain rfl := Except.ok.inj hbody
            obtain rfl := Checked.accepted.inj (hrequest.symm.trans hother)
            exact ⟨es, hdocument, hstops⟩

section

variable {τ : Type}

/-- A request to check a form is answered, or crashes on an integer that is too long or on what its
reading is given up for. -/
lemma check_ends (s : Service τ) (octets : List UInt8) :
    (∃ r, (s.check octets).1 = .ok r) ∨
    (∃ count, (s.check octets).1 = .error (.tooManyDigits count)) ∨
    ∃ fault, (s.check octets).1 = .error (.reading fault) := by
  unfold check
  split
  · exact .inl ⟨_, rfl⟩
  · exact .inl ⟨_, rfl⟩
  · exact .inl ⟨_, rfl⟩
  · exact .inr (.inl ⟨_, rfl⟩)
  · exact .inr (.inr ⟨_, rfl⟩)

/-- The form that a request to check one carries stops exactly if the request crashes in reading. -/
lemma check_eq_reading {s : Service τ} {octets : List UInt8} {fault : ReadFault} :
    (s.check octets).1 = .error (.reading fault) ↔
      ∃ es, Carries FormRequest.readCheck octets es ∧ Form.Stops es fault := by
  rw [← readForm_eq_stopped concludes_readCheck, check]
  cases readForm FormRequest.readCheck octets with
  | ok form => simp
  | error refusal => cases refusal <;> simp

lemma draftResponse_ne_reading {id : Text} {draft : Draft} {fault : ReadFault} :
    draftResponse id draft ≠ .error (.reading fault) := by
  unfold draftResponse
  split <;> simp

/-- The same of a request to mount one, if there is a store. -/
lemma mount_eq_reading [Clock τ] {today : Date} {now : τ} {newId : Nat → String} {s : Service τ}
    {octets : List UInt8} {fault : ReadFault} :
    (s.mount today now newId octets).1 = .error (.reading fault) ↔
      s.store ≠ none ∧ ∃ es, Carries FormRequest.readMount octets es ∧ Form.Stops es fault := by
  rw [← readForm_eq_stopped concludes_readMount, mount]
  cases s.store with
  | none => simp
  | some store =>
      cases readForm FormRequest.readMount octets with
      | error refusal => cases refusal <;> simp
      | ok request =>
          simp only [ne_eq, reduceCtorEq, not_false_eq_true, and_false, iff_false]
          split
          · simp
          · exact draftResponse_ne_reading

end

end Service

namespace Form

/-- The account of all documents.  A document declares a form, or problems are told about it, at
least one, or it is no mapping, or its reading is given up.  It is no mapping exactly if that is
told; its reading is given up exactly if it stops, because of an id that can be no key, a pattern
with a count beyond all bounds, or something that cannot be told for an unpaired surrogate.

A request to check a form is answered unless its body holds an integer that is too long, or carries
a form that stops; then it crashes.  A request to mount a form crashes in reading for the same
forms. -/
theorem ofDocument_outcome (document : Value) :
    ((∃ form, ofDocument document = .ok form) ∨
      (∃ problems, problems ≠ [] ∧ ofDocument document = .error (.rejected problems)) ∨
      ofDocument document = .error .notMapping ∨
      ∃ fault, ofDocument document = .error (.stopped fault)) ∧
    (ofDocument document = .error .notMapping ↔ ∀ es, document ≠ .map es) ∧
    (∀ fault, ofDocument document = .error (.stopped fault) ↔
      ∃ es, document = .map es ∧ Stops es fault) ∧
    ∀ {τ : Type} [Clock τ] (s : Service τ) (octets : List UInt8),
      ((∃ r, (s.check octets).1 = .ok r) ∨
        (∃ count, (s.check octets).1 = .error (.tooManyDigits count)) ∨
        ∃ fault, (s.check octets).1 = .error (.reading fault)) ∧
      ∀ fault, ((s.check octets).1 = .error (.reading fault) ↔
          ∃ es, Service.Carries Service.FormRequest.readCheck octets es ∧ Stops es fault) ∧
        ∀ (today : Date) (now : τ) (newId : Nat → String),
          (s.mount today now newId octets).1 = .error (.reading fault) ↔ s.store ≠ none ∧
            ∃ es, Service.Carries Service.FormRequest.readMount octets es ∧ Stops es fault := by
  refine ⟨?_, ofDocument_eq_notMapping, fun _ => ofDocument_eq_stopped, ?_⟩
  · by_cases hmap : ∃ es, document = .map es
    · obtain ⟨es, rfl⟩ := hmap
      rcases ofDocument_map es with hform | hrejected | hstopped
      · exact .inl hform
      · exact .inr (.inl hrejected)
      · exact .inr (.inr (.inr hstopped))
    · have hnone : ∀ es, document ≠ .map es := fun es h => hmap ⟨es, h⟩
      exact .inr (.inr (.inl (ofDocument_eq_notMapping.2 hnone)))
  · intro τ _ s octets
    refine ⟨Service.check_ends s octets, fun fault => ⟨Service.check_eq_reading, ?_⟩⟩
    intro today now newId
    exact Service.mount_eq_reading

/-- A field in a list that calls itself by a list is neither accepted nor told to be wrong. -/
example : ofDocument (.map [(.text "id", .text "f"),
      (.text "fields", .list [.map [(.text "id", .list [.text "x"])]])]) =
    .error (.stopped (.unhashableId .list)) := by rfl

end Form

end FormEngine
