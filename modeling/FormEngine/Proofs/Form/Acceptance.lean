import FormEngine.Proofs.Form.Agreement
import FormEngine.Proofs.Form.Places
import FormEngine.Proofs.Mapping
import FormEngine.Proofs.Value.Points

/-!
# Which documents declare a form

A document whose parts can all be read, each for itself, has an `Outline`: the definitions of its
fields with the names under which they are given, and its layout.  Definitions are given in a
mapping by their names, or in a list in which each tells its name (`Given`).

`Outline.Agrees` says when such parts make a form, in no particular order and without mentioning
how they are compared: names are given once, no field calls itself by another name, and layout and
conditions name declared fields.  `Outline.violations` lists what is wrong in a fixed order.
`read_of_outline` ties both to the reading: an outline is accepted exactly if it agrees, then as it
stands but for the names of its fields, and otherwise the first violation is told and no other.  A
violation that mentions a name with an unpaired surrogate cannot be told, and the reading is given
up at it.
-/

namespace FormEngine

/-! ## Outlines -/

/-- The definition of a field in a document: the name under which it is given, the document of the
definition, and the field that this document declares for itself. -/
structure Definition where
  name : Text
  document : Value
  field : Field

namespace Definition

/-- A definition as an entry of a mapping. -/
def entry (d : Definition) : Value × Value := (.text d.name, d.document)

/-- A definition that tells its name, which is not empty. -/
def TellsName (d : Definition) : Prop :=
  d.name ≠ "" ∧ ∃ es, membersOf? .field d.document = some es ∧
    Value.lookupText "id" es = some (.text d.name)

/-- Under distinct names there is an entry for every definition, in order. -/
lemma entries_ofList (declared : Definition → Field) {ds : List Definition}
    (h : (ds.map (·.name)).Nodup) :
    (Mapping.ofList (ds.map fun d => (d.name, declared d))).entries =
      ds.map fun d => (d.name, declared d) :=
  Mapping.entries_ofList (by simpa [Function.comp_def] using h)

end Definition

/-- How a document gives definitions: in a mapping by their names, or in a list. -/
inductive Given (ds : List Definition) : Value → Prop
  | byName : (ds.map (·.name)).Nodup → Given ds (.map (ds.map (·.entry)))
  | inList : (∀ d ∈ ds, d.TellsName) → Given ds (.list (ds.map (·.document)))

/-- The parts of a form before they are compared. -/
structure Outline where
  id : String
  intro : Intro
  definitions : List Definition
  layout : List Layout

namespace Outline

/-- The names under which fields are declared. -/
def names (o : Outline) : List Text := o.definitions.map (·.name)

/-- A document, given by its members, in which each part can be read for itself. -/
structure Of (es : Members) (host : Predicate.Host) (o : Outline) : Prop where
  id : es.need "id" "id" Scalar.readName = .accepted o.id
  intro : es.take "meta" "meta" {} Intro.read = .accepted o.intro
  given : ∃ v, es.find? "fields" "fields" = some ("fields", v) ∧ Given o.definitions v
  definitions : ∀ d ∈ o.definitions, Field.read d.document host = .accepted d.field
  nonempty : o.definitions ≠ []
  layout : es.take "layout" "layout" [] Layout.readAll = .accepted o.layout

/-! ## Agreement -/

/-- The parts of an outline agree. -/
structure Agrees (o : Outline) : Prop where
  /-- No name is given twice. -/
  distinct : o.names.Nodup
  /-- A field gives itself no name or the one under which it is declared. -/
  named : ∀ d ∈ o.definitions, d.field.id = none ∨ d.field.id = some d.name
  /-- Whatever the layout shows, at any depth, is declared. -/
  shown : ∀ part ∈ o.layout, ∀ id : String, part.Shows id → (id : Text) ∈ o.names
  /-- Conditions are about declared fields, and about others than the one that they belong to. -/
  conditions : ∀ d ∈ o.definitions, ∀ c ∈ d.field.conditions, (c.field : Text) ∈ o.names ∧
    c.field ≠ d.name

/-- The names that have been given before, as often as they are given again. -/
def givenAgain (before : List Text) : List Text → List Text
  | [] => []
  | name :: names => (if name ∈ before then [name] else []) ++ givenAgain (before ++ [name]) names

/-- What is wrong with the name that a field gives itself. -/
def wrongId? (d : Definition) : Option Objection :=
  d.field.id.bind fun id => if id = d.name then none else some (.otherId d.name id)

/-- What is wrong with showing a field. -/
def wrongShown? (names : List Text) (id : String) : Option Objection :=
  if (id : Text) ∈ names then none else some (.unknownShown id)

/-- What is wrong with a condition of a field. -/
def wrongCondition? (names : List Text) (d : Definition) (c : Condition) : Option Objection :=
  if (c.field : Text) ∉ names then some (.unknownCondition d.name c.field)
  else if c.field = d.name then some (.ownCondition d.name)
  else none

/-- The disagreements of an outline: names first, then the layout from top to bottom, then the
conditions in the order of the fields. -/
def disagreements (o : Outline) : List Objection :=
  o.definitions.filterMap wrongId? ++
    (Layout.fieldIdsOf o.layout).filterMap (wrongShown? o.names) ++
    o.definitions.flatMap fun d => d.field.conditions.filterMap (wrongCondition? o.names d)

/-- Something that is wrong with an outline, and where. -/
structure Violation where
  place : List Step
  objection : Objection

/-- A violation as it is told. -/
def Violation.problem (v : Violation) : Problem := ⟨v.place, .objection v.objection⟩

/-- What the reading comes to at a violation: it is told, or given up if the sentence about it
cannot be encoded. -/
def Violation.EndsWith {α : Type} (v : Violation) (reading : Checked α) : Prop :=
  v.objection.sentence.isPlain = true ∧ reading = .rejected [v.problem] ∨
    v.objection.sentence.isPlain = false ∧ reading = .stopped (.unencodable v.objection.sentence)

/-- All that is wrong with an outline: names that are given again, and then the disagreements. -/
def violations (o : Outline) : List Violation :=
  ((givenAgain [] o.names).map fun name => ⟨[.name "fields"], .idRepeated name⟩) ++
    o.disagreements.map fun objection => ⟨[], objection⟩

lemma givenAgain_eq_nil_iff {before names : List Text} :
    givenAgain before names = [] ↔ names.Nodup ∧ ∀ name ∈ names, name ∉ before := by
  induction names generalizing before with
  | nil => simp [givenAgain]
  | cons name names ih =>
      have hhead : (if name ∈ before then [name] else []) = [] ↔ name ∉ before := by
        by_cases h : name ∈ before <;> simp [h]
      have htail : (∀ other ∈ names, other ∉ before ++ [name]) ↔
          name ∉ names ∧ ∀ other ∈ names, other ∉ before := by
        simp only [List.mem_append, List.mem_singleton, not_or]
        constructor
        · exact fun h => ⟨fun hname => (h name hname).2 rfl, fun other hother => (h other hother).1⟩
        · rintro ⟨hname, h⟩ other hother
          exact ⟨h other hother, fun heq => hname (heq ▸ hother)⟩
      rw [givenAgain, List.append_eq_nil_iff, hhead, ih, htail, List.nodup_cons,
        List.forall_mem_cons]
      tauto

/-! ## Violations that can be told -/

lemma endsWith_objected {α : Type} {o : Objection} :
    (⟨[], o⟩ : Violation).EndsWith (.objected o : Checked α) := by
  unfold Violation.EndsWith Checked.objected
  cases o.sentence.isPlain <;> simp [Violation.problem, Checked.problem]

lemma Violation.EndsWith.within {α : Type} {v : Violation} {reading : Checked α}
    (h : v.EndsWith reading) (step : Step) :
    (⟨step :: v.place, v.objection⟩ : Violation).EndsWith (reading.within step) := by
  obtain ⟨hplain, rfl⟩ | ⟨hraw, rfl⟩ := h
  · exact .inl ⟨hplain, rfl⟩
  · exact .inr ⟨hraw, rfl⟩

lemma wrongId?_eq_none_iff {d : Definition} :
    wrongId? d = none ↔ d.field.id = none ∨ d.field.id = some d.name := by
  unfold wrongId?
  cases d.field.id <;> simp

lemma wrongShown?_eq_none_iff {names : List Text} {id : String} :
    wrongShown? names id = none ↔ (id : Text) ∈ names := by
  unfold wrongShown?
  split <;> simp_all

lemma wrongCondition?_eq_none_iff {names : List Text} {d : Definition} {c : Condition} :
    wrongCondition? names d c = none ↔ (c.field : Text) ∈ names ∧ c.field ≠ d.name := by
  unfold wrongCondition?
  split_ifs <;> simp_all

lemma disagreements_eq_nil_iff {o : Outline} :
    o.disagreements = [] ↔
      (∀ d ∈ o.definitions, d.field.id = none ∨ d.field.id = some d.name) ∧
      (∀ part ∈ o.layout, ∀ id : String, part.Shows id → (id : Text) ∈ o.names) ∧
      ∀ d ∈ o.definitions, ∀ c ∈ d.field.conditions,
        (c.field : Text) ∈ o.names ∧ c.field ≠ d.name := by
  have hshown : (∀ id ∈ Layout.fieldIdsOf o.layout, (id : Text) ∈ o.names) ↔
      ∀ part ∈ o.layout, ∀ id : String, part.Shows id → (id : Text) ∈ o.names := by
    simp only [Layout.mem_fieldIdsOf, Layout.mem_fieldIds_iff]
    exact ⟨fun h part hpart id hid => h id ⟨part, hpart, hid⟩,
      fun h id ⟨part, hpart, hid⟩ => h part hpart id hid⟩
  simp only [disagreements, List.append_eq_nil_iff, List.filterMap_eq_nil_iff,
    List.flatMap_eq_nil_iff, wrongId?_eq_none_iff, wrongShown?_eq_none_iff,
    wrongCondition?_eq_none_iff, hshown, and_assoc]

/-- The parts of an outline agree exactly if nothing is wrong with it. -/
lemma agrees_iff_violations_eq_nil {o : Outline} : o.Agrees ↔ o.violations = [] := by
  have hrepeated : givenAgain [] o.names = [] ↔ o.names.Nodup := by
    simp [givenAgain_eq_nil_iff]
  rw [violations, List.append_eq_nil_iff, List.map_eq_nil_iff, List.map_eq_nil_iff, hrepeated,
    disagreements_eq_nil_iff]
  exact ⟨fun h => ⟨h.distinct, h.named, h.shown, h.conditions⟩,
    fun ⟨distinct, named, shown, conditions⟩ => ⟨distinct, named, shown, conditions⟩⟩

/-! ## The form of an outline -/

/-- The form of an outline: every field stands under its name and is called by it. -/
def form (o : Outline) : Form :=
  ⟨o.id, o.intro, .ofList (o.definitions.map fun d => (d.name, { d.field with id := some d.name })),
    o.layout⟩

lemma entries_form {o : Outline} (h : o.names.Nodup) :
    o.form.fields.entries =
      o.definitions.map fun d => (d.name, { d.field with id := some d.name }) :=
  Definition.entries_ofList (fun d => { d.field with id := some d.name }) h

end Outline

/-! ## Reading definitions -/

namespace Form

open Outline

variable {ds : List Definition} {host : Predicate.Host}

lemma hasKey_entries (name : Text) (ds : List Definition) :
    Value.hasKey (.text name) (ds.map (·.entry)) = decide (name ∈ ds.map (·.name)) := by
  rw [Value.hasKey, Bool.eq_iff_iff, decide_eq_true_eq]
  simp only [List.any_map, List.any_eq_true, List.mem_map]
  refine exists_congr fun d => and_congr_right fun _ => ?_
  show decide (name = d.name) = true ↔ _
  rw [decide_eq_true_eq, eq_comm]

/-- The definitions of a list are put under their names until a name comes again. -/
lemma underIds_eq (h : ∀ d ∈ ds, d.TellsName) (before : List Definition) :
    underIds (ds.map (·.document)) (before.map (·.entry)) =
      match givenAgain (before.map (·.name)) (ds.map (·.name)) with
      | [] => .accepted ((before ++ ds).map (·.entry))
      | name :: _ => .objected (.idRepeated name) := by
  induction ds generalizing before with
  | nil => simp [underIds, givenAgain]
  | cons d ds ih =>
      obtain ⟨⟨hname, es, hmembers, hid⟩, hrest⟩ := List.forall_mem_cons.1 h
      have hlisted : listedId d.document = .text d.name := by simp [listedId, hmembers, hid]
      have hsomething : isSomething (.text d.name) = true := decide_eq_true hname
      simp only [List.map_cons, underIds, hlisted, hsomething, hasKey_entries, givenAgain,
        Value.unhashable?, Bool.not_true, Bool.false_eq_true, if_false, decide_eq_true_eq]
      by_cases hagain : d.name ∈ before.map (·.name)
      · rw [if_pos hagain, if_pos hagain]
        rfl
      · have hnext := ih hrest (before ++ [d])
        simp only [List.map_append, List.map_cons, List.map_nil, List.append_assoc,
          List.singleton_append] at hnext
        rw [if_neg hagain, if_neg hagain, List.nil_append, List.map_append, List.map_cons]
        exact hnext

/-- Definitions that can be read declare their fields under their names, in order. -/
lemma readEntries_definitions (h : ∀ d ∈ ds, Field.read d.document host = .accepted d.field) :
    readEntries (Field.read · host) (ds.map (·.entry)) =
      .accepted (ds.map fun d => (d.name, d.field)) := by
  induction ds with
  | nil => rfl
  | cons d ds ih =>
      obtain ⟨hd, hrest⟩ := List.forall_mem_cons.1 h
      have hkey : Scalar.readText (.text d.name) = .accepted d.name := rfl
      simp only [List.map_cons, Definition.entry, readEntries, hkey, hd]
      rw [show readEntries (Field.read · host) (ds.map fun d => (.text d.name, d.document)) = _
        from ih hrest]
      rfl

/-- What a document gives is read as fields under their names, unless a name is given again. -/
lemma readFields_eq {v : Value} (given : Given ds v)
    (h : ∀ d ∈ ds, Field.read d.document host = .accepted d.field) (nonempty : ds ≠ []) :
    readFields v host = match givenAgain [] (ds.map (·.name)) with
      | [] => .accepted (.ofList (ds.map fun d => (d.name, d.field)))
      | name :: _ => .objected (.idRepeated name) := by
  have hread : (ds.map (·.name)).Nodup →
      (readMapping (Field.read · host) (.map (ds.map (·.entry)))).bind
        (fun fields => if fields.isEmpty then .problem .noEntries else .accepted fields) =
      .accepted (.ofList (ds.map fun d => (d.name, d.field))) := by
    intro hdistinct
    have hentries := Definition.entries_ofList (·.field) hdistinct
    have hfull : (Mapping.ofList (ds.map fun d => (d.name, d.field))).isEmpty = false := by
      rw [Mapping.isEmpty, hentries]
      simpa using nonempty
    rw [readMapping, readEntries_definitions h]
    show (if (Mapping.ofList (ds.map fun d => (d.name, d.field))).isEmpty = true then _ else _) = _
    rw [hfull]
    rfl
  cases given with
  | byName hdistinct =>
      rw [givenAgain_eq_nil_iff.2 ⟨hdistinct, fun _ _ => List.not_mem_nil⟩]
      exact hread hdistinct
  | inList htells =>
      have hunder := underIds_eq htells []
      simp only [List.map_nil, List.nil_append] at hunder
      simp only [readFields, hunder]
      cases hagain : givenAgain [] (ds.map (·.name)) with
      | nil => exact hread (givenAgain_eq_nil_iff.1 hagain).1
      | cons name names => simp only [objected_map, objected_bind]

/-! ## Comparing the parts -/

/-- The first disagreement between the parts of a form is that of its outline. -/
lemma disagreement?_eq_head? {form : Form} {o : Outline}
    (hfields : form.fields.entries = o.definitions.map fun d => (d.name, d.field))
    (hlayout : form.layout = o.layout) : form.disagreement? = o.disagreements.head? := by
  have hcontains : ∀ id, form.fields.contains id = decide (id ∈ o.names) := by
    intro id
    rw [Bool.eq_iff_iff, Mapping.contains_iff, decide_eq_true_eq, Mapping.keys, hfields,
      List.map_map]
    rfl
  have hids : otherId? form.fields = (o.definitions.filterMap wrongId?).head? := by
    rw [otherId?, hfields, List.findSome?_map, List.head?_filterMap]
    congr 1
    funext d
    simp only [Function.comp_apply, wrongId?]
    cases d.field.id <;> rfl
  have hshown : unknownShown? form.fields form.layout =
      ((Layout.fieldIdsOf o.layout).filterMap (wrongShown? o.names)).head? := by
    rw [unknownShown?, hlayout, List.head?_filterMap]
    congr 1
    funext id
    simp only [hcontains, wrongShown?, decide_eq_true_eq]
  have hconditions : wrongCondition? form.fields = (o.definitions.flatMap fun d =>
      d.field.conditions.filterMap (Outline.wrongCondition? o.names d)).head? := by
    rw [wrongCondition?, hfields, List.findSome?_map, List.head?_flatMap]
    congr 1
    funext d
    rw [List.head?_filterMap]
    show d.field.conditions.findSome? _ = d.field.conditions.findSome? _
    congr 1
    funext c
    simp only [hcontains, Outline.wrongCondition?, Bool.not_eq_true', decide_eq_false_iff_not]
  rw [disagreement?, disagreements, List.head?_append, List.head?_append, hids, hshown, hconditions]

/-! ## Reading a form -/

section

variable {es : Members} {o : Outline}

/-- The parts of a document are read as its outline tells, unless a name is given again. -/
lemma readParts_eq (h : o.Of es host) :
    readParts (.map es) host = match givenAgain [] o.names with
      | [] => .accepted ⟨o.id, o.intro, .ofList (o.definitions.map fun d => (d.name, d.field)),
          o.layout⟩
      | name :: _ => (Checked.objected (.idRepeated name)).within (.name "fields") := by
  obtain ⟨v, hfind, hgiven⟩ := h.given
  have hfields : es.need "fields" "fields" (readFields · host) =
      (readFields v host).within (.name "fields") := by
    simp only [Members.need, hfind]
  simp only [readParts, readPart, h.id, h.intro, h.layout, hfields,
    readFields_eq hgiven h.definitions h.nonempty]
  show _ = match givenAgain [] (o.definitions.map (·.name)) with | [] => _ | name :: _ => _
  cases givenAgain [] (o.definitions.map (·.name)) with
  | nil => rfl
  | cons name names =>
      dsimp only
      unfold Checked.objected
      split <;> rfl

/-- What is read follows from the violations of the outline: the form of the outline if there are
none, and otherwise what the first of them comes to. -/
lemma read_eq (h : o.Of es host) :
    match o.violations with
      | [] => Form.read (.map es) host = .accepted o.form
      | first :: _ => first.EndsWith (Form.read (.map es) host) := by
  rw [Form.read, readParts_eq h]
  cases hagain : givenAgain [] o.names with
  | cons name names =>
      have hends := (endsWith_objected (α := Form) (o := .idRepeated name)).within (.name "fields")
      simp only [violations, hagain, List.map_cons, List.cons_append]
      unfold Checked.objected at hends ⊢
      split <;> simp_all [Checked.bind, Checked.within, Checked.problem]
  | nil =>
      have hdistinct : o.names.Nodup := (givenAgain_eq_nil_iff.1 hagain).1
      have hentries : (Mapping.ofList (o.definitions.map fun d => (d.name, d.field))).entries =
          o.definitions.map fun d => (d.name, d.field) :=
        Definition.entries_ofList _ hdistinct
      show match o.violations with
        | [] => Form.agreed _ = .accepted o.form
        | first :: _ => first.EndsWith (Form.agreed _)
      rw [agreed, disagreement?_eq_head? hentries rfl, violations, hagain]
      cases o.disagreements with
      | cons objection objections => exact endsWith_objected
      | nil =>
          have hnamed : (Mapping.ofList (o.definitions.map fun d => (d.name, d.field))).mapValues
              (fun key field => { field with id := some key }) = o.form.fields := by
            refine Mapping.eq_of_entries_eq ?_
            simp only [entries_form hdistinct, Mapping.mapValues, hentries, List.map_map]
            rfl
          show Checked.accepted (Form.named _) = .accepted o.form
          rw [named, hnamed]
          rfl

end

end Form

end FormEngine
