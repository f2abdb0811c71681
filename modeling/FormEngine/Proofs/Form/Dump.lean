import FormEngine.Form.Dump
import FormEngine.Proofs.Form.Acceptance
import FormEngine.Proofs.Form.Declared

/-!
# Reading what has been written of a form

A form that has been read is written by `Form.dump` in the shape that reading has given it.  What is
written declares a form again, `Form.restated`: the same one but for two things that a document
cannot tell, since a default that is not declared is written as null, and predicates are left out.
Neither shows when that form is written in turn, so that writing what has been read is a fixed point
(`Form.ofDocument_dump_of_read`).

Each part of a form is read back from what is written of it.  Three facts about parts that have been
read are needed for that and come from the reading alone: the fields that conditions and the layout
name have names that are not empty, and the pattern of a rule is what its source is read as.
-/

namespace FormEngine

variable {host : Predicate.Host}

/-! ## Forms declared again -/

/-- The rules that are declared by what is written of rules. -/
def Rules.restated (r : Rules) : Rules := { r with predicate := none }

/-- The field that is declared by what is written of a field. -/
def Field.restated (f : Field) : Field :=
  { f with default := some (f.default.getD .null), rules := f.rules.map Rules.restated }

/-- The form that is declared by what is written of a form. -/
def Form.restated (form : Form) : Form :=
  { form with fields := form.fields.mapValues fun _ f => f.restated }

lemma Field.dump_restated (f : Field) : f.restated.dump = f.dump := by
  obtain ⟨id, label, widget, inputType, placeholder, default, props, rules, visibleWhen⟩ := f
  cases rules <;> rfl

/-- What is written of a form declared again is what has been written before. -/
lemma Form.dump_restated (form : Form) : form.restated.dump = form.dump := by
  have hfields : form.restated.fields.mapValues (fun _ f => f.dump) =
      form.fields.mapValues fun _ f => f.dump := by
    refine Mapping.eq_of_entries_eq ?_
    simp [restated, Mapping.mapValues, Field.dump_restated]
  rw [dump, dump, hfields]
  rfl

/-! ## Scalars -/

namespace Scalar

lemma readText_text (t : Text) : readText (.text t) = .accepted t := rfl

lemma readName_text {s : String} (h : s ≠ "") : readName (.text s) = .accepted s := by
  have hread : readString (.text s) = .accepted s := by simp [readString, carriedText]
  rw [readName, hread, Checked.bind, if_neg h]

lemma orNull_textOrNull (t : Option Text) : orNull readText (textOrNull t) = .accepted t := by
  cases t <;> rfl

/-- What may be missing is read back if it is read back when it is there. -/
lemma orNull_orNull {α β : Type} {read : Value → Checked β} {dump : α → Value} {f : α → β}
    {o : Option α} (hnull : ∀ a, dump a ≠ .null)
    (hread : ∀ a, o = some a → read (dump a) = .accepted (f a)) :
    orNull read (FormEngine.orNull dump o) = .accepted (o.map f) := by
  cases o with
  | none => rfl
  | some a =>
      have horNull : orNull read (dump a) = some <$> read (dump a) := by
        unfold orNull
        split
        · exact absurd ‹_› (hnull a)
        · rfl
      show orNull read (dump a) = _
      rw [horNull, hread a rfl]
      rfl

lemma orNull_orNull_self {α : Type} {read : Value → Checked α} {dump : α → Value}
    {o : Option α} (hnull : ∀ a, dump a ≠ .null)
    (hread : ∀ a, o = some a → read (dump a) = .accepted a) :
    orNull read (FormEngine.orNull dump o) = .accepted o := by
  rw [orNull_orNull (f := id) hnull hread, Option.map_id_fun, id]

lemma readCount_int (n : Nat) : readCount (.int n) = .accepted n := by
  show (if 0 ≤ (n : Int) then Checked.accepted (n : Int).toNat else .problem (.below 0)) = _
  rw [if_pos (Int.natCast_nonneg n), Int.toNat_natCast]

lemma readColumns_int (c : Columns) : readColumns (.int c.1) = .accepted c := by
  show (if h : 1 ≤ (c.1 : Int).toNat then Checked.accepted (⟨(c.1 : Int).toNat, h⟩ : Columns)
    else .problem (.below 1)) = _
  rw [dif_pos (by rw [Int.toNat_natCast]; exact c.2)]
  simp only [Int.toNat_natCast]

lemma readWidget_name (w : Widget) :
    readEnum Widget.ofName? (Widget.all.map Widget.name) (.text w.name) = .accepted w := by
  cases w <;> rfl

lemma readDistance_name (d : Distance) :
    readEnum Distance.ofName? (Distance.all.map Distance.name) (.text d.name) = .accepted d := by
  cases d <;> rfl

end Scalar

open Scalar

/-! ## Rules -/

lemma Rule.read_dump {α : Type} {name : String} {readDemand : Value → Checked α}
    {demand : α → Value} {r : Rule α} (h : readDemand (demand r.demand) = .accepted r.demand) :
    Rule.read name readDemand (r.dump demand) = .accepted r := by
  show Rule.mk <$> (readDemand (demand r.demand)).within (.name "value")
    <*> (Scalar.orNull readText (textOrNull r.message)).within (.name "message") = _
  rw [h, orNull_textOrNull]
  rfl

lemma Requirement.read_dump (r : Requirement) : Requirement.read r.dump = .accepted r := by
  cases r <;> rfl

/-- The pattern of a rule is what its source is read as. -/
def Rules.Restorable (r : Rules) : Prop :=
  ∀ rule, r.pattern = some rule → Pattern.read rule.demand.source = .ok rule.demand

lemma readPatternSource_source {p : Pattern} (h : Pattern.read p.source = .ok p) :
    readPatternSource (.text p.source) = .accepted p := by
  rw [readPatternSource, readText_text, Checked.bind, h]

lemma Rules.read_dump {r : Rules} (h : r.Restorable) :
    Rules.read r.dump host = .accepted r.restated := by
  have hlength : ∀ o : Option (Rule Nat),
      Scalar.orNull Rule.readLength (orNull Rule.dumpLength o) = .accepted o := fun o =>
    orNull_orNull_self (fun _ => nofun) fun _ _ => Rule.read_dump (readCount_int _)
  have hbound : ∀ o : Option (Rule Double),
      Scalar.orNull Rule.readBound (orNull Rule.dumpBound o) = .accepted o := fun o =>
    orNull_orNull_self (fun _ => nofun) fun _ _ => Rule.read_dump rfl
  have hpattern : Scalar.orNull Rule.readPattern (orNull Rule.dumpPattern r.pattern) =
      .accepted r.pattern :=
    orNull_orNull_self (fun _ => nofun) fun rule hrule =>
      Rule.read_dump (readPatternSource_source (h rule hrule))
  show Rules.mk
    <$> (Requirement.read r.required.dump).within (.name "required")
    <*> (Scalar.orNull Rule.readLength (orNull Rule.dumpLength r.minLength)).within
      (.name "min_length")
    <*> (Scalar.orNull Rule.readLength (orNull Rule.dumpLength r.maxLength)).within
      (.name "max_length")
    <*> (Scalar.orNull Rule.readBound (orNull Rule.dumpBound r.min)).within (.name "min")
    <*> (Scalar.orNull Rule.readBound (orNull Rule.dumpBound r.max)).within (.name "max")
    <*> (Scalar.orNull Rule.readPattern (orNull Rule.dumpPattern r.pattern)).within
      (.name "pattern")
    <*> .accepted none = _
  rw [Requirement.read_dump, hlength, hlength, hbound, hbound, hpattern]
  rfl

/-! ## Conditions -/

lemma Condition.read_dump {c : Condition} (h : c.field ≠ "") :
    Condition.read c.dump = .accepted c := by
  show Condition.mk <$> (readName (.text c.field)).within (.name "field")
    <*> (readText (.text c.operator)).within (.name "op")
    <*> (Checked.accepted c.value).within (.name "value") = _
  rw [readName_text h, readText_text]
  rfl

lemma readItems_dump {cs : List Condition} (h : ∀ c ∈ cs, c.field ≠ "") (i : Nat) :
    readItems Condition.read i (cs.map Condition.dump) = .accepted cs := by
  induction cs generalizing i with
  | nil => rfl
  | cons c cs ih =>
      obtain ⟨hc, hcs⟩ := List.forall_mem_cons.1 h
      rw [List.map_cons, readItems, Condition.read_dump hc, ih hcs]
      rfl

/-- A single condition is read back as one, and a list as a list. -/
lemma VisibilityRule.read_dump {rule : VisibilityRule} (h : ∀ c ∈ rule.conditions, c.field ≠ "") :
    VisibilityRule.read rule.dump = .accepted rule := by
  cases rule with
  | single c =>
      rw [dump, VisibilityRule.read, Condition.read_dump (h c (List.mem_singleton_self c))]
  | all cs =>
      have hitems := readItems_dump (show ∀ c ∈ cs, c.field ≠ "" from h) 0
      show VisibilityRule.read (.list (cs.map Condition.dump)) = _
      rw [VisibilityRule.read, readList, Value.items?]
      dsimp only
      rw [hitems]
      rfl

/-! ## Fields -/

/-- A mapping of values that are kept as they are is read back. -/
lemma readMapping_ofMapping (m : Mapping Value) :
    readMapping .accepted (.ofMapping m) = .accepted m := by
  have hentries : ∀ es : List (Text × Value),
      readEntries Checked.accepted (es.map fun e => (.text e.1, e.2)) = .accepted es := fun es => by
    induction es with
    | nil => rfl
    | cons e es ih =>
        rw [List.map_cons, readEntries, readText_text, ih]
        rfl
  have hsame : Mapping.ofList m.entries = m :=
    Mapping.eq_of_entries_eq (Mapping.entries_ofList m.nodup)
  rw [Value.ofMapping, readMapping, hentries]
  exact congrArg _ hsame

/-- The rules of a field can be read back, and its conditions name fields. -/
structure Field.Restorable (f : Field) : Prop where
  rules : ∀ r, f.rules = some r → r.Restorable
  conditions : ∀ c ∈ f.conditions, c.field ≠ ""

lemma Field.read_dump {f : Field} (h : f.Restorable) :
    Field.read f.dump host = .accepted f.restated := by
  have hrules : Scalar.orNull (Rules.read · host) (orNull Rules.dump f.rules) =
      .accepted (f.rules.map Rules.restated) :=
    orNull_orNull (fun _ => nofun) fun r hr => Rules.read_dump (h.rules r hr)
  have hvisible : Scalar.orNull VisibilityRule.read (orNull VisibilityRule.dump f.visibleWhen) =
      .accepted f.visibleWhen := by
    refine orNull_orNull_self (fun rule => ?_) fun rule hrule => VisibilityRule.read_dump ?_
    · cases rule <;> nofun
    · intro c hc
      exact h.conditions c (by simpa [Field.conditions, hrule] using hc)
  show Field.mk
    <$> (Scalar.orNull readText (textOrNull f.id)).within (.name "id")
    <*> (readText (.text f.label)).within (.name "label")
    <*> (readEnum Widget.ofName? (Widget.all.map Widget.name) (.text f.widget.name)).within
      (.name "renderer")
    <*> (Scalar.orNull readText (textOrNull f.inputType)).within (.name "input_type")
    <*> (Scalar.orNull readText (textOrNull f.placeholder)).within (.name "placeholder")
    <*> (Checked.accepted (some (f.default.getD .null))).within (.name "default_value")
    <*> (readMapping .accepted (.ofMapping f.props)).within (.name "props")
    <*> (Scalar.orNull (Rules.read · host) (orNull Rules.dump f.rules)).within (.name "rules")
    <*> (Scalar.orNull VisibilityRule.read (orNull VisibilityRule.dump f.visibleWhen)).within
      (.name "visible_when") = _
  rw [orNull_textOrNull, readText_text, readWidget_name, orNull_textOrNull, orNull_textOrNull,
    readMapping_ofMapping, hrules, hvisible]
  rfl

/-! ## Layouts -/

namespace Layout

mutual

/-- A part of a layout is read back if the fields that it shows have names. -/
theorem read_dump : ∀ {part : Layout}, (∀ id ∈ part.fieldIds, id ≠ "") →
    Layout.read part.dump = .accepted part
  | .field span id, h => by
      show ((fun span _ id => Layout.field span id)
        <$> (readColumns (.int span.1)).within (.name "col_span")
        <*> .accepted ()
        <*> (readName (.text id)).within (.name "field_id")).within (.name "field") = _
      rw [readColumns_int, readName_text (h id (List.mem_singleton_self id))]
      rfl
  | .stack span distance children, h => by
      show ((fun span _ distance children => Layout.stack span distance children)
        <$> (readColumns (.int span.1)).within (.name "col_span")
        <*> .accepted ()
        <*> (readEnum Distance.ofName? (Distance.all.map Distance.name)
          (.text distance.name)).within (.name "spacing")
        <*> (readNumbered 0 (dumpAll children)).within (.name "children")).within
          (.name "stack") = _
      rw [readColumns_int, readDistance_name, readNumbered_dumpAll h]
      rfl
  | .grid span cols distance children, h => by
      show ((fun span _ cols distance children => Layout.grid span cols distance children)
        <$> (readColumns (.int span.1)).within (.name "col_span")
        <*> .accepted ()
        <*> (readColumns (.int cols.1)).within (.name "cols")
        <*> (readEnum Distance.ofName? (Distance.all.map Distance.name)
          (.text distance.name)).within (.name "spacing")
        <*> (readNumbered 0 (dumpAll children)).within (.name "children")).within
          (.name "grid") = _
      rw [readColumns_int, readColumns_int, readDistance_name, readNumbered_dumpAll h]
      rfl
  | .segment span title subtitle divider collapsible children, h => by
      show ((fun span _ title subtitle divider collapsible children =>
          Layout.segment span title subtitle divider collapsible children)
        <$> (readColumns (.int span.1)).within (.name "col_span")
        <*> .accepted ()
        <*> (Scalar.orNull readText (textOrNull title)).within (.name "title")
        <*> (Scalar.orNull readText (textOrNull subtitle)).within (.name "subtitle")
        <*> (readBoolean (.bool divider)).within (.name "with_divider")
        <*> (readBoolean (.bool collapsible)).within (.name "collapsible")
        <*> (readNumbered 0 (dumpAll children)).within (.name "children")).within
          (.name "section") = _
      rw [readColumns_int, orNull_textOrNull, orNull_textOrNull, readNumbered_dumpAll h]
      rfl

/-- The same of a list of parts. -/
theorem readNumbered_dumpAll : ∀ {parts : List Layout} {i : Nat},
    (∀ id ∈ fieldIdsOf parts, id ≠ "") → readNumbered i (dumpAll parts) = .accepted parts
  | [], _, _ => rfl
  | part :: parts, i, h => by
      have hpart := read_dump fun id hid => h id (List.mem_append_left (fieldIdsOf parts) hid)
      have hparts := readNumbered_dumpAll (i := i + 1) fun id hid =>
        h id (List.mem_append_right part.fieldIds hid)
      rw [dumpAll, readNumbered, hpart, hparts]
      rfl

end

end Layout

/-! ## Introductions -/

lemma Intro.read_dump (intro : Intro) : Intro.read intro.dump = .accepted intro := by
  show Intro.mk
    <$> (readText (.text intro.title)).within (.name "title")
    <*> (Scalar.orNull readText (textOrNull intro.subtitle)).within (.name "subtitle")
    <*> (Scalar.orNull readText (textOrNull intro.description)).within (.name "description") = _
  rw [readText_text, orNull_textOrNull, orNull_textOrNull]
  rfl

/-! ## What has been read can be read back -/

lemma Scalar.ne_empty_of_readName {v : Value} {s : String} (h : readName v = .accepted s) :
    s ≠ "" := by
  obtain ⟨t, -, ht⟩ := Checked.bind_eq_accepted.1 h
  split at ht
  · cases ht
  · obtain rfl := Checked.accepted.inj ht
    assumption

lemma Scalar.read_of_orNull {α : Type} {read : Value → Checked α} {v : Value} {a : α}
    (h : orNull read v = .accepted (some a)) : read v = .accepted a := by
  unfold orNull at h
  split at h
  · cases h
  · obtain ⟨b, hread, hb⟩ := Checked.map_eq_accepted.1 h
    obtain rfl := Option.some.inj hb
    exact hread

/-- What a member that may be missing or null declares has been read from a value. -/
lemma Members.read_of_take {α : Type} {es : Members} {spelling other : String}
    {read : Value → Checked α} {a : α}
    (h : es.take spelling other none (Scalar.orNull read) = .accepted (some a)) :
    ∃ v, read v = .accepted a := by
  rcases Members.take_eq_accepted h with hnone | ⟨e, -, he⟩
  · cases hnone
  · exact ⟨e.2, read_of_orNull he⟩

lemma Pattern.source_of_read {source : Text} {p : Pattern} (h : Pattern.read source = .ok p) :
    p.source = source := by
  unfold Pattern.read at h
  dsimp only at h
  generalize Pattern.readWhole.run _ = run at h
  cases run with
  | error fault => cases h
  | ok pair =>
      obtain rfl := Except.ok.inj h
      rfl

lemma Rules.restorable_of_read {v : Value} {r : Rules} (h : Rules.read v host = .accepted r) :
    r.Restorable := by
  intro rule hrule
  obtain ⟨es, -, hmembers⟩ := Rules.readFrom_of_read h
  have hpattern := hmembers.pattern
  rw [hrule] at hpattern
  obtain ⟨w, hw⟩ := Members.read_of_take hpattern
  unfold Rule.readPattern Rule.read readPart at hw
  split at hw
  next fs =>
    simp only [Checked.seq_eq_accepted, Checked.map_eq_accepted] at hw
    obtain ⟨_, message, ⟨p, hp, rfl⟩, -, rfl⟩ := hw
    obtain ⟨e, -, he⟩ := Members.need_eq_accepted hp
    obtain ⟨source, -, hsource⟩ := Checked.bind_eq_accepted.1 he
    split at hsource
    next p' hread =>
      obtain rfl := Checked.accepted.inj hsource
      show Pattern.read p'.source = .ok p'
      rw [Pattern.source_of_read hread, hread]
    all_goals first | exact absurd hsource Form.objected_ne_accepted | cases hsource
  next => cases hw

lemma Condition.field_ne_empty_of_read {v : Value} {c : Condition}
    (h : Condition.read v = .accepted c) : c.field ≠ "" := by
  unfold Condition.read at h
  split at h
  next => cases h
  next es hes =>
    simp only [Checked.seq_eq_accepted, Checked.map_eq_accepted] at h
    obtain ⟨_, value, ⟨_, operator, ⟨field, hfield, rfl⟩, -, rfl⟩, -, rfl⟩ := h
    obtain ⟨e, -, he⟩ := Members.need_eq_accepted hfield
    exact ne_empty_of_readName he

lemma exists_read_of_readItems {α : Type} {read : Value → Checked α} {vs : List Value} {i : Nat}
    {as : List α} (h : readItems read i vs = .accepted as) :
    ∀ a ∈ as, ∃ v, read v = .accepted a := by
  induction vs generalizing i as with
  | nil =>
      obtain rfl := Checked.accepted.inj h
      exact fun a ha => absurd ha List.not_mem_nil
  | cons v vs ih =>
      simp only [readItems, Checked.seq_eq_accepted, Checked.map_eq_accepted,
        Checked.within_eq_accepted] at h
      obtain ⟨_, rest, ⟨a, ha, rfl⟩, hrest, rfl⟩ := h
      exact List.forall_mem_cons.2 ⟨⟨v, ha⟩, ih hrest⟩

lemma VisibilityRule.field_ne_empty_of_read {v : Value} {rule : VisibilityRule}
    (h : VisibilityRule.read v = .accepted rule) : ∀ c ∈ rule.conditions, c.field ≠ "" := by
  unfold VisibilityRule.read at h
  split at h
  case h_1 c hc =>
    obtain rfl := Checked.accepted.inj h
    exact List.forall_mem_singleton.2 (Condition.field_ne_empty_of_read hc)
  case h_2 cs hcs _ =>
    obtain rfl := Checked.accepted.inj h
    intro c hc
    unfold readList at hcs
    split at hcs
    · obtain ⟨w, hw⟩ := exists_read_of_readItems hcs c hc
      exact Condition.field_ne_empty_of_read hw
    · cases hcs
  case h_3 hneither _ =>
    -- one of the two readings that are told has failed
    simp only [Checked.seq_eq_accepted, Checked.map_eq_accepted, Checked.within_eq_accepted] at h
    obtain ⟨_, _, ⟨c, hc, -⟩, -⟩ := h
    exact (hneither c hc).elim

lemma Field.restorable_of_read {v : Value} {f : Field} (h : Field.read v host = .accepted f) :
    f.Restorable := by
  obtain ⟨es, -, hmembers⟩ := Field.readFrom_of_read h
  refine ⟨fun r hr => ?_, fun c hc => ?_⟩
  · have hrules := hmembers.rules
    rw [hr] at hrules
    obtain ⟨w, hw⟩ := Members.read_of_take hrules
    exact Rules.restorable_of_read hw
  · have hvisible := hmembers.visibleWhen
    cases hwhen : f.visibleWhen with
    | none => simp [Field.conditions, hwhen] at hc
    | some rule =>
        rw [hwhen] at hvisible
        obtain ⟨w, hw⟩ := Members.read_of_take hvisible
        have hrule : c ∈ rule.conditions := by simpa [Field.conditions, hwhen] using hc
        exact VisibilityRule.field_ne_empty_of_read hw c hrule

namespace Layout

/-- What a part shows, given that its children show fields with names. -/
lemma ne_empty_of_readOfKind {kind : Kind} {es : Members} {children : Checked (List Layout)}
    {part : Layout} (h : readOfKind kind es children = .accepted part)
    (hchildren : ∀ parts, children = .accepted parts → ∀ id ∈ fieldIdsOf parts, id ≠ "") :
    ∀ id ∈ part.fieldIds, id ≠ "" := by
  cases kind with
  | field =>
      simp only [readOfKind, Checked.seq_eq_accepted, Checked.map_eq_accepted] at h
      obtain ⟨_, fieldId, ⟨_, _, ⟨span, -, rfl⟩, -, rfl⟩, hread, rfl⟩ := h
      obtain ⟨e, -, he⟩ := Members.need_eq_accepted hread
      exact List.forall_mem_singleton.2 (ne_empty_of_readName he)
  | stack =>
      simp only [readOfKind, Checked.seq_eq_accepted, Checked.map_eq_accepted] at h
      obtain ⟨_, parts, ⟨_, distance, ⟨_, _, ⟨span, -, rfl⟩, -, rfl⟩, -, rfl⟩, hparts, rfl⟩ := h
      exact hchildren parts hparts
  | grid =>
      simp only [readOfKind, Checked.seq_eq_accepted, Checked.map_eq_accepted] at h
      obtain ⟨_, parts, ⟨_, distance, ⟨_, cols, ⟨_, _, ⟨span, -, rfl⟩, -, rfl⟩, -, rfl⟩, -, rfl⟩,
        hparts, rfl⟩ := h
      exact hchildren parts hparts
  | segment =>
      simp only [readOfKind, Checked.seq_eq_accepted, Checked.map_eq_accepted] at h
      obtain ⟨_, parts, ⟨_, collapsible, ⟨_, divider, ⟨_, subtitle, ⟨_, title, ⟨_, _,
        ⟨span, -, rfl⟩, -, rfl⟩, -, rfl⟩, -, rfl⟩, -, rfl⟩, -, rfl⟩, hparts, rfl⟩ := h
      exact hchildren parts hparts

mutual

/-- The fields that a part which has been read shows have names. -/
theorem ne_empty_of_read : ∀ {v : Value} {part : Layout}, Layout.read v = .accepted part →
    ∀ id ∈ part.fieldIds, id ≠ ""
  | .map es, part, h => by
      unfold Layout.read at h
      split at h
      · cases h
      · split at h
        · cases h
        · exact ne_empty_of_readOfKind (Checked.within_eq_accepted.1 h)
            fun parts hparts => ne_empty_of_readChildren hparts
  | .null, _, h | .bool _, _, h | .int _, _, h | .float _, _, h | .text _, _, h
  | .bytes _, _, h | .date _, _, h | .dateTime _, _, h | .list _, _, h
  | .tuple _, _, h | .set _, _, h | .prepared _ _, _, h => by cases h

/-- The same of children. -/
theorem ne_empty_of_readChildren : ∀ {es : Members} {parts : List Layout},
    readChildren es = .accepted parts → ∀ id ∈ fieldIdsOf parts, id ≠ ""
  | [], _, h => by
      obtain rfl := Checked.accepted.inj h
      exact fun id hid => absurd hid List.not_mem_nil
  | (key, v) :: es, _, h => by
      unfold readChildren at h
      split at h
      · exact ne_empty_of_readAll (Checked.within_eq_accepted.1 h)
      · exact ne_empty_of_readChildren h

/-- The same of a list of parts. -/
theorem ne_empty_of_readAll : ∀ {v : Value} {parts : List Layout},
    readAll v = .accepted parts → ∀ id ∈ fieldIdsOf parts, id ≠ ""
  | .list items, _, h | .tuple items, _, h | .set items, _, h =>
      ne_empty_of_readNumbered (i := 0) h
  | .null, _, h | .bool _, _, h | .int _, _, h | .float _, _, h | .text _, _, h
  | .bytes _, _, h | .date _, _, h | .dateTime _, _, h | .map _, _, h
  | .prepared _ _, _, h => by cases h

/-- The same of numbered parts. -/
theorem ne_empty_of_readNumbered : ∀ {i : Nat} {vs : List Value} {parts : List Layout},
    readNumbered i vs = .accepted parts → ∀ id ∈ fieldIdsOf parts, id ≠ ""
  | _, [], _, h => by
      obtain rfl := Checked.accepted.inj h
      exact fun id hid => absurd hid List.not_mem_nil
  | i, v :: vs, _, h => by
      simp only [readNumbered, Checked.seq_eq_accepted, Checked.map_eq_accepted,
        Checked.within_eq_accepted] at h
      obtain ⟨_, parts, ⟨part, hpart, rfl⟩, hparts, rfl⟩ := h
      intro id hid
      rcases List.mem_append.1 hid with hid | hid
      · exact ne_empty_of_read hpart id hid
      · exact ne_empty_of_readNumbered hparts id hid

end

end Layout

/-! ## Forms -/

namespace Form

open Outline

/-- The parts of the document that is written of a form, given what is declared by what is written
of a field. -/
def outline (form : Form) (declared : Field → Field) : Outline where
  id := form.id
  intro := form.intro
  definitions := form.fields.entries.map fun e => ⟨e.1, e.2.dump, declared e.2⟩
  layout := form.layout

lemma names_outline (form : Form) (declared : Field → Field) :
    (form.outline declared).names = form.fields.keys := by
  simp [names, outline, Mapping.keys]

/-- The members of the document that is written of a form. -/
def dumpedMembers (form : Form) : Members := [
  (.text "id", .text form.id), (.text "meta", form.intro.dump),
  (.text "fields", .ofMapping (form.fields.mapValues fun _ f => f.dump)),
  (.text "layout", .list (Layout.dumpAll form.layout))]

lemma dump_eq_map (form : Form) : form.dump = .map form.dumpedMembers := rfl

/-- What reading makes of a form: the form and its fields are there, it and whatever is named have
names, every field can be read back and calls itself by its key, and the parts agree. -/
structure Restorable (form : Form) : Prop where
  id : form.id ≠ ""
  nonempty : form.fields.entries ≠ []
  fields : ∀ e ∈ form.fields.entries, e.2.Restorable
  named : form.NamesFields
  shown : ∀ id ∈ form.shownFields, id ≠ ""
  agrees : (form.outline Field.restated).Agrees

variable {form : Form}

lemma of_dumpedMembers (h : form.Restorable) :
    (form.outline Field.restated).Of form.dumpedMembers host where
  id := by
    show (readName (.text form.id)).within (.name "id") = _
    rw [readName_text h.id]
    rfl
  intro := by
    show (Intro.read form.intro.dump).within (.name "meta") = _
    rw [Intro.read_dump]
    rfl
  given := by
    refine ⟨_, rfl, ?_⟩
    have hmap : Value.ofMapping (form.fields.mapValues fun _ f => f.dump) =
        .map ((form.outline Field.restated).definitions.map (·.entry)) := by
      simp [Value.ofMapping, Mapping.mapValues, outline, Definition.entry]
    rw [hmap]
    exact .byName h.agrees.distinct
  definitions := by
    intro d hd
    obtain ⟨e, he, rfl⟩ := List.mem_map.1 hd
    exact Field.read_dump (h.fields e he)
  nonempty := by simpa [outline] using h.nonempty
  layout := by
    show (Layout.readNumbered 0 (Layout.dumpAll form.layout)).within (.name "layout") = _
    rw [Layout.readNumbered_dumpAll h.shown]
    rfl

/-- The outline of what is written of a form is that of the form declared again. -/
lemma form_outline (h : form.Restorable) : (form.outline Field.restated).form = form.restated := by
  have hfields : (form.outline Field.restated).form.fields = form.restated.fields := by
    refine Mapping.eq_of_entries_eq ?_
    rw [entries_form h.agrees.distinct]
    show (form.fields.entries.map _).map _ = form.fields.entries.map _
    rw [List.map_map]
    refine List.map_congr_left fun e he => ?_
    show (e.1, { e.2.restated with id := some e.1 }) = (e.1, e.2.restated)
    rw [← h.named e he]
    rfl
  show Form.mk form.id form.intro (form.outline Field.restated).form.fields form.layout = _
  rw [hfields]
  rfl

lemma read_dump (h : form.Restorable) : Form.read form.dump host = .accepted form.restated := by
  have houtline : (form.outline Field.restated).Of form.dumpedMembers host := of_dumpedMembers h
  have hread := read_eq houtline
  simp only [agrees_iff_violations_eq_nil.1 h.agrees] at hread
  rw [dump_eq_map, hread, form_outline h]

/-- Parts that do not disagree still agree when the fields are named and written. -/
lemma agrees_of_disagreement? {parts : Form} (h : parts.disagreement? = none) :
    (parts.named.outline Field.restated).Agrees := by
  have hfields : parts.fields.entries =
      (parts.outline fun f => f).definitions.map fun d => (d.name, d.field) := by
    simp [outline, Function.comp_def]
  have hnil : (parts.outline fun f => f).disagreements = [] :=
    List.head?_eq_none_iff.1 ((disagreement?_eq_head? hfields rfl).symm.trans h)
  obtain ⟨-, hshown, hconditions⟩ := disagreements_eq_nil_iff.1 hnil
  have hnames : (parts.named.outline Field.restated).names = (parts.outline fun f => f).names := by
    rw [names_outline, names_outline, named, Mapping.keys_mapValues]
  have hdefinitions : ∀ d ∈ (parts.named.outline Field.restated).definitions,
      ∃ e ∈ parts.fields.entries, d.name = e.1 ∧ d.field.id = some e.1 ∧
        d.field.conditions = e.2.conditions := by
    intro d hd
    obtain ⟨e', he', rfl⟩ := List.mem_map.1 hd
    obtain ⟨e, he, rfl⟩ := List.mem_map.1 he'
    exact ⟨e, he, rfl, rfl, rfl⟩
  refine ⟨?_, fun d hd => ?_, fun part hpart id hid => ?_, fun d hd c hc => ?_⟩
  · rw [names_outline]
    exact parts.named.fields.nodup
  · obtain ⟨e, -, hname, hid, -⟩ := hdefinitions d hd
    exact .inr (by rw [hid, hname])
  · rw [hnames]
    exact hshown part hpart id hid
  · obtain ⟨e, he, hname, -, hsame⟩ := hdefinitions d hd
    rw [hnames, hname]
    exact hconditions ⟨e.1, e.2.dump, e.2⟩ (List.mem_map.2 ⟨e, he, rfl⟩) c (hsame ▸ hc)

lemma restorable_of_read {document : Value} (h : Form.read document host = .accepted form) :
    form.Restorable := by
  have hnamed := namesFields_of_read h
  obtain ⟨parts, hparts, hnone, rfl⟩ := named_of_read h
  obtain ⟨es, rfl, hid, hfields, hlayout⟩ := readParts_eq_accepted hparts
  obtain ⟨_, -, hid⟩ := Members.need_eq_accepted hid
  obtain ⟨_, -, hfields⟩ := Members.need_eq_accepted hfields
  obtain ⟨hnonempty, hread⟩ := readFields_eq_accepted hfields
  refine ⟨ne_empty_of_readName hid, ?_, ?_, hnamed, ?_, agrees_of_disagreement? hnone⟩
  · simpa [named, Mapping.mapValues, Mapping.isEmpty] using hnonempty
  · intro e he
    obtain ⟨e', he', rfl⟩ := List.mem_map.1 he
    obtain ⟨v, hv⟩ := hread.of_mem he'
    obtain ⟨hrules, hconditions⟩ := Field.restorable_of_read hv
    exact ⟨hrules, hconditions⟩
  · rcases Members.take_eq_accepted hlayout with hempty | ⟨_, -, hlayout⟩
    · show ∀ id ∈ Layout.fieldIdsOf parts.layout, id ≠ ""
      rw [hempty]
      exact fun id hid => absurd hid List.not_mem_nil
    · exact Layout.ne_empty_of_readAll hlayout

/-- A form that has been read, whatever from and with whatever predicates, is declared again by what
is written of it, whole but for the predicates and with a default for every field.  What is written
of that form is what has been written before. -/
theorem ofDocument_dump_of_read {document : Value}
    (h : Form.read document host = .accepted form) :
    ofDocument form.dump = .ok form.restated ∧
    (∀ other : Predicate.Host, Form.read form.dump other = .accepted form.restated) ∧
    form.restated.dump = form.dump := by
  have hrestorable := restorable_of_read h
  refine ⟨?_, fun _ => read_dump hrestorable, dump_restated form⟩
  have hread : Form.read form.dump = .accepted form.restated := read_dump hrestorable
  rw [dump_eq_map] at hread ⊢
  rw [ofDocument, hread]

/-- A document that spells numbers and answers as texts, gives its fields in a list and leaves out
most of what it could say. -/
def tripDocument : Value := .map [
  (.text "id", .text "trip"),
  (.text "fields", .list [
    .map [(.text "id", .text "city"), (.text "renderer", .text "text"),
      (.text "rules", .map [
        (.text "minLength", .map [(.text "value", .text "2")]),
        (.text "max", .map [(.text "value", .bool true)])])],
    .map [(.text "id", .text "guide"), (.text "renderer", .text "switch"),
      (.text "visibleWhen", .list [.map [
        (.text "field", .text "city"), (.text "op", .text "exists")]])]]),
  (.text "layout", .list [
    .map [(.text "kind", .text "section"), (.text "withDivider", .text "no"),
      (.text "children", .list [
        .map [(.text "kind", .text "field"), (.text "colSpan", .float (.ofInt 2)),
          (.text "fieldId", .text "city")]])]])]

/-- The document declares a form that is written otherwise than the document, and what is written
declares that form again. -/
theorem ofDocument_dump_of_tripDocument :
    ∃ form, Form.read tripDocument = .accepted form ∧ form.dump.same tripDocument = false ∧
      ofDocument form.dump = .ok form.restated ∧ form.restated.dump = form.dump := by
  have hform : ∃ form, Form.read tripDocument = .accepted form ∧
      form.dump.same tripDocument = false := ⟨_, rfl, rfl⟩
  obtain ⟨form, hread, hother⟩ := hform
  obtain ⟨hagain, -, hdump⟩ := ofDocument_dump_of_read hread
  exact ⟨form, hread, hother, hagain, hdump⟩

end Form

end FormEngine
