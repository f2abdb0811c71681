import FormEngine.Proofs.Form.Dump
import FormEngine.Proofs.Form.Stopping
import FormEngine.Proofs.Number.Nearest

/-!
# Bounds in documents

How a document bounds a number, and what the form that it declares makes of that.  A document gives
definitions under names (`Form.Gives`), and a definition gives rules under keys (`Field.GivesRule`),
two of which are bounds (`Limit`).

If the document declares a form, then each definition is a field of it (`exists_field_of_read`), and
an integer that is given for a bound is kept as the binary64 number that it rounds to
(`exists_bound_of_read`).
-/

namespace FormEngine

open Checked

/-! ## What a document gives -/

/-- A definition is given under a name: in a mapping by a key that reads as the name, or in a list,
where it gives its id.  Later definitions count before earlier ones. -/
inductive FieldsGive (name : String) (definition : Value) : Value → Prop
  | byKey {before after : Members} {key : Value} : Scalar.readText key = .accepted name →
      (∀ e ∈ after, Scalar.readText e.1 ≠ .accepted name) →
      FieldsGive name definition (.map (before ++ (key, definition) :: after))
  | byId {before after : List Value} : Scalar.readText (Form.listedId definition) = .accepted name →
      (∀ item ∈ after, Scalar.readText (Form.listedId item) ≠ .accepted name) →
      FieldsGive name definition (.list (before ++ definition :: after))

/-- A document gives a definition under a name. -/
def Form.Gives (document : Value) (name : String) (definition : Value) : Prop :=
  ∃ es fields, document = .map es ∧ Value.lookupText "fields" es = some fields ∧
    FieldsGive name definition fields

namespace Field

/-- A definition is that of a number. -/
def IsNumber (definition : Value) : Prop :=
  ∃ es renderer, membersOf? .field definition = some es ∧
    Value.lookupText "renderer" es = some renderer ∧
    Scalar.readEnum Widget.ofName? (Widget.all.map Widget.name) renderer = .accepted .number

/-- A definition gives a rule under a key. -/
def GivesRule (definition : Value) (key : String) (rule : Value) : Prop :=
  ∃ es rules, membersOf? .field definition = some es ∧
    Value.lookupText "rules" es = some (.map rules) ∧ Value.lookupText key rules = some rule

end Field

/-- The two bounds of a number. -/
inductive Limit where
  | least
  | greatest
deriving DecidableEq

namespace Limit

/-- The key under which a bound is given. -/
def key : Limit → String
  | least => "min"
  | greatest => "max"

/-- The rule that sets a bound. -/
def rule? : Limit → Rules → Option (Rule Double)
  | least, rules => rules.min
  | greatest, rules => rules.max

end Limit

/-! ## Members under one spelling -/

namespace Members

variable {α : Type} {es : Members} {key : String} {read : Value → Checked α} {v : Value} {a : α}

lemma read_of_need (h : Value.lookupText key es = some v)
    (hneed : es.need key key read = .accepted a) : read v = .accepted a := by
  rw [need, find?_self, h] at hneed
  exact within_eq_accepted.1 hneed

lemma read_of_take_lookup {default : α} (h : Value.lookupText key es = some v)
    (htake : es.take key key default read = .accepted a) : read v = .accepted a := by
  rw [take, find?_self, h] at htake
  exact within_eq_accepted.1 htake

lemma default_of_take {default : α} (h : Value.lookupText key es = none)
    (htake : es.take key key default read = .accepted a) : a = default := by
  rw [take, find?_self, h] at htake
  exact (Checked.accepted.inj htake).symm

end Members

/-- What is not null and may be null is read as what it is. -/
lemma Scalar.orNull_map_eq_accepted {α : Type} {read : Value → Checked α} {es : Members}
    {a? : Option α} (h : Scalar.orNull read (.map es) = .accepted a?) :
    ∃ a, a? = some a ∧ read (.map es) = .accepted a := by
  obtain ⟨a, hread, rfl⟩ := map_eq_accepted.1 h
  exact ⟨a, rfl, hread⟩

/-! ## Fields -/

variable {host : Predicate.Host}

lemma readEntries_append_cons {α : Type} {read : Value → Checked α} {before after : Members}
    {key v : Value} {entries : List (Text × α)}
    (h : readEntries read (before ++ (key, v) :: after) = .accepted entries) :
    ∃ earlier name a later, entries = earlier ++ (name, a) :: later ∧
      Scalar.readText key = .accepted name ∧ read v = .accepted a ∧
      readEntries read after = .accepted later := by
  induction before generalizing entries with
  | nil =>
      simp only [List.nil_append, readEntries, seq_eq_accepted, map_eq_accepted,
        within_eq_accepted] at h
      obtain ⟨-, later, ⟨-, ⟨-, a, ⟨name, hname, rfl⟩, hread, rfl⟩, rfl⟩, hlater, rfl⟩ := h
      exact ⟨[], name, a, later, rfl, hname, hread, hlater⟩
  | cons e before ih =>
      simp only [List.cons_append, readEntries, seq_eq_accepted, map_eq_accepted] at h
      obtain ⟨-, rest, ⟨first, -, rfl⟩, hrest, rfl⟩ := h
      obtain ⟨earlier, name, a, later, rfl, hparts⟩ := ih hrest
      exact ⟨first :: earlier, name, a, later, rfl, hparts⟩

lemma name_of_readEntries {α : Type} {read : Value → Checked α} {es : Members}
    {entries : List (Text × α)} (h : readEntries read es = .accepted entries) :
    ∀ e ∈ entries, ∃ e' ∈ es, Scalar.readText e'.1 = .accepted e.1 := by
  induction es generalizing entries with
  | nil =>
      obtain rfl := Checked.accepted.inj h
      exact fun e he => absurd he List.not_mem_nil
  | cons e' es ih =>
      simp only [readEntries, seq_eq_accepted, map_eq_accepted, within_eq_accepted] at h
      obtain ⟨-, rest, ⟨-, ⟨-, a, ⟨name, hname, rfl⟩, -, rfl⟩, rfl⟩, hrest, rfl⟩ := h
      intro e he
      rcases List.mem_cons.1 he with rfl | he
      · exact ⟨e', List.mem_cons_self, hname⟩
      · obtain ⟨e'', he'', hread⟩ := ih hrest e he
        exact ⟨e'', List.mem_cons_of_mem _ he'', hread⟩

/-- The last value under a name is what a mapping has under that name. -/
lemma get?_of_readMapping {α : Type} {read : Value → Checked α} {before after : Members}
    {key v : Value} {name : Text} {m : Mapping α}
    (h : readMapping read (.map (before ++ (key, v) :: after)) = .accepted m)
    (hkey : Scalar.readText key = .accepted name)
    (hlast : ∀ e ∈ after, Scalar.readText e.1 ≠ .accepted name) :
    ∃ a, read v = .accepted a ∧ m.get? name = some a := by
  obtain ⟨entries, hentries, rfl⟩ := map_eq_accepted.1 h
  obtain ⟨earlier, name', a, later, rfl, hname, hread, hlater⟩ := readEntries_append_cons hentries
  obtain rfl : name = name' := Checked.accepted.inj (hkey.symm.trans hname)
  have hafter : ∀ e ∈ later.reverse, ¬ e.1 = name := by
    intro e he heq
    obtain ⟨e', he', hread'⟩ := name_of_readEntries hlater e (List.mem_reverse.1 he)
    exact hlast e' he' (heq ▸ hread')
  refine ⟨a, hread, ?_⟩
  have hfind : (earlier ++ (name, a) :: later).reverse.find? (fun e => e.1 = name) =
      some (name, a) := by
    rw [List.reverse_append, List.reverse_cons, List.append_assoc, List.find?_append,
      List.find?_eq_none.2 (by simpa using hafter)]
    simp
  rw [Mapping.ofList, Mapping.get?_setAll, hfind]
  rfl

namespace Form

/-- What is given under a name is read as the field of that name. -/
lemma get?_of_readFields {v definition : Value} {name : String} {fields : Mapping Field}
    (h : readFields v host = .accepted fields) (hgives : FieldsGive name definition v) :
    ∃ f, Field.read definition host = .accepted f ∧ fields.get? name = some f := by
  obtain ⟨fields', hread, hfields⟩ := bind_eq_accepted.1 h
  split at hfields
  · cases hfields
  obtain rfl := Checked.accepted.inj hfields
  obtain ⟨entries, hentries, hread⟩ := bind_eq_accepted.1 hread
  cases hgives with
  | byKey hkey hlast =>
      obtain rfl := Checked.accepted.inj hentries
      exact get?_of_readMapping hread hkey hlast
  | @byId before after hid hlast =>
      obtain ⟨es, hes, rfl⟩ := map_eq_accepted.1 hentries
      obtain ⟨-, rfl⟩ := ((underIds_ends _ identified_nil).1 es).1 hes
      rw [List.nil_append, List.map_append, List.map_cons] at hread
      refine get?_of_readMapping hread hid fun e he => ?_
      obtain ⟨item, hitem, rfl⟩ := List.mem_map.1 he
      exact hlast item hitem

/-- In a document that declares a form every definition is a field of the form. -/
lemma exists_field_of_read {document definition : Value} {name : String} {form : Form}
    (h : Form.read document host = .accepted form) (hgives : Gives document name definition) :
    ∃ f, Field.read definition host = .accepted f ∧
      form.field? name = some { f with id := some name } := by
  obtain ⟨parts, hparts, -, rfl⟩ := named_of_read h
  obtain ⟨es, fields, rfl, hlookup, hfields⟩ := hgives
  obtain ⟨es', hes, -, hneed, -⟩ := readParts_eq_accepted hparts
  obtain rfl := Value.map.inj hes
  obtain ⟨f, hread, hget⟩ := get?_of_readFields (Members.read_of_need hlookup hneed) hfields
  exact ⟨f, hread, by rw [field?, named, Mapping.get?_mapValues, hget]; rfl⟩

end Form

/-! ## Rules -/

namespace Field

variable {definition : Value} {f : Field}

/-- The rules for the two bounds have been read from the members under their keys. -/
lemma take_of_readFrom {es : Members} {rules : Rules} (h : rules.ReadFrom es host)
    (limit : Limit) : es.take limit.key limit.key none (Scalar.orNull Rule.readBound) =
      .accepted (limit.rule? rules) := by
  cases limit with
  | least => exact h.min
  | greatest => exact h.max

lemma widget_of_read (h : Field.read definition host = .accepted f)
    (hnumber : IsNumber definition) : f.widget = .number := by
  obtain ⟨es, renderer, hes, hrenderer, hread⟩ := hnumber
  obtain ⟨es', hes', hmembers⟩ := readFrom_of_read h
  obtain rfl : es = es' := Option.some.inj (hes.symm.trans hes')
  exact Checked.accepted.inj ((Members.read_of_need hrenderer hmembers.widget).symm.trans hread)

/-- A rule that is given for a bound is read under its key. -/
lemma exists_rules_of_read {limit : Limit} {rule : Value}
    (h : Field.read definition host = .accepted f) (hrule : GivesRule definition limit.key rule) :
    ∃ rules, f.rules = some rules ∧
      Scalar.orNull Rule.readBound rule = .accepted (limit.rule? rules) := by
  obtain ⟨es, members, hes, hmembers, hlookup⟩ := hrule
  obtain ⟨es', hes', hfrom⟩ := readFrom_of_read h
  obtain rfl : es = es' := Option.some.inj (hes.symm.trans hes')
  obtain ⟨rules, hrules, hread⟩ :=
    Scalar.orNull_map_eq_accepted (Members.read_of_take_lookup hmembers hfrom.rules)
  obtain ⟨_, hsame, hbounds⟩ := Rules.readFrom_of_read hread
  obtain rfl := Value.map.inj hsame
  exact ⟨rules, hrules, Members.read_of_take_lookup hlookup (take_of_readFrom hbounds limit)⟩

/-- An integer that is given for a bound is kept as the binary64 number nearest to it. -/
lemma exists_bound_of_read {limit : Limit} {members : Members} {n : ℤ}
    (h : Field.read definition host = .accepted f)
    (hrule : GivesRule definition limit.key (.map members))
    (hvalue : Value.lookupText "value" members = some (.int n)) :
    ∃ rules rule, f.rules = some rules ∧ limit.rule? rules = some rule ∧
      readMessage members = .accepted rule.message ∧
      ∃ b : ℤ, rule.demand.toRat? = some (b : ℚ) ∧ Double.RoundsTo n b := by
  obtain ⟨rules, hrules, hread⟩ := exists_rules_of_read h hrule
  obtain ⟨rule, hlimit, hread⟩ := Scalar.orNull_map_eq_accepted hread
  simp only [Rule.readBound, Rule.read, readPart, seq_eq_accepted, map_eq_accepted] at hread
  obtain ⟨_, message, ⟨x, hx, rfl⟩, hmessage, rfl⟩ := hread
  have hdouble := Members.read_of_need hvalue hx
  simp only [Scalar.readDouble, Scalar.doubleOfInteger] at hdouble
  split at hdouble
  next hfinite =>
    obtain rfl := Checked.accepted.inj hdouble
    obtain ⟨b, hb, hround⟩ := Double.exists_roundsTo_ofInt hfinite
    exact ⟨rules, _, hrules, hlimit, hmessage, b, hb, hround⟩
  next => cases hdouble

/-- No rule is kept where none is given, or null. -/
lemma rule?_of_read {limit : Limit} {rules : Rules}
    (h : Field.read definition host = .accepted f) (hrules : f.rules = some rules)
    (hnone : ∀ rule, GivesRule definition limit.key rule → rule = .null) :
    limit.rule? rules = none := by
  obtain ⟨es, hes, hfrom⟩ := readFrom_of_read h
  have htake := hfrom.rules
  rw [hrules] at htake
  cases hlookup : Value.lookupText "rules" es with
  | none => cases Members.default_of_take hlookup htake
  | some v =>
      obtain ⟨members, rfl, hbounds⟩ := Rules.readFrom_of_read
        (Scalar.read_of_orNull (Members.read_of_take_lookup hlookup htake))
      have hbound := take_of_readFrom hbounds limit
      cases hrule : Value.lookupText limit.key members with
      | none => exact Members.default_of_take hrule hbound
      | some rule =>
          have hnull := Members.read_of_take_lookup hrule hbound
          rw [hnone rule ⟨es, members, hes, hlookup, hrule⟩] at hnull
          exact (Checked.accepted.inj hnull).symm

end Field

end FormEngine
