import FormEngine.Form.Document
import FormEngine.Proofs.Form.Agreement

/-!
# What a reading that declares has read

A reading that combines others declares something only if each of them does, and what it declares is
put together from theirs.  So what is known of everything that can be read from a value is known of
what a member declares (`Members.need_eq_accepted`, `Members.take_eq_accepted`) and of all values of
a mapping that is read (`holds_of_readMapping`).
-/

namespace FormEngine

/-! ## Combined readings -/

namespace Checked

variable {α β : Type}

lemma map_eq_accepted {f : α → β} {c : Checked α} {b : β} :
    (f <$> c) = .accepted b ↔ ∃ a, c = .accepted a ∧ f a = b := by
  cases c <;> simp [Functor.map, map]

lemma seq_eq_accepted {f : Checked (α → β)} {c : Checked α} {b : β} :
    (f <*> c) = .accepted b ↔ ∃ g a, f = .accepted g ∧ c = .accepted a ∧ g a = b :=
  apply_eq_accepted

end Checked

/-! ## Members -/

lemma Value.mem_of_lookupText {key : String} {es : Members} {v : Value}
    (h : Value.lookupText key es = some v) : ∃ e ∈ es, e.2 = v := by
  rw [lookupText, lookup, Option.map_eq_some_iff] at h
  obtain ⟨e, he, rfl⟩ := h
  exact ⟨e, List.mem_of_find?_eq_some he, rfl⟩

namespace Members

variable {α : Type} {es : Members} {spelling other : String} {read : Value → Checked α} {a : α}

lemma mem_of_find? {key : String} {v : Value} (h : es.find? spelling other = some (key, v)) :
    ∃ e ∈ es, e.2 = v := by
  unfold find? at h
  split at h
  next hlookup =>
    obtain ⟨-, rfl⟩ := Prod.mk.inj (Option.some.inj h)
    exact Value.mem_of_lookupText hlookup
  next =>
    obtain ⟨w, hw, hpair⟩ := Option.map_eq_some_iff.1 h
    obtain ⟨-, rfl⟩ := Prod.mk.inj hpair
    exact Value.mem_of_lookupText hw

/-- What a member declares has been read from its value. -/
lemma need_eq_accepted (h : es.need spelling other read = .accepted a) :
    ∃ e ∈ es, read e.2 = .accepted a := by
  unfold need at h
  split at h
  next key v hfind =>
    obtain ⟨e, he, rfl⟩ := mem_of_find? hfind
    exact ⟨e, he, Checked.within_eq_accepted.1 h⟩
  next => cases h

lemma take_eq_accepted {default : α} (h : es.take spelling other default read = .accepted a) :
    a = default ∨ ∃ e ∈ es, read e.2 = .accepted a := by
  unfold take at h
  split at h
  next key v hfind =>
    obtain ⟨e, he, rfl⟩ := mem_of_find? hfind
    exact .inr ⟨e, he, Checked.within_eq_accepted.1 h⟩
  next => exact .inl (Checked.accepted.inj h).symm

end Members

section

variable {α : Type} {read : Value → Checked α}

lemma readEntries_eq_accepted {es : Members} {entries : List (Text × α)}
    (h : readEntries read es = .accepted entries) :
    ∀ e ∈ entries, ∃ e' ∈ es, read e'.2 = .accepted e.2 := by
  induction es generalizing entries with
  | nil =>
      obtain rfl := Checked.accepted.inj h
      exact fun e he => absurd he List.not_mem_nil
  | cons e' es ih =>
      obtain ⟨key, v⟩ := e'
      simp only [readEntries, Checked.seq_eq_accepted, Checked.map_eq_accepted,
        Checked.within_eq_accepted] at h
      obtain ⟨-, rest, ⟨-, ⟨-, a, ⟨name, -, rfl⟩, hread, rfl⟩, rfl⟩, hrest, rfl⟩ := h
      intro e he
      rcases List.mem_cons.1 he with rfl | he
      · exact ⟨(key, v), by simp, hread⟩
      · obtain ⟨e', he', hread⟩ := ih hrest e he
        exact ⟨e', by simp [he'], hread⟩

/-- What holds of everything that can be read from the values of a mapping holds of the mapping
that is read. -/
lemma holds_of_readMapping {P : α → Prop} {v : Value} {m : Mapping α}
    (h : readMapping read v = .accepted m)
    (hread : ∀ es, v = .map es → ∀ e ∈ es, ∀ a, read e.2 = .accepted a → P a) : m.Holds P := by
  cases v with
  | map es =>
      obtain ⟨entries, hentries, rfl⟩ := Checked.map_eq_accepted.1 h
      refine Mapping.Holds.ofList fun e he => ?_
      obtain ⟨e', he', ha⟩ := readEntries_eq_accepted hentries e he
      exact hread es rfl e' he' e.2 ha
  | _ => cases h

end

/-! ## Rules and fields -/

/-- The members that rules have been read from. -/
structure Rules.ReadFrom (rules : Rules) (es : Members) (host : Predicate.Host) : Prop where
  required : es.take "required" "required" (.flag false) Requirement.read =
    .accepted rules.required
  minLength : es.take "minLength" "min_length" none (Scalar.orNull Rule.readLength) =
    .accepted rules.minLength
  maxLength : es.take "maxLength" "max_length" none (Scalar.orNull Rule.readLength) =
    .accepted rules.maxLength
  min : es.take "min" "min" none (Scalar.orNull Rule.readBound) = .accepted rules.min
  max : es.take "max" "max" none (Scalar.orNull Rule.readBound) = .accepted rules.max
  pattern : es.take "pattern" "pattern" none (Scalar.orNull Rule.readPattern) =
    .accepted rules.pattern
  predicate : es.take "validate" "validate_" none (Scalar.orNull (Predicate.read · host)) =
    .accepted rules.predicate

lemma Rules.readFrom_of_read {v : Value} {host : Predicate.Host} {rules : Rules}
    (h : Rules.read v host = .accepted rules) : ∃ es, v = .map es ∧ rules.ReadFrom es host := by
  unfold Rules.read readPart at h
  split at h
  next es =>
    simp only [Checked.seq_eq_accepted, Checked.map_eq_accepted] at h
    -- the members in reverse order of their declaration
    obtain ⟨_, predicate, ⟨_, pattern, ⟨_, max, ⟨_, min, ⟨_, maxLength, ⟨_, minLength,
      ⟨required, hrequired, rfl⟩, hminLength, rfl⟩, hmaxLength, rfl⟩, hmin, rfl⟩, hmax, rfl⟩,
      hpattern, rfl⟩, hpredicate, rfl⟩ := h
    exact ⟨es, rfl, hrequired, hminLength, hmaxLength, hmin, hmax, hpattern, hpredicate⟩
  next => cases h

/-- The members that a field has been read from. -/
structure Field.ReadFrom (f : Field) (es : Members) (host : Predicate.Host) : Prop where
  id : es.take "id" "id" none (Scalar.orNull Scalar.readText) = .accepted f.id
  label : es.take "label" "label" ("" : Text) Scalar.readText = .accepted f.label
  widget : es.need "renderer" "renderer"
    (Scalar.readEnum Widget.ofName? (Widget.all.map Widget.name)) = .accepted f.widget
  inputType : es.take "inputType" "input_type" none (Scalar.orNull Scalar.readText) =
    .accepted f.inputType
  placeholder : es.take "placeholder" "placeholder" none (Scalar.orNull Scalar.readText) =
    .accepted f.placeholder
  default : es.take "defaultValue" "default_value" none (fun v => .accepted (some v)) =
    .accepted f.default
  props : es.take "props" "props" .empty (readMapping .accepted) = .accepted f.props
  rules : es.take "rules" "rules" none (Scalar.orNull (Rules.read · host)) = .accepted f.rules
  visibleWhen : es.take "visibleWhen" "visible_when" none (Scalar.orNull VisibilityRule.read) =
    .accepted f.visibleWhen

lemma Field.readFrom_of_read {v : Value} {host : Predicate.Host} {f : Field}
    (h : Field.read v host = .accepted f) :
    ∃ es, membersOf? .field v = some es ∧ f.ReadFrom es host := by
  unfold Field.read at h
  split at h
  next => cases h
  next es hes =>
    simp only [Checked.seq_eq_accepted, Checked.map_eq_accepted] at h
    -- the members in reverse order of their declaration
    obtain ⟨_, visibleWhen, ⟨_, rules, ⟨_, props, ⟨_, default, ⟨_, placeholder, ⟨_, inputType,
      ⟨_, widget, ⟨_, label, ⟨id, hid, rfl⟩, hlabel, rfl⟩, hwidget, rfl⟩, hinputType, rfl⟩,
      hplaceholder, rfl⟩, hdefault, rfl⟩, hprops, rfl⟩, hrules, rfl⟩, hvisibleWhen, rfl⟩ := h
    exact ⟨es, hes, hid, hlabel, hwidget, hinputType, hplaceholder, hdefault, hprops, hrules,
      hvisibleWhen⟩

/-! ## Forms -/

namespace Form

/-- The fields of a list are put under their ids as they are. -/
lemma mem_of_underIds {vs : List Value} {before es : Members}
    (h : underIds vs before = .accepted es) : ∀ e ∈ es, e ∈ before ∨ e.2 ∈ vs := by
  induction vs generalizing before with
  | nil =>
      obtain rfl := Checked.accepted.inj h
      exact fun e he => .inl he
  | cons v vs ih =>
      unfold underIds at h
      simp only at h
      split at h
      · exact absurd h objected_ne_accepted
      · split at h
        · cases h
        · split at h
          · exact absurd h objected_ne_accepted
          · intro e he
            rcases ih h e he with he | he
            · rcases List.mem_append.1 he with he | he
              · exact .inl he
              · obtain rfl := List.mem_singleton.1 he
                exact .inr (by simp)
            · exact .inr (by simp [he])

/-- Fields that have been read are some, and each has been read from a value. -/
lemma readFields_eq_accepted {v : Value} {host : Predicate.Host} {fields : Mapping Field}
    (h : readFields v host = .accepted fields) :
    fields.isEmpty = false ∧ fields.Holds fun f => ∃ w, Field.read w host = .accepted f := by
  obtain ⟨fields', hread, hfields⟩ := Checked.bind_eq_accepted.1 h
  split at hfields
  · cases hfields
  next hfull =>
    obtain rfl := Checked.accepted.inj hfields
    obtain ⟨entries, -, hread⟩ := Checked.bind_eq_accepted.1 hread
    exact ⟨Bool.eq_false_iff.2 hfull, holds_of_readMapping hread fun _ _ e _ f hf => ⟨e.2, hf⟩⟩

/-- The parts of a form have been read from the members of a mapping. -/
lemma readParts_eq_accepted {v : Value} {host : Predicate.Host} {form : Form}
    (h : readParts v host = .accepted form) :
    ∃ es : Members, v = .map es ∧ es.need "id" "id" Scalar.readName = .accepted form.id ∧
      es.need "fields" "fields" (readFields · host) = .accepted form.fields ∧
      es.take "layout" "layout" [] Layout.readAll = .accepted form.layout := by
  unfold readParts readPart at h
  cases v with
  | map es =>
      simp only [Checked.seq_eq_accepted, Checked.map_eq_accepted] at h
      obtain ⟨_, layout, ⟨_, fields, ⟨_, intro, ⟨id, hid, rfl⟩, -, rfl⟩, hfields, rfl⟩, hlayout,
        rfl⟩ := h
      exact ⟨es, rfl, hid, hfields, hlayout⟩
  | _ => cases h

/-- A document that declares a form is read as one. -/
lemma read_of_ofDocument {document : Value} {form : Form} (h : ofDocument document = .ok form) :
    Form.read document = .accepted form := by
  unfold ofDocument at h
  split at h
  next =>
    split at h
    next haccepted =>
      obtain rfl := Except.ok.inj h
      exact haccepted
    next => cases h
    next => cases h
  next => cases h

end Form

end FormEngine
