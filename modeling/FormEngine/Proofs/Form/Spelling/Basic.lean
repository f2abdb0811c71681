import Mathlib.Data.List.Find
import Mathlib.Data.List.Forall2
import FormEngine.Form.Reader
import FormEngine.Proofs.Value.Sameness

/-!
# The two spellings of a name

A name of several words may be spelt in camel case or in snake case.  `Respelt` relates documents
that are the same but for the spelling of such names.  Where a name may be respelt depends on what
the part of the document is to the form, its `Role`: members of the form, of fields, of rules and of
the parts of a layout have names that the declaration gives, at whatever depth they stand, whereas
what a declaration only carries, such as a default, has to be the same in both documents.

`Checked.Alike` relates readings of such documents: they end in the same way, and problems are told
with the same causes, at places that differ in spelling at most.  The members of two such mappings
are found by the same names, a name of several words in either spelling, as long as no mapping gives
a name in both (`RespeltModel.found_plain`, `RespeltModel.found_spelt`).
-/

namespace FormEngine

/-! ## Documents that differ in spelling -/

/-- The names of several words, in camel case and in snake case. -/
def spellings : List (String × String) :=
  [("inputType", "input_type"), ("defaultValue", "default_value"), ("visibleWhen", "visible_when"),
    ("minLength", "min_length"), ("maxLength", "max_length"), ("fieldId", "field_id"),
    ("colSpan", "col_span"), ("withDivider", "with_divider")]

/-- Two texts are the same, or the two spellings of a name. -/
def SameName (a b : String) : Prop := a = b ∨ (a, b) ∈ spellings ∨ (b, a) ∈ spellings

/-- What a part of a document is to a form. -/
inductive Role where
  | form
  | fields
  | field
  | rules
  | layout
  | part
  /-- What a declaration only carries. -/
  | data
deriving DecidableEq, Repr

namespace Role

/-- Whether the members of a mapping are named by the declaration. -/
def namesMembers : Role → Bool
  | .form => true
  | .field => true
  | .rules => true
  | .part => true
  | _ => false

/-- The role of what stands under a key of a mapping. -/
def member : Role → Value → Role
  | .form, .text "fields" => .fields
  | .form, .text "layout" => .layout
  | .fields, _ => .field
  | .field, .text "rules" => .rules
  | .part, .text "children" => .layout
  | _, _ => .data

/-- The role of the items of a list. -/
def item : Role → Role
  | .fields => .field
  | .layout => .part
  | _ => .data

/-- Two keys are the same, or the two spellings of a name, where names are given by the
declaration. -/
inductive SameKey (r : Role) : Value → Value → Prop
  | same (key : Value) : SameKey r key key
  | respelt {a b : String} : r.namesMembers = true → SameName a b → SameKey r (.text a) (.text b)

end Role

/-- No name is given in both of its spellings. -/
def Members.Unambiguous (es : Members) : Prop :=
  ∀ s ∈ spellings, ¬ (Value.hasKey (.text s.1) es = true ∧ Value.hasKey (.text s.2) es = true)

instance (es : Members) : Decidable es.Unambiguous :=
  inferInstanceAs (Decidable (∀ s ∈ spellings,
    ¬ (Value.hasKey (.text s.1) es = true ∧ Value.hasKey (.text s.2) es = true)))

mutual

/-- Two documents are the same but for the spelling of names. -/
inductive Respelt : Role → Value → Value → Prop
  | same (r : Role) (v : Value) : Respelt r v v
  | map {r : Role} {es fs : Members} : RespeltMembers r es fs →
      (r.namesMembers = true → es.Unambiguous ∧ fs.Unambiguous) → Respelt r (.map es) (.map fs)
  | list {r : Role} {vs ws : List Value} : RespeltItems r.item vs ws →
      Respelt r (.list vs) (.list ws)
  | tuple {r : Role} {vs ws : List Value} : RespeltItems r.item vs ws →
      Respelt r (.tuple vs) (.tuple ws)
  | set {r : Role} {vs ws : List Value} : RespeltItems r.item vs ws →
      Respelt r (.set vs) (.set ws)

/-- The same of the members of a mapping, one by one. -/
inductive RespeltMembers : Role → Members → Members → Prop
  | nil {r : Role} : RespeltMembers r [] []
  | cons {r : Role} {key other v w : Value} {es fs : Members} : r.SameKey key other →
      Respelt (r.member key) v w → RespeltMembers r es fs →
      RespeltMembers r ((key, v) :: es) ((other, w) :: fs)

/-- The same of the items of a list, one by one. -/
inductive RespeltItems : Role → List Value → List Value → Prop
  | nil {r : Role} : RespeltItems r [] []
  | cons {r : Role} {v w : Value} {vs ws : List Value} : Respelt r v w →
      RespeltItems r vs ws → RespeltItems r (v :: vs) (w :: ws)

end

/-! ### Keys -/

namespace Role.SameKey

variable {r : Role} {key other : Value}

/-- Where the declaration gives no names, keys are the same. -/
lemma eq_of_not_namesMembers (h : r.SameKey key other) (hr : r.namesMembers = false) :
    key = other := by
  cases h with
  | same => rfl
  | respelt hnames => simp [hr] at hnames

end Role.SameKey

/-- A text is no spelling of a name of several words. -/
def IsPlainName (name : String) : Prop := ∀ s ∈ spellings, name ≠ s.1 ∧ name ≠ s.2

instance (name : String) : Decidable (IsPlainName name) :=
  inferInstanceAs (Decidable (∀ s ∈ spellings, name ≠ s.1 ∧ name ≠ s.2))

/-- A plain name is the same only as itself. -/
lemma IsPlainName.eq_of_sameName {name a b : String} (h : IsPlainName name) (hab : SameName a b) :
    name = a ↔ name = b := by
  rcases hab with rfl | hab | hab
  · rfl
  · exact iff_of_false (h _ hab).1 (h _ hab).2
  · exact iff_of_false (h _ hab).2 (h _ hab).1

/-- What stands under a name of several words is only carried, in either spelling. -/
lemma Role.member_of_mem_spellings {r : Role} (hr : r.namesMembers = true) {s : String × String}
    (hs : s ∈ spellings) : r.member (.text s.1) = .data ∧ r.member (.text s.2) = .data := by
  simp only [spellings, List.mem_cons, List.not_mem_nil, or_false] at hs
  rcases hs with rfl | rfl | rfl | rfl | rfl | rfl | rfl | rfl <;>
    cases r <;> first | exact ⟨rfl, rfl⟩ | cases hr

/-! ### What is only carried -/

mutual

/-- What a declaration only carries is the same in both documents. -/
theorem Respelt.eq_of_data : ∀ {r : Role} {v w : Value}, Respelt r v w → r = .data → v = w
  | _, _, _, .same _ _, _ => rfl
  | _, _, _, .map h _, hr => by rw [h.eq_of_data hr]
  | _, _, _, .list h, hr => by rw [h.eq_of_data (by rw [hr]; rfl)]
  | _, _, _, .tuple h, hr => by rw [h.eq_of_data (by rw [hr]; rfl)]
  | _, _, _, .set h, hr => by rw [h.eq_of_data (by rw [hr]; rfl)]

/-- The same of the members of a mapping. -/
theorem RespeltMembers.eq_of_data : ∀ {r : Role} {es fs : Members}, RespeltMembers r es fs →
    r = .data → es = fs
  | _, _, _, .nil, _ => rfl
  | _, _, _, .cons hkey hv h, hr => by
      rw [hkey.eq_of_not_namesMembers (by rw [hr]; rfl), hv.eq_of_data (by rw [hr]; rfl),
        h.eq_of_data hr]

/-- The same of the items of a list. -/
theorem RespeltItems.eq_of_data : ∀ {r : Role} {vs ws : List Value}, RespeltItems r vs ws →
    r = .data → vs = ws
  | _, _, _, .nil, _ => rfl
  | _, _, _, .cons hv h, hr => by rw [hv.eq_of_data hr, h.eq_of_data hr]

end

/-! ## Readings that are alike -/

/-- Two steps lead to members of the same name, or are the same. -/
inductive Step.Alike : Step → Step → Prop
  | same (s : Step) : Step.Alike s s
  | name {a b : String} : SameName a b → Step.Alike (.name a) (.name b)

/-- Two problems have the same cause, at places that differ in spelling at most. -/
structure Problem.Alike (p q : Problem) : Prop where
  place : List.Forall₂ Step.Alike p.place q.place
  cause : p.cause = q.cause

lemma Problem.Alike.refl (p : Problem) : p.Alike p :=
  ⟨List.forall₂_same.2 fun s _ => .same s, rfl⟩

namespace Checked

variable {α β γ δ : Type} {R : α → β → Prop} {S : γ → δ → Prop}

/-- Two readings end in the same way: with what corresponds, with the same problems at places that
differ in spelling at most, or with the same fault. -/
inductive Alike (R : α → β → Prop) : Checked α → Checked β → Prop
  | accepted {a : α} {b : β} : R a b → Alike R (.accepted a) (.accepted b)
  | rejected {ps qs : List Problem} : List.Forall₂ Problem.Alike ps qs →
      Alike R (.rejected ps) (.rejected qs)
  | stopped (fault : ReadFault) : Alike R (.stopped fault) (.stopped fault)

namespace Alike

lemma refl (c : Checked α) : Alike Eq c c := by
  cases c with
  | accepted a => exact .accepted rfl
  | rejected ps => exact .rejected (List.forall₂_same.2 fun p _ => .refl p)
  | stopped fault => exact .stopped fault

lemma problem (cause : Cause) : Alike R (.problem cause) (.problem cause) :=
  .rejected (.cons (.refl _) .nil)

lemma objected (o : Objection) : Alike R (.objected o) (.objected o) := by
  unfold Checked.objected
  split
  · exact .problem _
  · exact .stopped _

lemma map {c : Checked α} {d : Checked β} {f : α → γ} {g : β → δ} (h : Alike R c d)
    (hfg : ∀ a b, R a b → S (f a) (g b)) : Alike S (f <$> c) (g <$> d) := by
  cases h with
  | accepted hab => exact .accepted (hfg _ _ hab)
  | rejected hps => exact .rejected hps
  | stopped fault => exact .stopped fault

lemma seq {f g : Checked (α → γ)} {c d : Checked α} (hf : Alike Eq f g) (hc : Alike Eq c d) :
    Alike Eq (f <*> c) (g <*> d) := by
  cases hf with
  | stopped fault => exact .stopped fault
  | accepted hfun =>
      subst hfun
      cases hc with
      | accepted ha => exact .accepted (congrArg _ ha)
      | rejected hqs => exact .rejected hqs
      | stopped fault => exact .stopped fault
  | rejected hps =>
      cases hc with
      | accepted _ => exact .rejected hps
      | rejected hqs => exact .rejected (List.rel_append hps hqs)
      | stopped fault => exact .stopped fault

lemma bind {c : Checked α} {d : Checked β} {f : α → Checked γ} {g : β → Checked δ}
    (h : Alike R c d) (hfg : ∀ a b, R a b → Alike S (f a) (g b)) :
    Alike S (c.bind f) (d.bind g) := by
  cases h with
  | accepted hab => exact hfg _ _ hab
  | rejected hps => exact .rejected hps
  | stopped fault => exact .stopped fault

lemma within {c : Checked α} {d : Checked β} {s t : Step} (h : Alike R c d) (hst : s.Alike t) :
    Alike R (c.within s) (d.within t) := by
  cases h with
  | accepted hab => exact .accepted hab
  | rejected hps =>
      refine .rejected (List.forall₂_map_left_iff.2 (List.forall₂_map_right_iff.2 ?_))
      exact hps.imp fun _ _ hpq => ⟨.cons hst hpq.place, hpq.cause⟩
  | stopped fault => exact .stopped fault

/-- Readings that are alike declare the same. -/
lemma accepted_iff {c d : Checked α} (h : Alike Eq c d) (a : α) :
    c = .accepted a ↔ d = .accepted a := by
  cases h with
  | accepted hab => simp [hab]
  | rejected _ => simp
  | stopped _ => simp

end Alike

end Checked

open Checked (Alike)

/-! ## Members of documents that differ in spelling -/

lemma Value.lookupText_cons (name : String) (e : Value × Value) (es : Members) :
    Value.lookupText name (e :: es) =
      if Value.same (.text name) e.1 = true then some e.2 else Value.lookupText name es := by
  unfold Value.lookupText Value.lookup
  rw [List.find?_cons]
  cases Value.same (.text name) e.1 <;> rfl

/-- Members with the same keys and a role each for their values, whose names are not ambiguous. -/
structure RespeltModel (r : Role) (es fs : Members) : Prop where
  names : r.namesMembers = true
  members : RespeltMembers r es fs
  left : es.Unambiguous
  right : fs.Unambiguous

/-- What is found by a name in two documents: nothing in both, or values in a role, under the same
name. -/
def Found (r : Role) : Option (String × Value) → Option (String × Value) → Prop :=
  Option.Rel fun x y => SameName x.1 y.1 ∧ Respelt r x.2 y.2

/-! ### Plain names -/

/-- Keys that are the same are found by the same plain names. -/
lemma Role.SameKey.same_text {r : Role} {key other : Value} {name : String}
    (h : r.SameKey key other) (hname : IsPlainName name) :
    Value.same (.text name) key = Value.same (.text name) other := by
  cases h with
  | same => rfl
  | respelt _ hab =>
      rw [Bool.eq_iff_iff, Value.same_text_iff, Value.same_text_iff, Value.text.injEq,
        Value.text.injEq, Text.plain.injEq, Text.plain.injEq, eq_comm, hname.eq_of_sameName hab,
        eq_comm]

theorem RespeltMembers.lookupText {name : String} (hname : IsPlainName name) :
    ∀ {r : Role} {es fs : Members}, RespeltMembers r es fs →
      Option.Rel (Respelt (r.member (.text name))) (Value.lookupText name es)
        (Value.lookupText name fs)
  | _, _, _, .nil => .none
  | r, (key, v) :: es, (other, w) :: fs, .cons hkey hv h => by
      rw [Value.lookupText_cons, Value.lookupText_cons, ← hkey.same_text hname]
      by_cases hsame : Value.same (.text name) key = true
      · obtain rfl := Value.same_text_iff.1 hsame
        rw [if_pos hsame, if_pos hsame]
        exact .some hv
      · rw [if_neg hsame, if_neg hsame]
        exact h.lookupText hname

namespace RespeltModel

variable {r s : Role} {es fs : Members}

lemma found_plain (h : RespeltModel r es fs) {a b : String} (ha : IsPlainName a)
    (hb : IsPlainName b) (hra : r.member (.text a) = s) (hrb : r.member (.text b) = s) :
    Found s (es.find? a b) (fs.find? a b) := by
  have hfirst := h.members.lookupText ha
  have hsecond := h.members.lookupText hb
  rw [hra] at hfirst
  rw [hrb] at hsecond
  unfold Members.find?
  generalize Value.lookupText a es = x, Value.lookupText a fs = y at hfirst
  cases hfirst with
  | some hv => exact .some ⟨.inl rfl, hv⟩
  | none =>
      generalize Value.lookupText b es = x, Value.lookupText b fs = y at hsecond
      cases hsecond with
      | some hv => exact .some ⟨.inl rfl, hv⟩
      | none => exact .none

end RespeltModel

/-! ### Names of several words -/

/-- Whether a key is one of the two spellings of a name. -/
def spells (s : String × String) (key : Value) : Bool := key.isText s.1 || key.isText s.2

lemma spells_text_iff {s : String × String} {a : Text} :
    spells s (.text a) = true ↔ a = s.1 ∨ a = s.2 := by
  simp [spells, Value.isText]

/-- The spellings of different names are different. -/
lemma eq_spelling_iff {s t : String × String} (hs : s ∈ spellings) (ht : t ∈ spellings) :
    t.1 = s.1 ∨ t.1 = s.2 ↔ t.2 = s.1 ∨ t.2 = s.2 := by
  have hall : ∀ s ∈ spellings, ∀ t ∈ spellings,
      (t.1 = s.1 ∨ t.1 = s.2 ↔ t.2 = s.1 ∨ t.2 = s.2) := by decide
  exact hall s hs t ht

lemma Role.SameKey.spells_eq {r : Role} {key other : Value} {s : String × String}
    (h : r.SameKey key other) (hs : s ∈ spellings) : spells s key = spells s other := by
  cases h with
  | same => rfl
  | respelt _ hab =>
      rw [Bool.eq_iff_iff, spells_text_iff, spells_text_iff]
      simp only [Text.plain.injEq]
      rcases hab with rfl | hab | hab
      · rfl
      · exact eq_spelling_iff hs hab
      · exact (eq_spelling_iff hs hab).symm

/-- The value of the first member whose key is one of the two spellings of a name. -/
def Members.either? (s : String × String) (es : Members) : Option Value :=
  (List.find? (fun e => spells s e.1) es).map (·.2)

lemma Members.either?_cons (s : String × String) (e : Value × Value) (es : Members) :
    Members.either? s (e :: es) =
      if spells s e.1 = true then some e.2 else Members.either? s es := by
  unfold Members.either?
  rw [List.find?_cons]
  cases spells s e.1 <;> rfl

/-- In either spelling the same value is found in both documents. -/
theorem RespeltMembers.either?_eq {s : String × String} (hs : s ∈ spellings) :
    ∀ {r : Role} {es fs : Members}, RespeltMembers r es fs → r.namesMembers = true →
      Members.either? s es = Members.either? s fs
  | _, _, _, .nil, _ => rfl
  | r, (key, v) :: es, (other, w) :: fs, .cons hkey hv h, hr => by
      rw [Members.either?_cons, Members.either?_cons, ← hkey.spells_eq hs]
      by_cases hspells : spells s key = true
      · have hdata : r.member key = .data := by
          unfold spells at hspells
          cases key with
          | text a =>
              rcases spells_text_iff.1 hspells with rfl | rfl
              · exact (Role.member_of_mem_spellings hr hs).1
              · exact (Role.member_of_mem_spellings hr hs).2
          | _ => cases hspells
        rw [if_pos hspells, if_pos hspells, hv.eq_of_data hdata]
      · rw [if_neg hspells, if_neg hspells, h.either?_eq hs hr]

lemma Value.isText_eq_same (text : String) (v : Value) :
    v.isText text = Value.same (.text text) v := by
  cases v <;> simp [Value.isText, Value.same, eq_comm]

lemma Value.lookupText_of_not_hasKey {name : String} {es : Members}
    (h : Value.hasKey (.text name) es = false) : Value.lookupText name es = none := by
  unfold Value.hasKey at h
  rw [Value.lookupText, Value.lookup, List.find?_eq_none.2 (by simpa using h)]
  rfl

/-- Where one spelling of a name is missing, what is found in either spelling is found in the
other. -/
lemma Members.either?_of_not_hasKey {s : String × String} {es : Members} {missing other : String}
    (hspells : ∀ key, spells s key = (key.isText missing || key.isText other))
    (h : Value.hasKey (.text missing) es = false) :
    Members.either? s es = Value.lookupText other es := by
  unfold Value.hasKey at h
  unfold Members.either? Value.lookupText Value.lookup
  congr 1
  refine List.find?_congr fun e he => ?_
  have hmissing : Value.same (.text missing) e.1 = false := by
    simpa using List.any_eq_false.1 h e he
  rw [hspells, Value.isText_eq_same, Value.isText_eq_same, hmissing, Bool.false_or]

/-- Of a name that is not ambiguous the first member in either spelling is found. -/
lemma Members.find?_eq_either? {es : Members} (h : es.Unambiguous) {s : String × String}
    (hs : s ∈ spellings) :
    ∃ name, (name = s.1 ∨ name = s.2) ∧
      Members.find? es s.1 s.2 = (Members.either? s es).map (name, ·) := by
  unfold Members.find?
  cases hfirst : Value.hasKey (.text s.1) es with
  | false =>
      refine ⟨s.2, .inr rfl, ?_⟩
      rw [Value.lookupText_of_not_hasKey hfirst,
        Members.either?_of_not_hasKey (fun _ => rfl) hfirst]
  | true =>
      have hsecond : Value.hasKey (.text s.2) es = false := by
        simpa [hfirst] using h s hs
      refine ⟨s.1, .inl rfl, ?_⟩
      rw [Value.lookupText_of_not_hasKey hsecond,
        Members.either?_of_not_hasKey (fun _ => Bool.or_comm ..) hsecond]
      cases Value.lookupText s.1 es <;> rfl

lemma sameName_of_spelling {s : String × String} (hs : s ∈ spellings) {a b : String}
    (ha : a = s.1 ∨ a = s.2) (hb : b = s.1 ∨ b = s.2) : SameName a b := by
  rcases ha with rfl | rfl <;> rcases hb with rfl | rfl
  · exact .inl rfl
  · exact .inr (.inl hs)
  · exact .inr (.inr hs)
  · exact .inl rfl

/-! ### Reading members -/

namespace RespeltModel

variable {r s : Role} {es fs : Members} {α : Type} {a b : String} {read : Value → Checked α}

lemma found_spelt (h : RespeltModel r es fs) (hs : (a, b) ∈ spellings) :
    Found .data (es.find? a b) (fs.find? a b) := by
  obtain ⟨name, hname, hes⟩ := Members.find?_eq_either? h.left hs
  obtain ⟨other, hother, hfs⟩ := Members.find?_eq_either? h.right hs
  dsimp only at hes hfs
  rw [hes, hfs, h.members.either?_eq hs h.names]
  cases Members.either? (a, b) fs with
  | none => exact .none
  | some v => exact .some ⟨sameName_of_spelling hs hname hother, .same _ _⟩

end RespeltModel

section

variable {s : Role} {es fs : Members} {α : Type} {a b : String} {read : Value → Checked α}

lemma Found.need (h : Found s (es.find? a b) (fs.find? a b))
    (hread : ∀ v w, Respelt s v w → Alike Eq (read v) (read w)) :
    Alike Eq (es.need a b read) (fs.need a b read) := by
  unfold Members.need
  generalize es.find? a b = x, fs.find? a b = y at h
  cases h with
  | none => exact .refl _
  | some hfound => exact (hread _ _ hfound.2).within (.name hfound.1)

lemma Found.take (h : Found s (es.find? a b) (fs.find? a b)) {default : α}
    (hread : ∀ v w, Respelt s v w → Alike Eq (read v) (read w)) :
    Alike Eq (es.take a b default read) (fs.take a b default read) := by
  unfold Members.take
  generalize es.find? a b = x, fs.find? a b = y at h
  cases h with
  | none => exact .refl _
  | some hfound => exact (hread _ _ hfound.2).within (.name hfound.1)

/-- Whatever is read from what is only carried, is the same. -/
lemma alike_of_data (read : Value → Checked α) :
    ∀ v w, Respelt .data v w → Alike Eq (read v) (read w) := by
  intro v w h
  rw [h.eq_of_data rfl]
  exact .refl _

end

/-! ### Reading members that are only carried -/

namespace RespeltModel

variable {r : Role} {es fs : Members} {α : Type} {a b : String} {read : Value → Checked α}

lemma need_carried (h : RespeltModel r es fs)
    (ha : IsPlainName a ∧ r.member (.text a) = .data) :
    Alike Eq (es.need a a read) (fs.need a a read) :=
  (h.found_plain ha.1 ha.1 ha.2 ha.2).need (alike_of_data read)

lemma take_carried (h : RespeltModel r es fs)
    (ha : IsPlainName a ∧ r.member (.text a) = .data) {default : α} :
    Alike Eq (es.take a a default read) (fs.take a a default read) :=
  (h.found_plain ha.1 ha.1 ha.2 ha.2).take (alike_of_data read)

lemma take_spelt (h : RespeltModel r es fs) (hs : (a, b) ∈ spellings) {default : α} :
    Alike Eq (es.take a b default read) (fs.take a b default read) :=
  (h.found_spelt hs).take (alike_of_data read)

end RespeltModel

end FormEngine
