import FormEngine.Form.Document
import FormEngine.Proofs.Form.Spelling.Basic

/-!
# Reading documents that differ in spelling

Every reader of a part of a form takes documents that differ in the spelling of names to readings
that are alike, one lemma for each reader.  So two such documents declare the same form, or neither
declares one, and then the same problems are told of both (`Form.declared_of_respelt`).
-/

namespace FormEngine

open Checked (Alike)

/-! ## Members and parts -/

section

variable {α β : Type} {host : Predicate.Host}

lemma Checked.Alike.app {c d : Checked α} (h : Alike Eq c d) (f : α → β) :
    Alike Eq (f <$> c) (f <$> d) :=
  h.map fun _ _ hab => congrArg f hab

lemma Respelt.orNull {r : Role} {read : Value → Checked α}
    (hread : ∀ v w, Respelt r v w → Alike Eq (read v) (read w)) (v w : Value)
    (h : Respelt r v w) : Alike Eq (Scalar.orNull read v) (Scalar.orNull read w) := by
  have hsome := (hread v w h).app some
  cases h with
  | same => exact .refl _
  | map _ _ => exact hsome
  | list _ => exact hsome
  | tuple _ => exact hsome
  | set _ => exact hsome

lemma Respelt.readPart {r : Role} {name : String} {read : Members → Checked α}
    (hr : r.namesMembers = true)
    (hread : ∀ es fs, RespeltModel r es fs → Alike Eq (read es) (read fs)) {v w : Value}
    (h : Respelt r v w) : Alike Eq (readPart name read v) (readPart name read w) := by
  cases h with
  | same => exact .refl _
  | map hmembers hnames => exact hread _ _ ⟨hr, hmembers, (hnames hr).1, (hnames hr).2⟩
  | list _ => exact .problem _
  | tuple _ => exact .problem _
  | set _ => exact .problem _

lemma Respelt.readRules (v w : Value) (h : Respelt .rules v w) :
    Alike Eq (Rules.read v host) (Rules.read w host) := by
  refine h.readPart rfl fun es fs model => ?_
  have hpredicate := model.found_plain (s := .data) (a := "validate") (b := "validate_")
    (by decide) (by decide) rfl rfl
  refine .seq (.seq (.seq (.seq (.seq (.seq (.app ?_ _) ?_) ?_) ?_) ?_) ?_)
    (hpredicate.take (alike_of_data _))
  · exact model.take_carried (by decide)
  · exact model.take_spelt (by decide)
  · exact model.take_spelt (by decide)
  · exact model.take_carried (by decide)
  · exact model.take_carried (by decide)
  · exact model.take_carried (by decide)

lemma RespeltModel.readField {es fs : Members} (model : RespeltModel .field es fs) :
    Alike Eq (Field.read (.map es) host) (Field.read (.map fs) host) := by
  have hrules := model.found_plain (s := .rules) (a := "rules") (b := "rules")
    (by decide) (by decide) rfl rfl
  refine .seq (.seq (.seq (.seq (.seq (.seq (.seq (.seq (.app ?_ _) ?_) ?_) ?_) ?_) ?_) ?_)
    (hrules.take (Respelt.orNull Respelt.readRules))) ?_
  · exact model.take_carried (by decide)
  · exact model.take_carried (by decide)
  · exact model.need_carried (by decide)
  · exact model.take_spelt (by decide)
  · exact model.take_carried (by decide)
  · exact model.take_spelt (by decide)
  · exact model.take_carried (by decide)
  · exact model.take_spelt (by decide)

lemma Respelt.readField (v w : Value) (h : Respelt .field v w) :
    Alike Eq (Field.read v host) (Field.read w host) := by
  cases h with
  | same => exact .refl _
  | map hmembers hnames =>
      exact RespeltModel.readField ⟨rfl, hmembers, (hnames rfl).1, (hnames rfl).2⟩
  | list _ => exact .problem _
  | tuple _ => exact .problem _
  | set _ => exact .problem _

/-! ### Fields under their names -/

theorem RespeltMembers.readFieldEntries : ∀ {r : Role} {es fs : Members},
    RespeltMembers r es fs → r = .fields →
      Alike Eq (readEntries (Field.read · host) es) (readEntries (Field.read · host) fs)
  | _, _, _, .nil, _ => .refl _
  | _, (key, v) :: es, (other, w) :: fs, .cons hkey hv h, hr => by
      obtain rfl := hkey.eq_of_not_namesMembers (by rw [hr]; rfl)
      subst hr
      exact (((Alike.refl _).app _ |>.seq ((hv.readField _ _).within (.same _))).app _).seq
        (h.readFieldEntries rfl)

theorem RespeltMembers.hasKey_eq (key : Value) : ∀ {r : Role} {es fs : Members},
    RespeltMembers r es fs → r = .fields → Value.hasKey key es = Value.hasKey key fs
  | _, _, _, .nil, _ => rfl
  | _, _, _, .cons hkey _ h, hr => by
      have hrest := h.hasKey_eq key hr
      unfold Value.hasKey at hrest ⊢
      rw [List.any_cons, List.any_cons, hrest, hkey.eq_of_not_namesMembers (by rw [hr]; rfl)]

theorem RespeltMembers.concat {r : Role} {key v w : Value} (hv : Respelt (r.member key) v w) :
    ∀ {es fs : Members}, RespeltMembers r es fs →
      RespeltMembers r (es ++ [(key, v)]) (fs ++ [(key, w)])
  | _, _, .nil => .cons (.same key) hv .nil
  | _, _, .cons hkey hv' h => .cons hkey hv' (h.concat hv)

lemma Respelt.listedId_eq {v w : Value} (h : Respelt .field v w) :
    Form.listedId v = Form.listedId w := by
  cases h with
  | same => rfl
  | list _ => rfl
  | tuple _ => rfl
  | set _ => rfl
  | @map _ es fs hmembers _ =>
      have hid : Option.Rel (Respelt .data) (Value.lookupText "id" es)
          (Value.lookupText "id" fs) := hmembers.lookupText (show IsPlainName "id" by decide)
      unfold Form.listedId membersOf?
      simp only [Option.bind_some]
      generalize Value.lookupText "id" es = x, Value.lookupText "id" fs = y at hid
      cases hid with
      | none => rfl
      | some hv => rw [hv.eq_of_data rfl]

theorem RespeltItems.underIds : ∀ {r : Role} {vs ws : List Value}, RespeltItems r vs ws →
    r = .field → ∀ {es fs : Members}, RespeltMembers .fields es fs →
      Alike (RespeltMembers .fields) (Form.underIds vs es) (Form.underIds ws fs)
  | _, _, _, .nil, _, _, _, hes => .accepted hes
  | _, v :: vs, w :: ws, .cons hv h, hr, es, fs, hes => by
      subst hr
      unfold Form.underIds
      dsimp only
      rw [← hv.listedId_eq]
      split
      · exact .objected _
      · split
        · exact .stopped _
        · rw [hes.hasKey_eq _ rfl]
          split
          · exact .objected _
          · exact h.underIds rfl (hes.concat (r := .fields) hv)

lemma Respelt.readFields (v w : Value) (h : Respelt .fields v w) :
    Alike Eq (Form.readFields v host) (Form.readFields w host) := by
  have hmap : ∀ {es fs : Members}, RespeltMembers .fields es fs →
      Alike Eq (readMapping (Field.read · host) (.map es))
        (readMapping (Field.read · host) (.map fs)) :=
    fun hes => (hes.readFieldEntries rfl).app _
  unfold Form.readFields
  refine Alike.bind (R := Eq) ?_ fun a b hab => hab ▸ .refl _
  cases h with
  | same => exact .refl _
  | map hmembers _ => exact hmap hmembers
  | list hitems =>
      have hunder := (hitems.underIds rfl .nil).map
        (S := fun v w => Alike Eq (readMapping (Field.read · host) v)
          (readMapping (Field.read · host) w)) (f := Value.map) (g := Value.map)
        fun es fs hes => hmap hes
      exact hunder.bind fun v w hvw => hvw
  | tuple _ => exact .problem _
  | set _ => exact .problem _

/-! ### Layouts -/

namespace Layout

lemma alike_readOfKind (kind : Kind) {es fs : Members} (model : RespeltModel .part es fs)
    {children others : Checked (List Layout)} (h : Alike Eq children others) :
    Alike Eq (readOfKind kind es children) (readOfKind kind fs others) := by
  have hspan : Alike Eq (readSpan es) (readSpan fs) := model.take_spelt (by decide)
  have hkind : Alike Eq (readKind kind es) (readKind kind fs) := model.take_carried (by decide)
  have hdistance : Alike Eq (readDistance es) (readDistance fs) := model.take_carried (by decide)
  cases kind with
  | field =>
      exact ((hspan.app _).seq hkind).seq ((model.found_spelt (by decide)).need (alike_of_data _))
  | stack => exact (((hspan.app _).seq hkind).seq hdistance).seq h
  | grid =>
      exact ((((hspan.app _).seq hkind).seq (model.take_carried (by decide))).seq hdistance).seq h
  | segment =>
      refine (Alike.seq (Alike.seq ?_ (model.take_spelt (by decide)))
        (model.take_carried (by decide))).seq h
      exact (((hspan.app _).seq hkind).seq (model.take_carried (by decide))).seq
        (model.take_carried (by decide))

mutual

/-- The readings of two parts that differ in spelling are alike. -/
theorem alike_read : ∀ {r : Role} {v w : Value}, Respelt r v w → r = .part →
    Alike Eq (Layout.read v) (Layout.read w)
  | _, _, _, .same _ _, _ => .refl _
  | _, .map es, .map fs, .map hmembers hnames, hr => by
      subst hr
      have model : RespeltModel .part es fs := ⟨rfl, hmembers, (hnames rfl).1, (hnames rfl).2⟩
      have hkind : Option.Rel (Respelt .data) (Value.lookupText "kind" es)
          (Value.lookupText "kind" fs) := hmembers.lookupText (show IsPlainName "kind" by decide)
      have hchildren := alike_readChildren hmembers rfl
      unfold Layout.read
      generalize Value.lookupText "kind" es = x, Value.lookupText "kind" fs = y at hkind
      cases hkind with
      | none => exact .problem _
      | some htag =>
          obtain rfl := htag.eq_of_data rfl
          dsimp only
          split
          · exact .problem _
          · exact (alike_readOfKind _ model hchildren).within (.same _)
  | _, _, _, .list _, _ => .problem _
  | _, _, _, .tuple _, _ => .problem _
  | _, _, _, .set _, _ => .problem _

/-- The same of their children. -/
theorem alike_readChildren : ∀ {r : Role} {es fs : Members}, RespeltMembers r es fs →
    r = .part → Alike Eq (readChildren es) (readChildren fs)
  | _, _, _, .nil, _ => .refl _
  | r, (key, v) :: es, (other, w) :: fs, .cons hkey hv h, hr => by
      have hrest := alike_readChildren h hr
      have hall : r.member key = .layout → Alike Eq (readAll v) (readAll w) := alike_readAll hv
      have hsame : key.isText "children" = other.isText "children" := by
        rw [Value.isText_eq_same, Value.isText_eq_same, hkey.same_text (by decide)]
      unfold readChildren
      rw [← hsame]
      split
      next hchildren =>
        rw [Value.isText_eq_same, Value.same_text_iff] at hchildren
        exact (hall (by rw [hr, hchildren]; rfl)).within (.same _)
      next => exact hrest

/-- The same of a list of parts. -/
theorem alike_readAll : ∀ {r : Role} {v w : Value}, Respelt r v w → r = .layout →
    Alike Eq (readAll v) (readAll w)
  | _, _, _, .same _ _, _ => .refl _
  | _, _, _, .map _ _, _ => .problem _
  | _, _, _, .list h, hr => alike_readNumbered h (by rw [hr]; rfl) 0
  | _, _, _, .tuple h, hr => alike_readNumbered h (by rw [hr]; rfl) 0
  | _, _, _, .set h, hr => alike_readNumbered h (by rw [hr]; rfl) 0

/-- The same of numbered parts. -/
theorem alike_readNumbered : ∀ {r : Role} {vs ws : List Value}, RespeltItems r vs ws →
    r = .part → ∀ i, Alike Eq (readNumbered i vs) (readNumbered i ws)
  | _, _, _, .nil, _, _ => .refl _
  | _, _, _, .cons hv h, hr, i =>
      (((alike_read hv hr).within (.same _)).app _).seq (alike_readNumbered h hr (i + 1))

end

end Layout

/-! ### Forms -/

namespace Form

lemma alike_readParts {v w : Value} (h : Respelt .form v w) :
    Alike Eq (readParts v host) (readParts w host) := by
  refine h.readPart rfl fun es fs model => ?_
  have hfields := model.found_plain (s := .fields) (a := "fields") (b := "fields")
    (by decide) (by decide) rfl rfl
  have hlayout := model.found_plain (s := .layout) (a := "layout") (b := "layout")
    (by decide) (by decide) rfl rfl
  refine .seq (.seq (.seq (.app ?_ _) ?_) (hfields.need Respelt.readFields))
    (hlayout.take fun v w hvw => Layout.alike_readAll hvw rfl)
  · exact model.need_carried (by decide)
  · exact model.take_carried (by decide)

/-- The readings of two documents that differ in spelling are alike. -/
theorem alike_read {v w : Value} (h : Respelt .form v w) :
    Alike Eq (Form.read v host) (Form.read w host) :=
  (alike_readParts h).bind fun _ _ hparts => hparts ▸ .refl _

end Form

end

namespace Form

/-- Documents that differ in spelling declare the same: one declares a form, with its fields and
their defaults, its conditions and its layout, exactly if the other declares that very form.  If
instead problems are told, they are told of both, with the same causes in the same order. -/
theorem declared_of_respelt {document other : Value} (h : Respelt .form document other) :
    (∀ host form, Form.read document host = .accepted form ↔
      Form.read other host = .accepted form) ∧
    (∀ form, ofDocument document = .ok form ↔ ofDocument other = .ok form) ∧
    ∀ problems, ofDocument document = .error (.rejected problems) →
      ∃ others, ofDocument other = .error (.rejected others) ∧
        List.Forall₂ Problem.Alike problems others := by
  refine ⟨fun host form => (alike_read h).accepted_iff form, ?_⟩
  have hread : Alike Eq (Form.read document .ofDescription) (Form.read other .ofDescription) :=
    alike_read h
  cases h with
  | same =>
      exact ⟨fun _ => Iff.rfl, fun problems hproblems =>
        ⟨problems, hproblems, List.forall₂_same.2 fun p _ => .refl p⟩⟩
  | list _ => exact ⟨fun _ => by simp [ofDocument], by simp [ofDocument]⟩
  | tuple _ => exact ⟨fun _ => by simp [ofDocument], by simp [ofDocument]⟩
  | set _ => exact ⟨fun _ => by simp [ofDocument], by simp [ofDocument]⟩
  | @map _ es fs _ _ =>
      unfold ofDocument
      generalize Form.read (.map es) = x, Form.read (.map fs) = y at hread
      cases hread with
      | accepted heq => simp [heq]
      | rejected hps => simpa using hps
      | stopped fault => simp

/-- A form about a city, and about a street if the city has a certain value, in which each name of
several words is spelt as chosen. -/
def cityDocument (spell : String × String → String) : Value := .map [
  (.text "id", .text "address"),
  (.text "fields", .map [
    (.text "city", .map [
      (.text "renderer", .text "text"),
      (.text (spell ("inputType", "input_type")), .text "email"),
      (.text (spell ("defaultValue", "default_value")), .null),
      (.text "rules", .map [
        (.text (spell ("minLength", "min_length")), .map [(.text "value", .int 1)]),
        (.text (spell ("maxLength", "max_length")), .map [(.text "value", .int 40)])])]),
    (.text "street", .map [
      (.text "renderer", .text "text"),
      (.text (spell ("visibleWhen", "visible_when")), .map [
        (.text "field", .text "city"), (.text "op", .text "equals"),
        (.text "value", .map [(.text "col_span", .int 1)])])])]),
  (.text "layout", .list [
    .map [(.text "kind", .text "section"),
      (.text (spell ("withDivider", "with_divider")), .bool false),
      (.text "children", .list [
        .map [(.text "kind", .text "field"),
          (.text (spell ("colSpan", "col_span")), .int 2),
          (.text (spell ("fieldId", "field_id")), .text "city")]])]])]

lemma respelt_cityDocument : Respelt .form (cityDocument Prod.fst) (cityDocument Prod.snd) := by
  have spelt : ∀ {r : Role} {a b : String}, r.namesMembers = true → (a, b) ∈ spellings →
      r.SameKey (.text a) (.text b) := fun hr h => .respelt hr (.inr (.inl h))
  refine .map (.cons (.same _) (.same _ _) (.cons (.same _) ?fields (.cons (.same _) ?layout .nil)))
    fun _ => by decide
  case fields =>
    refine .map (.cons (.same _) ?city (.cons (.same _) ?street .nil)) fun _ => by decide
    case city =>
      refine .map (.cons (.same _) (.same _ _) (.cons (spelt rfl (by decide)) (.same _ _)
        (.cons (spelt rfl (by decide)) (.same _ _) (.cons (.same _) ?rules .nil))))
        fun _ => by decide
      exact .map (.cons (spelt rfl (by decide)) (.same _ _)
        (.cons (spelt rfl (by decide)) (.same _ _) .nil)) fun _ => by decide
    case street =>
      exact .map (.cons (.same _) (.same _ _) (.cons (spelt rfl (by decide)) (.same _ _) .nil))
        fun _ => by decide
  case layout =>
    refine .list (.cons (.map (.cons (.same _) (.same _ _) (.cons (spelt rfl (by decide))
      (.same _ _) (.cons (.same _) (.list (.cons ?part .nil)) .nil))) fun _ => by decide) .nil)
    exact .map (.cons (.same _) (.same _ _) (.cons (spelt rfl (by decide)) (.same _ _)
      (.cons (spelt rfl (by decide)) (.same _ _) .nil))) fun _ => by decide

/-- The document declares the same form in either spelling, with a default of null for the city and
none for the street, whose condition compares with a mapping that is left as it is. -/
theorem declared_of_cityDocument :
    Respelt .form (cityDocument Prod.fst) (cityDocument Prod.snd) ∧
    ∃ form, ofDocument (cityDocument Prod.fst) = .ok form ∧
      ofDocument (cityDocument Prod.snd) = .ok form ∧
      form.fields.entries.map (fun e => e.2.declaresDefault) = [true, false] ∧
      form.shownFields = ["city"] := by
  have hform : ∃ form, ofDocument (cityDocument Prod.fst) = .ok form ∧
      form.fields.entries.map (fun e => e.2.declaresDefault) = [true, false] ∧
      form.shownFields = ["city"] := ⟨_, rfl, rfl, rfl⟩
  obtain ⟨form, hread, hdefaults, hshown⟩ := hform
  obtain ⟨-, hsame, -⟩ := declared_of_respelt respelt_cityDocument
  exact ⟨respelt_cityDocument, form, hread, (hsame form).1 hread, hdefaults, hshown⟩

end Form

end FormEngine
