import FormEngine.Proofs.Draft.Operation
import FormEngine.Proofs.Form.Declared
import FormEngine.Service.Basic

/-!
# What can be printed

JSON has no infinities, so a response that holds one cannot be written.  A value without them is
`Printable`.  Nothing in the service makes up such numbers: what is read from a printable body is
printable as well, the defaults and properties of a form (`Form.presentable_of_read`) as much as the
values that are written (`Request.IsFinite.values`).

A form is `Presentable` if that holds of it and its layout shows declared fields only, which is all
that is needed to show a draft of it.
-/

namespace FormEngine

namespace Service

/-! ## Values -/

lemma eachItem_iff {p : Value → Bool} {vs : List Value} :
    eachItem p vs = true ↔ ∀ v ∈ vs, eachPart p v = true := by
  induction vs with
  | nil => simp [eachItem]
  | cons v vs ih => rw [eachItem, Bool.and_eq_true, ih, List.forall_mem_cons]

lemma eachMember_iff {p : Value → Bool} {es : Members} :
    eachMember p es = true ↔ ∀ e ∈ es, p e.1 = true ∧ eachPart p e.2 = true := by
  induction es with
  | nil => simp [eachMember]
  | cons e es ih =>
      rw [eachMember, Bool.and_eq_true, Bool.and_eq_true, ih, List.forall_mem_cons]

/-- A value in which all numbers are finite. -/
def Printable (v : Value) : Prop := isFinite v = true

namespace Printable

lemma null : Printable .null := rfl

lemma bool (b : Bool) : Printable (.bool b) := rfl

lemma int (i : Int) : Printable (.int i) := rfl

lemma text (t : Text) : Printable (.text t) := rfl

lemma textOrNull (t : Option Text) : Printable (textOrNull t) := by
  cases t with
  | none => exact null
  | some t => exact text t

/-- The items of a printable collection are printable. -/
lemma items {v : Value} (h : Printable v) {vs : List Value} (hitems : v.items? = some vs) :
    ∀ w ∈ vs, Printable w := by
  refine eachItem_iff.1 (Eq.trans ?_ h)
  cases v with
  | list items => exact congrArg _ (Option.some.inj hitems).symm
  | tuple items => exact congrArg _ (Option.some.inj hitems).symm
  | set items => exact congrArg _ (Option.some.inj hitems).symm
  | _ => cases hitems

lemma list {vs : List Value} (h : ∀ v ∈ vs, Printable v) : Printable (.list vs) := eachItem_iff.2 h

lemma texts (ss : List Text) : Printable (.list (ss.map Value.text)) :=
  list (List.forall_mem_map.2 fun s _ => text s)

/-- The values in a printable mapping are printable. -/
lemma members {es : Members} (h : Printable (.map es)) : ∀ e ∈ es, Printable e.2 :=
  fun e he => (eachMember_iff.1 h e he).2

lemma ofTexts {es : List (Text × Value)} (h : ∀ e ∈ es, Printable e.2) :
    Printable (.map (es.map fun e => (.text e.1, e.2))) :=
  eachMember_iff.2 (List.forall_mem_map.2 fun e he => ⟨rfl, h e he⟩)

lemma document {es : List (String × Value)} (h : ∀ e ∈ es, Printable e.2) :
    Printable (document es) :=
  eachMember_iff.2 (List.forall_mem_map.2 fun e he => ⟨rfl, h e he⟩)

lemma ofMapping {m : Mapping Value} (h : m.Holds Printable) : Printable (.ofMapping m) :=
  ofTexts fun _ he => h.of_mem he

end Printable

end Service

/-! ## Reading -/

open Service (Printable)

lemma printable_membersOf {kind : Prepared} {v : Value} {es : Members}
    (h : membersOf? kind v = some es) (hv : Printable v) : ∀ e ∈ es, Printable e.2 := by
  unfold membersOf? at h
  split at h
  next =>
    obtain rfl := Option.some.inj h
    exact hv.members
  next =>
    obtain ⟨-, hes⟩ := Option.ite_none_right_eq_some.1 h
    obtain rfl := Option.some.inj hes
    exact Printable.members hv
  next => cases h

/-- The values of a mapping that is read as it is are printable if the mapping is. -/
lemma printable_of_readMapping {v : Value} {m : Mapping Value}
    (h : readMapping .accepted v = .accepted m) (hv : Printable v) : m.Holds Printable :=
  holds_of_readMapping h fun es hes e he a ha => by
    subst hes
    obtain rfl := Checked.accepted.inj ha
    exact hv.members e he

/-! ## Forms -/

/-- The default and the properties of a field can be printed. -/
structure Field.Presentable (f : Field) : Prop where
  default : ∀ v, f.default = some v → Printable v
  props : f.props.Holds Printable

lemma Field.presentable_of_read {v : Value} {host : Predicate.Host} {f : Field}
    (h : Field.read v host = .accepted f) (hv : Printable v) : f.Presentable := by
  obtain ⟨es, hes, hread⟩ := Field.readFrom_of_read h
  have hmembers := printable_membersOf hes hv
  refine ⟨fun w hw => ?_, ?_⟩
  · have hdefault := hread.default
    rw [hw] at hdefault
    rcases Members.take_eq_accepted hdefault with hnone | ⟨e, he, hvalue⟩
    · cases hnone
    · obtain rfl := Option.some.inj (Checked.accepted.inj hvalue)
      exact hmembers e he
  · rcases Members.take_eq_accepted hread.props with hnone | ⟨e, he, hvalue⟩
    · rw [hnone]
      exact Mapping.Holds.empty
    · exact printable_of_readMapping hvalue (hmembers e he)

/-- A form that can be shown: its fields can be printed, and its layout shows declared fields
only. -/
structure Form.Presentable (form : Form) : Prop where
  fields : form.fields.Holds Field.Presentable
  shown : ∀ id ∈ form.shownFields, ∃ f, form.field? id = some f

namespace Form

lemma presentable_of_readFields {v : Value} {host : Predicate.Host} {fields : Mapping Field}
    (h : readFields v host = .accepted fields) (hv : Printable v) :
    fields.Holds Field.Presentable := by
  unfold readFields at h
  obtain ⟨fields', hread, hfields⟩ := Checked.bind_eq_accepted.1 h
  split at hfields
  · cases hfields
  obtain rfl := Checked.accepted.inj hfields
  obtain ⟨entries, hentries, hread⟩ := Checked.bind_eq_accepted.1 hread
  refine holds_of_readMapping hread fun es hes e he f hf => ?_
  subst hes
  refine Field.presentable_of_read hf ?_
  split at hentries
  next items =>
    obtain ⟨es', hunder, hmap⟩ := Checked.map_eq_accepted.1 hentries
    obtain rfl := Value.map.inj hmap
    rcases mem_of_underIds hunder e he with hnone | hitem
    · exact absurd hnone List.not_mem_nil
    · exact hv.items rfl e.2 hitem
  next =>
    obtain rfl := Checked.accepted.inj hentries
    exact hv.members e he

/-- A form that has been read from a printable document can be shown. -/
theorem presentable_of_read {doc : Value} {host : Predicate.Host} {form : Form}
    (h : Form.read doc host = .accepted form) (hdoc : Printable doc) : form.Presentable := by
  refine ⟨?_, showsDeclared_of_read h⟩
  obtain ⟨parts, hparts, -, rfl⟩ := named_of_read h
  have hfields : parts.fields.Holds Field.Presentable := by
    obtain ⟨es, rfl, -, hread, -⟩ := readParts_eq_accepted hparts
    obtain ⟨e, he, hread⟩ := Members.need_eq_accepted hread
    exact presentable_of_readFields hread (hdoc.members e he)
  exact hfields.mapValues fun _ f hf => ⟨hf.default, hf.props⟩

end Form

/-! ## Bodies -/

namespace Service

/-- A request in whose body, if it can be decoded, all numbers are finite. -/
structure Request.IsFinite (r : Request) : Prop where
  plain : ∀ v, decodeBody r.body = .ok v → Printable v
  form : ∀ v, Json.decodeOctets r.body = .ok v → Printable v

lemma Request.isFinite_iff (r : Request) : r.IsFinite ↔
    ((decodeBody r.body).toOption.all isFinite &&
      (Json.decodeOctets r.body).toOption.all isFinite) = true := by
  have hall : ∀ {ε : Type} (x : Except ε Value),
      x.toOption.all isFinite = true ↔ ∀ v, x = .ok v → Printable v := by
    rintro ε (e | v) <;> simp [Except.toOption, Printable]
  rw [Bool.and_eq_true, hall, hall]
  exact ⟨fun h => ⟨h.plain, h.form⟩, fun h => ⟨h.1, h.2⟩⟩

instance (r : Request) : Decidable r.IsFinite := decidable_of_iff _ r.isFinite_iff.symm

variable {r : Request}

lemma Request.IsFinite.values (h : r.IsFinite) {values : Mapping Value}
    (hread : readValues r.body = .ok values) : values.Holds Printable := by
  unfold readValues readBody at hread
  obtain ⟨body, hbody, hread⟩ := Draft.bind_eq_ok.1 hread
  have hprintable := h.plain body hbody
  cases hmembers : readMembers (fun es => es.need "values" "values" (readMapping .accepted))
      body with
  | rejected problems => rw [hmembers] at hread; cases hread
  | stopped fault => rw [hmembers] at hread; cases hread
  | accepted m =>
      rw [hmembers] at hread
      obtain rfl := Except.ok.inj hread
      cases body with
      | map es =>
          obtain ⟨e, he, hread⟩ := Members.need_eq_accepted hmembers
          exact printable_of_readMapping hread (hprintable.members e he)
      | _ => cases hmembers

/-- The form that a body yields is declared by the document of the request in it. -/
lemma readForm_eq_ok {read : Value → Checked FormRequest} {octets : List UInt8} {form : Form}
    {asked : Option Text} :
    readForm read octets = .ok (form, asked) ↔
      ∃ body request, Json.decodeOctets octets = .ok body ∧ read body = .accepted request ∧
        Form.ofDocument request.document = .ok form ∧ request.sessionId = asked := by
  unfold readForm
  cases Json.decodeOctets octets with
  | error fault => simp
  | ok body =>
      cases hrequest : read body with
      | rejected problems => simp [hrequest]
      | stopped fault => simp [hrequest]
      | accepted request =>
          cases hform : Form.ofDocument request.document with
          | error fault => simp [hrequest, hform]
          | ok form' => simp [hrequest, hform]

lemma Request.IsFinite.form_presentable (h : r.IsFinite) {form : Form}
    {asked : Option Text} (hread : readForm FormRequest.readMount r.body = .ok (form, asked)) :
    form.Presentable := by
  obtain ⟨body, request, hbody, hrequest, hform, -⟩ := readForm_eq_ok.1 hread
  have hprintable := h.form body hbody
  have hdocument : Printable request.document := by
    cases body with
    | map es =>
        obtain ⟨_, sessionId, hmk, -, rfl⟩ := Checked.seq_eq_accepted.1 hrequest
        obtain ⟨document, hneed, rfl⟩ := Checked.map_eq_accepted.1 hmk
        obtain ⟨e, he, hread⟩ := Members.need_eq_accepted hneed
        obtain ⟨m, hm, rfl⟩ := Checked.map_eq_accepted.1 hread
        exact .ofMapping (printable_of_readMapping hm (hprintable.members e he))
    | _ => cases hrequest
  exact Form.presentable_of_read (Form.read_of_ofDocument hform) hdocument

end Service

end FormEngine
