import FormEngine.Proofs.Service.Printable
import FormEngine.Proofs.View.Painting

/-!
# Responses that show a draft

A response that shows a draft can fail in two ways: the layout may show a field that does not exist,
and the response may hold a number that cannot be printed.  A draft is `Presentable` if neither can
happen.  Drafts of presentable forms are (`presentable_of_mount`), and they stay so whatever is done
to them, as long as what is written is printable (`Presentable.perform`).

What is left is a text with an unpaired surrogate, which no octets encode: its response is lost.
`delivered` says so, and `send_draftResponse` that a presentable draft is shown, unless the response
is lost.
-/

namespace FormEngine

open Service (Printable)

/-! ## Drafts -/

/-- A draft of a presentable form, with that form's checklist, whose values are printable. -/
structure Draft.Presentable (d : Draft) : Prop where
  form : d.form.Presentable
  checklist : d.checklist = d.form.checklist
  values : d.values.Holds Printable

lemma Field.printable_initialValue {f : Field} (h : f.Presentable) : Printable f.initialValue := by
  unfold initialValue emptyValue
  cases hdefault : f.default with
  | some v => exact h.default v hdefault
  | none =>
      cases f.widget with
      | checkbox => exact .bool false
      | switch => exact .bool false
      | multiselect => exact .list fun v hv => absurd hv List.not_mem_nil
      | _ => exact .text ""

lemma Form.printable_initialValues {form : Form} (h : form.Presentable) :
    form.initialValues.Holds Printable :=
  h.fields.mapValues fun _ _ hf => Field.printable_initialValue hf

namespace Draft

variable {today : Date} {d : Draft}

lemma presentable_of_mount {form : Form} {receiver : Option Receiver}
    (h : (mount today form receiver).result = .ok d) (hform : form.Presentable) :
    d.Presentable := by
  obtain ⟨r, -, rfl⟩ := mount_eq_ok.1 h
  exact ⟨hform, rfl, Form.printable_initialValues hform⟩

namespace Presentable

lemma writeAll (h : d.Presentable) {entries : List (Value × Value)}
    (hentries : ∀ e ∈ named entries, Printable e.2) :
    (d.writeAll today entries).draft.Presentable := by
  rcases writeAll_cases today d entries with
    ⟨-, hdraft⟩ | ⟨written, r, rfl, -, -, -, hdraft⟩
  · rwa [hdraft]
  · rw [named_texts] at hentries
    rw [hdraft]
    exact ⟨h.form, h.checklist, h.values.setAll hentries⟩

lemma touch (h : d.Presentable) (key : Value) : (d.touch key).draft.Presentable := by
  rcases touch_cases d key with ⟨-, hdraft⟩ | ⟨id, -, -, -, hdraft⟩
  · rwa [hdraft]
  · rw [hdraft]
    exact ⟨h.form, h.checklist, h.values⟩

lemma reset (h : d.Presentable) : (d.reset today).draft.Presentable := by
  rcases reset_cases today d with ⟨-, hdraft⟩ | ⟨r, -, -, hdraft⟩
  · rwa [hdraft]
  · rw [hdraft]
    exact ⟨h.form, h.checklist, Form.printable_initialValues h.form⟩

lemma submit (h : d.Presentable) (receiver : Option Receiver) :
    (d.submit today receiver).draft.Presentable := by
  cases hjudge : (d.judge today).result with
  | error fault =>
      rw [(submit_unjudged hjudge receiver).1]
      exact h
  | ok r =>
      cases hclean : r.isClean with
      | true =>
          rw [(submit_accepted hjudge hclean receiver).1]
          exact ⟨h.form, h.checklist, h.values⟩
      | false =>
          rw [(submit_refused hjudge hclean receiver).1]
          exact ⟨h.form, h.checklist, h.values⟩

/-- Whatever is done to a presentable draft, it stays so if what is written is printable. -/
theorem perform (h : d.Presentable) {op : Operation} (hop : ∀ e ∈ op.entries, Printable e.2) :
    (d.perform today op).draft.Presentable := by
  cases op with
  | write key value =>
      show (d.write today key value).draft.Presentable
      rw [write_eq_writeAll]
      exact h.writeAll hop
  | writeAll entries => exact h.writeAll hop
  | touch key => exact h.touch key
  | reset => exact h.reset
  | judge => exact h
  | submit receiver => exact h.submit receiver

end Presentable

end Draft

/-! ## Showing a draft -/

lemma FieldCard.printable_dump {d : Draft} (h : d.Presentable) {f : Field} (hf : f.Presentable) :
    Printable (FieldCard.of f d).dump := by
  have hvalue : Printable ((d.values.get? (f.id.getD "")).getD .null) := by
    cases hget : d.values.get? (f.id.getD "") with
    | none => exact .null
    | some v => exact h.values _ v hget
  refine .document ?_
  simp only [List.forall_mem_cons, FieldCard.of]
  exact ⟨.text _, .text _, .text _, .text _, .textOrNull _, .textOrNull _, .ofMapping hf.props,
    .bool _, hvalue, .bool _, .textOrNull _, fun _ h => absurd h List.not_mem_nil⟩

namespace View

variable {α : Type} (payload : α → Value)

lemma dumpAll_eq (views : List (View α)) : dumpAll payload views = views.map (dump payload) := by
  induction views with
  | nil => rfl
  | cons view views ih => rw [dumpAll, ih, List.map_cons]

lemma dumpCells_eq (cells : List (Nat × View α)) :
    dumpCells payload cells =
      cells.map fun c => document [("col_span", .int c.1), ("node", dump payload c.2)] := by
  induction cells with
  | nil => rfl
  | cons c cells ih => rw [dumpCells, ih, List.map_cons]

end View

lemma printable_dumpHeading (heading : Option (Text × Option Text)) :
    Printable (dumpHeading heading) := by
  cases heading with
  | none => exact .null
  | some texts =>
      refine .document ?_
      simp only [List.forall_mem_cons]
      exact ⟨.text _, .textOrNull _, fun _ h => absurd h List.not_mem_nil⟩

/-- A painted part without infinities. -/
def View.IsPrintable (view : View FieldCard) : Prop := Printable (view.dump FieldCard.dump)

namespace View.IsPrintable

lemma stack {distance : Distance} {children : List (View FieldCard)}
    (h : ∀ v ∈ children, v.IsPrintable) : (View.stack distance children).IsPrintable := by
  refine .document ?_
  simp only [List.forall_mem_cons, View.dumpAll_eq]
  refine ⟨.text _, .text _, .list ?_, fun _ h => absurd h List.not_mem_nil⟩
  exact List.forall_mem_map.2 h

lemma grid {cols : Columns} {distance : Distance} {cells : List (Nat × View FieldCard)}
    (h : ∀ c ∈ cells, c.2.IsPrintable) : (View.grid cols distance cells).IsPrintable := by
  refine .document ?_
  simp only [List.forall_mem_cons, View.dumpCells_eq]
  refine ⟨.text _, .int _, .text _, .list ?_, fun _ h => absurd h List.not_mem_nil⟩
  refine List.forall_mem_map.2 fun c hc => .document ?_
  simp only [List.forall_mem_cons]
  exact ⟨.int _, h c hc, fun _ h => absurd h List.not_mem_nil⟩

lemma segment {heading : Option (Text × Option Text)} {divider collapsible : Bool}
    {children : List (View FieldCard)} (h : ∀ v ∈ children, v.IsPrintable) :
    (View.segment heading divider collapsible children).IsPrintable := by
  refine .document ?_
  simp only [List.forall_mem_cons, View.dumpAll_eq]
  refine ⟨.text _, printable_dumpHeading _, .bool _, .bool _, .list ?_,
    fun _ h => absurd h List.not_mem_nil⟩
  exact List.forall_mem_map.2 h

end View.IsPrintable

namespace View

mutual

/-- A view is printable if the cards in it are. -/
theorem isPrintable_of_payloads : ∀ {view : View FieldCard},
    (∀ card ∈ view.payloads, Printable card.dump) → view.IsPrintable
  | .field card, h => h card (List.mem_singleton_self card)
  | .stack _ _, h => .stack (isPrintable_of_payloadsOf h)
  | .grid _ _ _, h => .grid (isPrintable_of_payloadsOfCells h)
  | .segment _ _ _ _, h => .segment (isPrintable_of_payloadsOf h)

/-- The same of a list of views. -/
theorem isPrintable_of_payloadsOf : ∀ {views : List (View FieldCard)},
    (∀ card ∈ payloadsOf views, Printable card.dump) → ∀ view ∈ views, view.IsPrintable
  | [], _ => fun view hview => absurd hview List.not_mem_nil
  | view :: views, h => by
      obtain ⟨hview, hviews⟩ := List.forall_mem_append.1 h
      have hrest := isPrintable_of_payloadsOf hviews
      exact List.forall_mem_cons.2 ⟨isPrintable_of_payloads hview, hrest⟩

/-- The same of the cells of a grid. -/
theorem isPrintable_of_payloadsOfCells : ∀ {cells : List (Nat × View FieldCard)},
    (∀ card ∈ payloadsOfCells cells, Printable card.dump) → ∀ cell ∈ cells, cell.2.IsPrintable
  | [], _ => fun cell hcell => absurd hcell List.not_mem_nil
  | cell :: cells, h => by
      obtain ⟨hcell, hcells⟩ := List.forall_mem_append.1 h
      have hrest := isPrintable_of_payloadsOfCells hcells
      exact List.forall_mem_cons.2 ⟨isPrintable_of_payloads hcell, hrest⟩

end

end View

/-- Messages under keys hold nothing but texts. -/
lemma eachPart_dumpErrors {p : Value → Bool} (hp : ∀ s, p (.text s) = true)
    (errors : Mapping (List Text)) : Service.eachPart p (dumpErrors errors) = true := by
  refine Service.eachMember_iff.2 (List.forall_mem_map.2 fun e he => ⟨hp e.1, ?_⟩)
  obtain ⟨e', -, rfl⟩ := List.mem_map.1 he
  exact Service.eachItem_iff.2 (List.forall_mem_map.2 fun message _ => hp message)

/-- The cards of a presentable draft are printable. -/
lemma Draft.Presentable.printable_look {d : Draft} (h : d.Presentable) {id : String}
    {card : FieldCard} (hlook : d.look paintCard id = some card) : Printable card.dump := by
  obtain ⟨f, hf, -, rfl⟩ := look_paintCard_eq_some.1 hlook
  exact FieldCard.printable_dump h (h.form.fields id f hf)

/-- A presentable draft is painted, and its view is printable. -/
lemma Draft.Presentable.paint {d : Draft} (h : d.Presentable) :
    ∃ view, d.paint paintCard = .ok view ∧ Printable (view.dump FieldCard.dump) := by
  obtain ⟨layout, hlayout, hpainted⟩ := painted_of_showsDeclared h.form.shown paintCard
  have hprintable : ∀ view ∈ layout, view.IsPrintable := by
    refine View.isPrintable_of_payloadsOf fun card hcard => ?_
    rw [hpainted.payloads, List.mem_filterMap] at hcard
    obtain ⟨id, -, hlook⟩ := hcard
    exact h.printable_look hlook
  refine ⟨⟨d.form.id, d.form.intro, layout, d.visibleIds, d.shownErrors⟩, ?_, .document ?_⟩
  · rw [Draft.paint, hlayout]
    rfl
  · simp only [List.forall_mem_cons, View.dumpAll_eq]
    refine ⟨.text _, .document ?_, .list (List.forall_mem_map.2 hprintable), .texts _,
      eachPart_dumpErrors (fun _ => rfl) _, fun _ h => absurd h List.not_mem_nil⟩
    simp only [List.forall_mem_cons]
    exact ⟨.text _, .textOrNull _, .textOrNull _, fun _ h => absurd h List.not_mem_nil⟩

namespace Service

/-! ## Delivery -/

/-- What comes of a printable response: it is lost if a text in it cannot be encoded. -/
def delivered (r : Response) : Outcome :=
  if isEncodable r.body then .response r else .crash .unpairedSurrogate

lemma send_eq_delivered {r : Response} (h : Printable r.body) : send (.ok r) = delivered r := by
  have hfinite : isFinite r.body = true := h
  simp only [send, delivered, hfinite, Bool.not_true, Bool.false_eq_true, if_false]
  cases isEncodable r.body <;> rfl

lemma printable_refusalText (status : Nat) (detail : Text) :
    Printable (refusalText status detail).body := rfl

/-- Lines can be encoded if each of them can. -/
lemma isEncodable_lines (lines : List Text) :
    isEncodable (.list (lines.map Value.text)) = lines.all Text.isPlain := by
  induction lines with
  | nil => rfl
  | cons line lines ih =>
      rw [List.all_cons, ← ih]
      rfl

/-- What comes of a response that tells lines: it is lost if one of them cannot be encoded. -/
def toldIn (lines : List Text) (r : Response) : Outcome :=
  if lines.all Text.isPlain then .response r else .crash .unpairedSurrogate

/-- A verdict is sent if its lines can be encoded. -/
lemma send_verdict (lines : List Text) :
    send (.ok (verdict lines)) = toldIn lines (verdict lines) := by
  have hprintable : Printable (verdict lines).body := by
    refine .document ?_
    simp only [List.forall_mem_cons]
    exact ⟨.bool _, .texts lines, fun _ h => absurd h List.not_mem_nil⟩
  have hencodable : isEncodable (verdict lines).body = lines.all Text.isPlain := by
    show (true && true && (true && isEncodable (.list (lines.map Value.text)) && true)) = _
    simp [isEncodable_lines]
  rw [send_eq_delivered hprintable, delivered, hencodable, toldIn]

/-- A refusal in lines is sent if the lines can be encoded. -/
lemma send_refusalLines (lines : List Text) :
    send (.ok (refusalLines lines)) = toldIn lines (refusalLines lines) := by
  have hprintable : Printable (refusalLines lines).body := by
    refine .document ?_
    simp only [List.forall_mem_cons]
    exact ⟨.texts lines, fun _ h => absurd h List.not_mem_nil⟩
  have hencodable : isEncodable (refusalLines lines).body = lines.all Text.isPlain := by
    show (true && isEncodable (.list (lines.map Value.text)) && true) = _
    simp [isEncodable_lines]
  rw [send_eq_delivered hprintable, delivered, hencodable, toldIn]

/-- A response that is sent is the one that has been made. -/
lemma eq_of_send {answer : Except Crash Response} {r : Response} (h : send answer = .response r) :
    answer = .ok r := by
  unfold send at h
  split at h
  next => cases h
  next r' =>
    split at h
    · cases h
    · split at h
      · cases h
      · rw [Outcome.response.inj h]

/-- Only a view is sent for a draft. -/
lemma status_of_draftResponse {id : Text} {d : Draft} {r : Response}
    (h : draftResponse id d = .ok r) : r.status = 200 := by
  unfold draftResponse at h
  split at h
  next => cases h
  next =>
    obtain rfl := Except.ok.inj h
    rfl

/-- The response that shows a draft. -/
def shown (id : Text) (d : Draft) (view : DraftView FieldCard) : Response :=
  ⟨200, document [("session_id", .text id), ("form", view.dump FieldCard.dump),
    ("values", .ofMapping (sentValues d.values))]⟩

/-- A presentable draft is shown. -/
theorem send_draftResponse (id : Text) {d : Draft} (h : d.Presentable) :
    ∃ view, d.paint paintCard = .ok view ∧
      send (draftResponse id d) = delivered (shown id d view) := by
  obtain ⟨view, hview, hprintable⟩ := h.paint
  have hresponse : draftResponse id d = .ok (shown id d view) := by
    rw [draftResponse, show d.paint (fun f d => some (FieldCard.of f d)) = _ from hview]
    rfl
  refine ⟨view, hview, ?_⟩
  rw [hresponse]
  refine send_eq_delivered (.document ?_)
  simp only [List.forall_mem_cons]
  have hvalues : (sentValues d.values).Holds Printable :=
    .ofList (List.forall_mem_map.2 fun e he => h.values.of_mem (e := e) he)
  exact ⟨.text _, hprintable, .ofMapping hvalues, fun _ h => absurd h List.not_mem_nil⟩

end Service

end FormEngine
