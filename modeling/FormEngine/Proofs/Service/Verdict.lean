import FormEngine.Proofs.Form.Stopping
import FormEngine.Proofs.Service.Replay

/-!
# Checking a form and mounting it

Two requests carry a form: one has it checked, the other has it mounted.  They read the same body
with different readers, and what is wrong with it reaches the answer on different ways: a fault of
decoding or of the form is told by a verdict here and by a refusal there, and a body of another form
is refused by both.  `readForm_mount` says that both readings of a body come to the same, but for
the id of the session, which only mounting reads.  It takes a body that is a mapping, since a body
of another kind is told by the name of the reader, and an id that is a text or null
(`AsksByText`); bodies that cannot be decoded are all right.

`mount_of_check` concludes what a verdict is worth: a form with errors is not mounted and the same
errors are told, a body that is refused is refused alike, and a valid form is not refused.
-/

namespace FormEngine

namespace Form

/-- A document that is rejected has at least one problem. -/
lemma ne_nil_of_rejected {document : Value} {problems : List Problem}
    (h : ofDocument document = .error (.rejected problems)) : problems ≠ [] := by
  by_cases hmap : ∃ es, document = .map es
  · obtain ⟨es, rfl⟩ := hmap
    rcases ofDocument_map es with ⟨form, hform⟩ | ⟨found, hfound, hrejected⟩ | ⟨fault, hstopped⟩
    · simp [h] at hform
    · rw [h] at hrejected
      obtain rfl := DocumentFault.rejected.inj (Except.error.inj hrejected)
      exact hfound
    · simp [h] at hstopped
  · have hnone : ofDocument document = .error .notMapping :=
      ofDocument_eq_notMapping.2 fun es hes => hmap ⟨es, hes⟩
    simp [h] at hnone

end Form

namespace Service

/-! ## Reading a body twice -/

/-- A body that asks for a session by a text or not at all, if it can be decoded; then it is a
mapping. -/
def AsksByText (octets : List UInt8) : Prop :=
  ∀ body, Json.decodeOctets octets = .ok body → ∃ es, body = .map es ∧
    ∀ id, Value.lookupText "session_id" es = some id → id = .null ∨ id.points?.isSome

/-- A text or null. -/
def isTextOrNull : Value → Bool
  | .null => true
  | v => v.points?.isSome

/-- Whether a body asks for a session by a text or not at all. -/
def asksByText : Value → Bool
  | .map es => (Value.lookupText "session_id" es).all isTextOrNull
  | _ => false

lemma isTextOrNull_iff {v : Value} : isTextOrNull v = true ↔ v = .null ∨ v.points?.isSome := by
  cases v <;> simp [isTextOrNull, Value.points?]

lemma asksByText_iff {body : Value} : asksByText body = true ↔ ∃ es, body = .map es ∧
    ∀ id, Value.lookupText "session_id" es = some id → id = .null ∨ id.points?.isSome := by
  cases body with
  | map es => simp [asksByText, Option.all_eq_true, isTextOrNull_iff]
  | _ => simp [asksByText]

instance (octets : List UInt8) : Decidable (AsksByText octets) :=
  decidable_of_iff ((Json.decodeOctets octets).toOption.all asksByText = true) <| by
    unfold AsksByText
    cases Json.decodeOctets octets with
    | error fault => simp [Except.toOption]
    | ok body => simp [Except.toOption, asksByText_iff]

/-- An id that is a text or null is read. -/
lemma exists_readAsked {id : Value} (h : id = .null ∨ id.points?.isSome) :
    ∃ asked, Scalar.orNull Scalar.readText id = .accepted asked := by
  rcases h with rfl | htext
  · exact ⟨none, rfl⟩
  · obtain ⟨t, rfl⟩ := Value.eq_text_of_points? htext
    exact ⟨some t, rfl⟩

/-- What is wrong with a body is the same for both requests.  If nothing is, mounting goes on with
the id that is asked for. -/
lemma readForm_mount {octets : List UInt8} (h : AsksByText octets) :
    ∃ asked : Option Text, readForm FormRequest.readMount octets =
      (readForm FormRequest.readCheck octets).map fun read => (read.1, asked) := by
  unfold readForm
  cases hdecode : Json.decodeOctets octets with
  | error fault => exact ⟨none, rfl⟩
  | ok body =>
      obtain ⟨es, rfl, hid⟩ := h body hdecode
      have htake : ∃ asked, Members.take es "session_id" "session_id" none
          (Scalar.orNull Scalar.readText) = .accepted asked := by
        cases hlookup : Value.lookupText "session_id" es with
        | none => exact ⟨none, by simp [Members.take, Members.find?, hlookup]⟩
        | some id =>
            obtain ⟨asked, hasked⟩ := exists_readAsked (hid id hlookup)
            exact ⟨asked, by simp [Members.take, Members.find?, hlookup, hasked, Checked.within]⟩
      obtain ⟨asked, htake⟩ := htake
      have hcheck : FormRequest.readCheck (.map es) = (⟨·, none⟩) <$> needDocument es := rfl
      have hmount : FormRequest.readMount (.map es) = (⟨·, asked⟩) <$> needDocument es := by
        show FormRequest.mk <$> needDocument es <*> Members.take es _ _ _ _ = _
        rw [htake]
        cases needDocument es <;> rfl
      refine ⟨asked, ?_⟩
      simp only [hcheck, hmount]
      cases needDocument es with
      | rejected problems => rfl
      | stopped fault => rfl
      | accepted document =>
          simp only [Functor.map, Checked.map]
          cases Form.ofDocument document <;> rfl

lemma ne_nil_of_ofJson {fault : Json.Fault} {lines : List Text}
    (h : FormRefusal.ofJson fault = .form lines) : lines ≠ [] := by
  cases fault with
  | tooManyDigits count => cases h
  | _ =>
      obtain rfl := FormRefusal.form.inj h
      exact List.cons_ne_nil _ _

/-- A form is never refused without a word. -/
lemma ne_nil_of_form {read : Value → Checked FormRequest} {octets : List UInt8}
    {lines : List Text} (h : readForm read octets = .error (.form lines)) : lines ≠ [] := by
  unfold readForm at h
  split at h
  next => exact ne_nil_of_ofJson (Except.error.inj h)
  next =>
    split at h
    next => cases h
    next => cases h
    next request _ =>
      split at h
      next fault hdocument =>
        have hload := Except.error.inj h
        cases fault with
        | json cause => exact ne_nil_of_ofJson hload
        | rejected problems =>
            obtain rfl := FormRefusal.form.inj hload
            have hproblems := Form.ne_nil_of_rejected hdocument
            simpa using hproblems
        | stopped cause => cases hload
        | _ =>
            obtain rfl := FormRefusal.form.inj hload
            exact List.cons_ne_nil _ _
      next => cases h

/-! ## Answers -/

variable {τ : Type} [Clock τ] {s : Service τ} {st : Store τ} {checked mounted : Arrival τ}

/-- What the reading of a body comes to when the form in it is checked. -/
lemma answer_check (hcheck : checked.request.endpoint? = some .check) :
    s.answer checked = match readForm FormRequest.readCheck checked.request.body with
      | .ok _ => .response (verdict [])
      | .error (.form lines) => toldIn lines (verdict lines)
      | .error (.body lines) => toldIn lines (refusalLines lines)
      | .error (.tooManyDigits count) => .crash (.tooManyDigits count)
      | .error (.stopped fault) => .crash (.reading fault) := by
  rw [answer, handle_of_some hcheck, handleAt, check]
  cases readForm FormRequest.readCheck checked.request.body with
  | ok read => exact send_verdict []
  | error refusal =>
      cases refusal with
      | form lines => exact send_verdict lines
      | body lines => exact send_refusalLines lines
      | tooManyDigits count => rfl
      | stopped fault => rfl

/-- A body that yields no form to mount is refused in the lines that are told of it, if they can be
encoded, and changes nothing. -/
lemma answer_forms (configured : s.store = some st)
    (hforms : mounted.request.endpoint? = some .forms) {lines : List Text}
    (hread : readForm FormRequest.readMount mounted.request.body = .error (.form lines) ∨
      readForm FormRequest.readMount mounted.request.body = .error (.body lines)) :
    s.answer mounted = toldIn lines (refusalLines lines) ∧ s.next mounted = s := by
  rw [answer, next, handle_of_some hforms, handleAt, mount, configured]
  rcases hread with hread | hread
  · simp only [hread, send_refusalLines, and_self]
  · simp only [hread, send_refusalLines, and_self]

/-- A body about which no lines are told is answered with a view, if it is answered at all. -/
lemma status_of_forms (configured : s.store = some st)
    (hforms : mounted.request.endpoint? = some .forms)
    (hform : ∀ lines, readForm FormRequest.readMount mounted.request.body ≠ .error (.form lines))
    (hbody : ∀ lines, readForm FormRequest.readMount mounted.request.body ≠ .error (.body lines))
    {r : Response} (h : s.answer mounted = .response r) : r.status = 200 := by
  rw [answer, handle_of_some hforms, handleAt, mount, configured] at h
  cases hread : readForm FormRequest.readMount mounted.request.body with
  | ok read =>
      simp only [hread] at h
      have hanswer := eq_of_send h
      split at hanswer
      next => cases hanswer
      next => exact status_of_draftResponse hanswer
  | error refusal =>
      simp only [hread] at h
      cases refusal with
      | form lines => exact absurd hread (hform lines)
      | body lines => exact absurd hread (hbody lines)
      | _ => cases h

lemma verdict_eq_iff {lines : List Text} {valid : Bool} {errors : Value} :
    verdict lines = ⟨200, document [("valid", .bool valid), ("errors", errors)]⟩ ↔
      lines.isEmpty = valid ∧ .list (lines.map Value.text) = errors := by
  simp [verdict, document]

/-! ## What a verdict is worth -/

/-- What the answer to a request to check a form tells of the answer to a request to mount one. -/
structure Foretells (s : Service τ) (checked mounted : Arrival τ) : Prop where
  /-- Checking answers with a verdict or with a refusal. -/
  answered : ∀ r, s.answer checked = .response r → r.status = 422 ∨
    ∃ valid errors, r = ⟨200, document [("valid", .bool valid), ("errors", errors)]⟩
  /-- A form with errors is refused with the same errors, and nothing happens. -/
  faulty : ∀ errors, s.answer checked =
      .response ⟨200, document [("valid", .bool false), ("errors", errors)]⟩ →
    s.answer mounted = .response (refusal 422 errors) ∧ s.next mounted = s
  /-- A refusal is the same. -/
  refused : ∀ r, s.answer checked = .response r → r.status = 422 → s.answer mounted = .response r
  /-- A valid form is not refused. -/
  valid : ∀ errors, s.answer checked =
      .response ⟨200, document [("valid", .bool true), ("errors", errors)]⟩ →
    ∀ r, s.answer mounted = .response r → r.status ≠ 422

namespace Foretells

variable {lines : List Text}

/-- A request has one answer. -/
lemma response_eq {o : Outcome} {r r' : Response} (h : o = .response r) (h' : o = .response r') :
    r' = r :=
  Outcome.response.inj (h'.symm.trans h)

lemma of_crash {c : Crash} (h : s.answer checked = .crash c) : Foretells s checked mounted := by
  constructor <;> simp [h]

lemma of_valid (h : s.answer checked = .response (verdict []))
    (hmounted : ∀ r, s.answer mounted = .response r → r.status = 200) :
    Foretells s checked mounted := by
  constructor
  case answered =>
    intro r hr
    obtain rfl := response_eq h hr
    exact .inr ⟨true, _, rfl⟩
  case faulty =>
    intro errors hverdict
    obtain ⟨hvalid, -⟩ := verdict_eq_iff.1 (response_eq hverdict h)
    cases hvalid
  case refused =>
    intro r hr hstatus
    obtain rfl := response_eq h hr
    cases hstatus
  case valid =>
    intro _ _ r hr
    rw [hmounted r hr]
    decide

lemma of_faulty (h : s.answer checked = .response (verdict lines)) (hlines : lines ≠ [])
    (hmounted : s.answer mounted = .response (refusalLines lines) ∧ s.next mounted = s) :
    Foretells s checked mounted := by
  constructor
  case answered =>
    intro r hr
    obtain rfl := response_eq h hr
    exact .inr ⟨_, _, rfl⟩
  case faulty =>
    intro errors hverdict
    obtain ⟨-, rfl⟩ := verdict_eq_iff.1 (response_eq hverdict h)
    exact hmounted
  case refused =>
    intro r hr hstatus
    obtain rfl := response_eq h hr
    cases hstatus
  case valid =>
    intro errors hverdict
    obtain ⟨hvalid, -⟩ := verdict_eq_iff.1 (response_eq hverdict h)
    exact absurd (List.isEmpty_iff.1 hvalid) hlines

lemma of_refused (h : s.answer checked = .response (refusalLines lines))
    (hmounted : s.answer mounted = .response (refusalLines lines)) :
    Foretells s checked mounted := by
  have hverdict : ∀ valid errors, s.answer checked ≠
      .response ⟨200, document [("valid", .bool valid), ("errors", errors)]⟩ := by
    intro valid errors hverdict
    cases congrArg Response.status (response_eq hverdict h)
  constructor
  case answered =>
    intro r hr
    obtain rfl := response_eq h hr
    exact .inl rfl
  case faulty =>
    intro errors hfaulty
    exact absurd hfaulty (hverdict false errors)
  case refused =>
    intro r hr _
    rw [hmounted, ← h, hr]
  case valid =>
    intro errors hvalid
    exact absurd hvalid (hverdict true errors)

end Foretells

/-- Checking a form tells what comes of mounting it, in every service with a store, whatever
sessions there are, and for every body that cannot be decoded or that is a mapping and asks for a
session by a text or not at all. -/
theorem mount_of_check (configured : s.store = some st)
    (hcheck : checked.request.endpoint? = some .check)
    (hforms : mounted.request.endpoint? = some .forms)
    (same : mounted.request.body = checked.request.body)
    (asks : AsksByText checked.request.body) : Foretells s checked mounted := by
  have hanswer := answer_check (s := s) hcheck
  obtain ⟨asked, hmount⟩ := readForm_mount asks
  rw [← same] at hanswer hmount
  cases hread : readForm FormRequest.readCheck mounted.request.body with
  | ok read =>
      rw [hread] at hanswer hmount
      apply Foretells.of_valid hanswer
      intro r hr
      -- no lines are told of a form that is declared, by whatever id its session is asked for
      exact status_of_forms configured hforms (by simp [hmount, Except.map])
        (by simp [hmount, Except.map]) hr
  | error refusal =>
      rw [hread] at hanswer hmount
      cases refusal with
      | form lines =>
          have hmounted := answer_forms configured hforms (.inl hmount)
          cases hplain : lines.all Text.isPlain with
          | true =>
              simp only [toldIn, hplain, if_true] at hanswer hmounted
              exact .of_faulty hanswer (ne_nil_of_form hread) hmounted
          | false =>
              simp only [toldIn, hplain] at hanswer
              exact .of_crash hanswer
      | body lines =>
          have hmounted := (answer_forms configured hforms (.inr hmount)).1
          cases hplain : lines.all Text.isPlain with
          | true =>
              simp only [toldIn, hplain, if_true] at hanswer hmounted
              exact .of_refused hanswer hmounted
          | false =>
              simp only [toldIn, hplain] at hanswer
              exact .of_crash hanswer
      | tooManyDigits count => exact .of_crash hanswer
      | stopped fault => exact .of_crash hanswer

/-- A form whose layout shows a field that it does not have. -/
def townForm : String :=
  "\x7b\"form_schema\": \x7b\"id\": \"trip\", \"fields\": \x7b\x7d, " ++
    "\"layout\": [\x7b\"kind\": \"field\", \"fieldId\": \"town\"\x7d]\x7d, " ++
    "\"session_id\": \"s\"\x7d"

/-- Whether a verdict is that a form is valid. -/
def tellsValid : Outcome → Bool
  | .response ⟨200, .map ((_, .bool valid) :: _)⟩ => valid
  | _ => true

/-- A request to check the form. -/
def checkedTown : Arrival Rat := posted 0 "/api/validate-schema" townForm

/-- A request to mount it. -/
def mountedTown : Arrival Rat := posted 0 "/api/forms" townForm

theorem mount_of_checkedTown :
    AsksByText checkedTown.request.body ∧ ∃ errors,
      (ofTimeout (.int 1800) : Service Rat).answer checkedTown =
        .response ⟨200, document [("valid", .bool false), ("errors", errors)]⟩ ∧
      (ofTimeout (.int 1800) : Service Rat).answer mountedTown =
        .response (refusal 422 errors) := by
  have asks : AsksByText checkedTown.request.body := by decide +kernel
  have hcheck : checkedTown.request.endpoint? = some .check := by decide +kernel
  have hforms : mountedTown.request.endpoint? = some .forms := by decide +kernel
  have foretells : Foretells (ofTimeout (.int 1800)) checkedTown mountedTown :=
    mount_of_check rfl hcheck hforms rfl asks
  have hvalid : tellsValid ((ofTimeout (.int 1800) : Service Rat).answer checkedTown) = false := by
    decide +kernel
  refine ⟨asks, ?_⟩
  cases hanswer : (ofTimeout (.int 1800) : Service Rat).answer checkedTown with
  | crash c =>
      rw [hanswer] at hvalid
      cases hvalid
  | response r =>
      rw [hanswer] at hvalid
      rcases foretells.answered r hanswer with hstatus | ⟨valid, errors, rfl⟩
      · obtain ⟨status, body⟩ := r
        obtain rfl : status = 422 := hstatus
        simp [tellsValid] at hvalid
      · obtain rfl : valid = false := hvalid
        exact ⟨errors, rfl, (foretells.faulty errors hanswer).1⟩

end Service

end FormEngine
