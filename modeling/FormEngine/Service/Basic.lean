import FormEngine.View
import FormEngine.Checklist.Cache
import FormEngine.Service.Body
import FormEngine.Service.Endpoint
import FormEngine.Store

/-!
# The service

Forms over requests: a form is checked or mounted as a session, and a session is shown, written to,
touched and submitted until it is deleted or expires.  `Service.handle` answers one request at one
reading of the clock and gives the service after it.

Sessions that are mounted without an id get the next one of a sequence that is given.  Checklists
come from a cache that all sessions share; every form that is read is a new one to it.  A fault of
an operation is no response: it is an `Outcome` of its own, and so is a response with a number that
JSON cannot say or a text that cannot be encoded.
-/

namespace FormEngine

namespace Service

/-- A request: its method, the path with whatever follows it, and the octets of its body. -/
structure Request where
  method : String
  path : String
  body : List UInt8 := []
deriving Repr

/-- A response: its status and its body. -/
structure Response where
  status : Nat
  body : Value

/-- Why there is no response. -/
inductive Crash where
  | operation (fault : Fault)
  | reading (fault : ReadFault)
  | tooManyDigits (count : Nat)
  | notFinite
  | unpairedSurrogate

/-- The text of a crash. -/
def Crash.message : Crash → Text
  | .operation fault => fault.message
  | .reading fault => fault.message
  | .tooManyDigits count => tooManyDigitsMessage count
  | .notFinite => "Out of range float values are not JSON compliant"
  | .unpairedSurrogate => "surrogates not allowed"

/-- What comes of a request. -/
inductive Outcome where
  | response (r : Response)
  | crash (c : Crash)

/-! ## Responses -/

/-- A response that tells why a request was not carried out. -/
def refusal (status : Nat) (detail : Value) : Response := ⟨status, document [("detail", detail)]⟩

/-- A response that tells it in one sentence. -/
def refusalText (status : Nat) (detail : Text) : Response := refusal status (.text detail)

/-- A response that tells it in lines. -/
def refusalLines (lines : List Text) : Response := refusal 422 (.list (lines.map Value.text))

/-- The response to a request at a path that is none. -/
def unknownPath : Response := refusalText 404 "Not Found"

/-- The response to a request by another method. -/
def otherMethod : Response := refusalText 405 "Method Not Allowed"

/-- The response without a store. -/
def unconfigured : Response := refusalText 500 "Server not properly configured"

/-- The response about a session that is not there. -/
def noSession (id : Text) : Response := refusalText 404 ("Session '" ++ id ++ "' not found")

/-- The response about a body that is not accepted. -/
def BodyFault.response (fault : BodyFault) : Response := refusal fault.status fault.detail

/-- The verdict on a form. -/
def verdict (errors : List Text) : Response :=
  ⟨200, document [("valid", .bool errors.isEmpty), ("errors", .list (errors.map Value.text))]⟩

/-- The values of a draft as they are sent: under keys that can be encoded. -/
def sentValues (values : Mapping Value) : Mapping Value :=
  .ofList (values.entries.map fun e => (e.1.lossy, e.2))

/-- The view of a draft and its values. -/
def draftResponse (id : Text) (draft : Draft) : Except Crash Response :=
  match draft.paint (fun f d => some (FieldCard.of f d)) with
  | .error fault => .error (.operation fault)
  | .ok view => .ok ⟨200, document [("session_id", .text id), ("form", view.dump FieldCard.dump),
      ("values", .ofMapping (sentValues draft.values))]⟩

/-- The response to a submission. -/
def submissionResponse (r : Report) : Response :=
  if r.isClean then
    ⟨200, document [("submitted", .bool true), ("data", echoed (.ofMapping r.data))]⟩
  else ⟨422, document [("submitted", .bool false), ("errors", dumpErrors r.errors)]⟩

mutual

/-- Whether something can be said of all that a value is made of, keys included. -/
def eachPart (p : Value → Bool) : Value → Bool
  | .list items => eachItem p items
  | .tuple items => eachItem p items
  | .set items => eachItem p items
  | .map es => eachMember p es
  | .prepared _ description => eachPart p description
  | v => p v

/-- Whether it can be said of all items. -/
def eachItem (p : Value → Bool) : List Value → Bool
  | [] => true
  | v :: vs => eachPart p v && eachItem p vs

/-- Whether it can be said of all members. -/
def eachMember (p : Value → Bool) : Members → Bool
  | [] => true
  | (key, v) :: es => p key && eachPart p v && eachMember p es

end

/-- Whether a value holds no infinities and nothing that is not a number. -/
def isFinite : Value → Bool :=
  eachPart fun
    | .float x => x.isFinite
    | _ => true

/-- Whether a value holds no text with unpaired surrogates. -/
def isEncodable : Value → Bool :=
  eachPart fun
    | .text t => t.isPlain
    | _ => true

/-- What comes of a response: one whose body cannot be written is never sent. -/
def send : Except Crash Response → Outcome
  | .error c => .crash c
  | .ok r =>
    if !isFinite r.body then .crash .notFinite
    else if !isEncodable r.body then .crash .unpairedSurrogate
    else .response r

end Service

/-! ## The state of the service -/

/-- The sessions, unless the service has been left without a store, the checklists that are kept,
and how many ids have been taken from the sequence. -/
structure Service (τ : Type) where
  store : Option (Store τ)
  cache : CompileCache Nat := {}
  /-- How many forms have been read; each is known to the cache by its number. -/
  forms : Nat := 0
  generated : Nat := 0

namespace Service

variable {τ : Type} [Clock τ]

/-- A service without sessions. -/
def ofTimeout (timeout : Number) : Service τ := { store := some { timeout } }

/-- A service whose timeout is given by a setting: an integer as text, if it is set at all. -/
def start (setting : Option String) : Except LiteralFault (Service τ) :=
  match setting with
  | none => .ok (ofTimeout defaultTimeout)
  | some text => (integerLiteral 10 (text.toList.map Char.toNat)).map fun n => ofTimeout (.int n)

/-- The service without its store. -/
def unconfigure (s : Service τ) : Service τ := { s with store := none }

/-! ## Handling requests -/

/-- What comes of a request, before it is sent, and the service after it. -/
abbrev Handled (τ : Type) := Except Crash Response × Service τ

/-- Checks a form. -/
def check (s : Service τ) (body : List UInt8) : Handled τ :=
  match readForm FormRequest.readCheck body with
  | .ok _ => (.ok (verdict []), s)
  | .error (.form lines) => (.ok (verdict lines), s)
  | .error (.body lines) => (.ok (refusalLines lines), s)
  | .error (.tooManyDigits count) => (.error (.tooManyDigits count), s)
  | .error (.stopped fault) => (.error (.reading fault), s)

/-- The id of a session: the one asked for, else the next of the sequence. -/
def idFor (newId : Nat → String) (s : Service τ) : Option Text → Text × Service τ
  | some id => (id, s)
  | none => (newId (s.generated + 1), { s with generated := s.generated + 1 })

/-- Makes the checklist of a form that has just been read. -/
def compile (s : Service τ) (form : Form) : Traced Checklist × Service τ :=
  let (compilation, cache) := s.cache.compile s.forms form
  (Compilation.checklist <$> compilation, { s with cache, forms := s.forms + 1 })

/-- Mounts a form. -/
def mount (today : Date) (now : τ) (newId : Nat → String) (s : Service τ) (body : List UInt8) :
    Handled τ :=
  match s.store with
  | none => (.ok unconfigured, s)
  | some store =>
    match readForm FormRequest.readMount body with
    | .error (.form lines) => (.ok (refusalLines lines), s)
    | .error (.body lines) => (.ok (refusalLines lines), s)
    | .error (.tooManyDigits count) => (.error (.tooManyDigits count), s)
    | .error (.stopped fault) => (.error (.reading fault), s)
    | .ok (form, asked) =>
      let (id, s) := s.idFor newId asked
      let (compiled, s) := s.compile form
      let (mounted, store) := store.mount today now id form compiled
      let s := { s with store := some store }
      match mounted.result with
      | .error fault => (.error (.operation fault), s)
      | .ok session => (draftResponse id session.draft, s)

/-- Finds a session, which counts as an access, and goes on with it. -/
def withSession (now : τ) (s : Service τ) (id : Text)
    (go : Session τ → Except Crash Response × Session τ) : Handled τ :=
  match s.store with
  | none => (.ok unconfigured, s)
  | some store =>
    let (found, store) := store.access now id
    match found.result with
    | .ok (some session) =>
      let (answer, session) := go session
      (answer, { s with store := some (store.update id session) })
    | _ => (.ok (noSession id), { s with store := some store })

/-- Shows a session. -/
def showDraft (now : τ) (s : Service τ) (id : Text) : Handled τ :=
  s.withSession now id fun session => (draftResponse id session.draft, session)

/-- The response to a step that changes a session: the draft after it, or the refusal of a field
that does not exist. -/
def stepResponse (id : Text) (step : Draft.Step Unit) : Except Crash Response :=
  match step.outcome.result with
  | .ok () => draftResponse id step.draft
  | .error (.unknownField key) => .ok (refusalText 400 (Fault.unknownField key).message)
  | .error fault => .error (.operation fault)

/-- Carries out a step on a session. -/
def changeDraft (now : τ) (s : Service τ) (id : Text)
    (change : Draft → Draft.Step Unit) : Handled τ :=
  s.withSession now id fun session =>
    let step := change session.draft
    (stepResponse id step, { session with draft := step.draft })

/-- Submits a session. -/
def submitDraft (today : Date) (now : τ) (s : Service τ) (id : Text) : Handled τ :=
  s.withSession now id fun session =>
    let step := session.draft.submit today (some fun _ => .ok ())
    let answer := match step.outcome.result with
      | .ok r => .ok (submissionResponse r)
      | .error fault => .error (.operation fault)
    (answer, { session with draft := step.draft })

/-- Deletes a session. -/
def endSession (s : Service τ) (id : Text) : Handled τ :=
  match s.store with
  | none => (.ok unconfigured, s)
  | some store =>
    let (was, store) := store.remove id
    let message := if was then "Session reset" else "Session not found"
    (.ok ⟨200, document [("success", .bool was), ("message", .text message)]⟩,
      { s with store := some store })

/-- Tells how many sessions there are. -/
def health (s : Service τ) : Response :=
  let count := (s.store.map Store.size).getD 0
  ⟨200, document [("status", .text "healthy"), ("active_sessions", .int count)]⟩

/-- Handles a request at an endpoint.  A body that is not accepted is refused before the session is
looked for. -/
def handleAt (today : Date) (now : τ) (newId : Nat → String) (s : Service τ)
    (body : List UInt8) : Endpoint → Handled τ
  | .check => s.check body
  | .forms => s.mount today now newId body
  | .form id => s.showDraft now id
  | .values id =>
    match readValues body with
    | .error fault => (.ok fault.response, s)
    | .ok values => s.changeDraft now id fun draft =>
        draft.writeAll today (values.entries.map fun e => (.text e.1, e.2))
  | .touch id =>
    match readFieldId body with
    | .error fault => (.ok fault.response, s)
    | .ok field => s.changeDraft now id fun draft => draft.touch (.text field)
  | .submit id => s.submitDraft today now id
  | .reset =>
    match readSessionId body with
    | .error fault => (.ok fault.response, s)
    | .ok id => s.endSession id
  | .health => (.ok s.health, s)

/-- Answers a request. -/
def handle (today : Date) (now : τ) (newId : Nat → String) (s : Service τ) (r : Request) :
    Outcome × Service τ :=
  match Endpoint.ofPath? r.path with
  | none => (send (.ok unknownPath), s)
  | some endpoint =>
    if r.method ≠ endpoint.method then (send (.ok otherMethod), s)
    else
      let (answer, s) := s.handleAt today now newId r.body endpoint
      (send answer, s)

end Service

end FormEngine
