import FormEngine.Form.Document
import FormEngine.Form.Dump

/-!
# Bodies of requests

Two kinds of bodies.  Those that carry a form are decoded like the document of a form, so a repeated
key is refused, and problems are told in lines: `FormRefusal`.  All others are plain JSON documents,
and each problem with them is told with its place and with the value found there:
`BodyFault.detail`.
-/

namespace FormEngine.Service

/-! ## Plain bodies -/

/-- Why a body is not accepted. -/
inductive BodyFault where
  /-- The body is no text, or holds a number that cannot be read. -/
  | unreadable
  | malformed (cause : Json.SyntaxCause) (index : Nat)
  | problems (body : Value) (found : List Problem)

/-- Decodes a body; an empty one counts as null. -/
def decodeBody (octets : List UInt8) : Except BodyFault Value :=
  if octets = [] then .ok .null
  else match Json.decodeOctetsWith Json.keepLast octets with
  | .ok v => .ok v
  | .error (.malformed cause _ index) => .error (.malformed cause index)
  | .error _ => .error .unreadable

/-- Reads a body, which has to be a mapping. -/
def readMembers {α : Type} (read : Members → Checked α) : Value → Checked α
  | .null => .problem .missing
  | .map es => read es
  | _ => .problem .notNode

/-- Decodes and reads a body. -/
def readBody {α : Type} (read : Members → Checked α) (octets : List UInt8) :
    Except BodyFault α := do
  let body ← decodeBody octets
  match readMembers read body with
  | .accepted a => return a
  | .rejected found => .error (.problems body found)
  | .stopped _ => .error (.problems body [])

/-- The values to write. -/
def readValues (octets : List UInt8) : Except BodyFault (Mapping Value) :=
  readBody (fun es => es.need "values" "values" (readMapping .accepted)) octets

/-- The field to touch. -/
def readFieldId (octets : List UInt8) : Except BodyFault Text :=
  readBody (fun es => es.need "field_id" "field_id" Scalar.readText) octets

/-- The session to delete. -/
def readSessionId (octets : List UInt8) : Except BodyFault Text :=
  readBody (fun es => es.need "session_id" "session_id" Scalar.readText) octets

/-- The value at a place, or the last one on the way if there is none. -/
def valueAt : List Step → Value → Value
  | .name key :: steps, .map es =>
    match Value.lookupText key es with
    | some v => valueAt steps v
    | none => .map es
  | _, v => v

mutual

/-- A value as it is sent back: members whose names begin with `_sa` are left out. -/
def echoed : Value → Value
  | .list items => .list (echoedItems items)
  | .map es => .map (echoedMembers es)
  | v => v

/-- Items as they are sent back. -/
def echoedItems : List Value → List Value
  | [] => []
  | v :: vs => echoed v :: echoedItems vs

/-- Members as they are sent back. -/
def echoedMembers : Members → Members
  | [] => []
  | (key, v) :: es =>
    if ['_', 's', 'a'].isPrefixOf key.plain.glyphs then echoedMembers es
    else (key, echoed v) :: echoedMembers es

end

/-- A step to a place as it is told. -/
def dumpStep : Step → Value
  | .name text => .text text
  | .index i => .int i

/-- A problem of a body with the value found at its place. -/
def problemDetail (body : Value) (p : Problem) : Value :=
  document [("type", .text p.cause.code), ("loc", .list (.text "body" :: p.place.map dumpStep)),
    ("msg", .text p.cause.message), ("input", echoed (valueAt p.place body))]

/-- What is told about a body that is not accepted. -/
def BodyFault.detail : BodyFault → Value
  | .unreadable => .text "There was an error parsing the body"
  | .malformed cause index =>
    .list [document [("type", .text "json_invalid"), ("loc", .list [.text "body", .int index]),
      ("msg", .text "JSON decode error"), ("input", document []),
      ("ctx", document [("error", .text cause.message)])]]
  | .problems body found => .list (found.map (problemDetail body))

/-- The status that goes with it. -/
def BodyFault.status : BodyFault → Nat
  | .unreadable => 400
  | _ => 422

/-! ## Bodies that carry a form -/

/-- What a body that carries a form asks for. -/
structure FormRequest where
  document : Value
  /-- The id for the session, if one is given. -/
  sessionId : Option Text

/-- Reads the document of the form in a body. -/
def needDocument (es : Members) : Checked Value :=
  es.need "form_schema" "form_schema" fun v => Value.ofMapping <$> readMapping .accepted v

/-- Reads a request to check a form. -/
def FormRequest.readCheck : Value → Checked FormRequest :=
  readPart "ValidateSchemaRequest" fun es => (⟨·, none⟩) <$> needDocument es

/-- Reads a request to mount a form. -/
def FormRequest.readMount : Value → Checked FormRequest :=
  readPart "MountFormRequest" fun es =>
    FormRequest.mk <$> needDocument es
      <*> es.take "session_id" "session_id" none (Scalar.orNull Scalar.readText)

/-- Why a body yields no form. -/
inductive FormRefusal where
  /-- The body has another form. -/
  | body (lines : List Text)
  /-- The document declares no form. -/
  | form (lines : List Text)
  /-- A number cannot be read. -/
  | tooManyDigits (count : Nat)
  | stopped (fault : ReadFault)
deriving Repr

/-- The refusal of a document that cannot be decoded. -/
def FormRefusal.ofJson : Json.Fault → FormRefusal
  | .tooManyDigits count => .tooManyDigits count
  | fault => .form [fault.message]

/-- The refusal of a document that declares no form. -/
def FormRefusal.ofLoad : DocumentFault → FormRefusal
  | .json fault => .ofJson fault
  | .rejected problems => .form (problems.map Problem.line)
  | .stopped fault => .stopped fault
  | fault => .form [fault.message]

/-- Decodes a body, reads the request in it, and reads its form. -/
def readForm (read : Value → Checked FormRequest) (octets : List UInt8) :
    Except FormRefusal (Form × Option Text) :=
  match Json.decodeOctets octets with
  | .error fault => .error (.ofJson fault)
  | .ok body =>
    match read body with
    | .rejected problems => .error (.body (problems.map Problem.line))
    | .stopped fault => .error (.stopped fault)
    | .accepted request =>
      match Form.ofDocument request.document with
      | .error fault => .error (.ofLoad fault)
      | .ok form => .ok (form, request.sessionId)

end FormEngine.Service
