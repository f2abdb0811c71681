import FormEngine.Json.Decoder
import FormEngine.Form.Reader
import FormEngine.Traced
import FormEngine.Yaml.Document

/-!
# Forms in documents

From a text or a file to the form that it declares.  A document is decoded by its format, refusing
mappings with repeated keys, and then read as a form; it has to be a mapping.  The format of a file
follows from its name, and its content is UTF-8, each kind of line end counting as a line feed.
-/

namespace FormEngine

/-- How a document is written. -/
inductive Format where
  | json
  | yaml
deriving DecidableEq, Repr

/-- Why a document declares no form. -/
inductive DocumentFault where
  | json (fault : Json.Fault)
  | yaml (fault : Yaml.Fault)
  /-- The content of a file is no text. -/
  | encoding (fault : EncodingFault)
  | notMapping
  | rejected (problems : List Problem)
  | stopped (fault : ReadFault)

/-- The text of a fault; problems take one line each. -/
def DocumentFault.message : DocumentFault → Text
  | .json fault => fault.message
  | .yaml fault => fault.message
  | .encoding fault => fault.message
  | .notMapping => "Schema document must be a mapping at the top level"
  | .rejected problems => Text.join "\n" (problems.map Problem.line)
  | .stopped fault => fault.message

/-- Decodes a text, refusing mappings with repeated keys. -/
def Format.decode (format : Format) (text : List Nat) : Except DocumentFault Value :=
  match format with
  | .json =>
    match Json.decodePoints Json.refuseDuplicates text with
    | .ok v => .ok v
    | .error fault => .error (.json fault)
  | .yaml =>
    match Yaml.decode text with
    | .ok v => .ok v
    | .error fault => .error (.yaml fault)

/-- What a file's name ends in after its last dot, if something stands before and after that dot. -/
def nameEnding? (name : List Char) : Option (List Char) :=
  let ending := (name.reverse.takeWhile (· ≠ '.')).reverse
  if ending = [] ∨ name.length < ending.length + 2 then none else some ending

/-- The format of a file. -/
def Format.ofFileName (name : String) : Format :=
  match (nameEnding? name.toList).map fun ending => String.ofList (ending.map Char.toLower) with
  | some "yaml" => .yaml
  | some "yml" => .yaml
  | _ => .json

/-- Every line end as a line feed. -/
def unifyLineEnds : List Nat → List Nat
  | 0x0D :: 0x0A :: rest => 0x0A :: unifyLineEnds rest
  | 0x0D :: rest => 0x0A :: unifyLineEnds rest
  | n :: rest => n :: unifyLineEnds rest
  | [] => []

/-- The text of a file. -/
def fileText (octets : List UInt8) : Except DocumentFault (List Nat) :=
  match decodeUtf8 false octets with
  | .ok points => .ok (unifyLineEnds points)
  | .error fault => .error (.encoding fault)

namespace Form

/-- The form that a document declares. -/
def ofDocument (document : Value) : Except DocumentFault Form :=
  match document with
  | .map _ =>
    match read document with
    | .accepted s => .ok s
    | .rejected problems => .error (.rejected problems)
    | .stopped fault => .error (.stopped fault)
  | _ => .error .notMapping

/-- The form that a text declares. -/
def ofText (format : Format) (text : List Nat) : Except DocumentFault Form := do
  ofDocument (← format.decode text)

/-- The form that a file declares. -/
def ofFile (name : String) (octets : List UInt8) : Except DocumentFault Form := do
  ofText (.ofFileName name) (← fileText octets)

/-- The line of the log about a form loaded from a file. -/
def loadedLine (form : Form) (name : String) : LogLine :=
  ⟨.info, .document, "Loaded schema '" ++ form.id ++ "' from " ++ name ++ " ("
    ++ toString form.fields.size ++ " fields)"⟩

end Form

end FormEngine
