import FormEngine.Pattern.Fault
import FormEngine.Value.Display
import FormEngine.Value.Equality

/-!
# Problems of a declaration

Why a document does not declare a form, told place by place.  `Checked` is the result of reading a
part of a document: what it declares, or all the problems found in it, or a fault that ends the
reading at once.  Two readings combine so that the problems of both are told, in order.
-/

namespace FormEngine

/-- A step on the way to a place in a document. -/
inductive Step where
  | name (text : String)
  | index (i : Int)
deriving DecidableEq, Repr

/-- The text of a step. -/
def Step.text : Step → String
  | .name text => text
  | .index i => toString i

/-- What a declaration says against itself, in a sentence of its own. -/
inductive Objection where
  | invalidPattern (source : Text) (cause : Pattern.Cause) (index : Option Nat)
  | conflictingPattern
  | idMissing
  | idRepeated (id : Text)
  | otherId (key id : Text)
  | unknownShown (id : String)
  | unknownCondition (key : Text) (id : String)
  | ownCondition (key : Text)
deriving DecidableEq, Repr

/-- The sentence of an objection. -/
def Objection.sentence : Objection → Text
  | .invalidPattern source cause index =>
    "Invalid pattern " ++ quoted source ++ ": " ++ Pattern.faultMessage source.glyphs cause index
  | .conflictingPattern => "ASCII and UNICODE flags are incompatible"
  | .idMissing => "Field definitions given as a list must each have an 'id'"
  | .idRepeated id => "Duplicate field ID: '" ++ id ++ "'"
  | .otherId key id => "Field '" ++ key ++ "' declares a different id '" ++ id ++ "'"
  | .unknownShown id => "Layout references non-existent field '" ++ id ++ "'"
  | .unknownCondition key id =>
    "Field '" ++ key ++ "' has visible_when referencing non-existent field '" ++ id ++ "'"
  | .ownCondition key => "Field '" ++ key ++ "' has visible_when referencing itself"

/-- What is wrong at a place. -/
inductive Cause where
  | missing
  | notText
  | notUnicode
  | textTooShort
  | notInteger
  | unreadableInteger
  | integerTooLarge
  | fractionalInteger
  | notFinite
  | notNumber
  | unreadableNumber
  | notBoolean
  | unreadableBoolean
  | below (least : Nat)
  | notAmong (names : List String)
  | notExactly (name : String)
  | notMapping
  | notMappingOf (declaration : String)
  | notNode
  | notList
  | noEntries
  | notCallable
  | kindMissing
  | kindUnknown (shown : String)
  | objection (o : Objection)
deriving DecidableEq, Repr

namespace Cause

/-- Names between quotes, the last two joined by a word. -/
def listed : List String → String
  | [] => ""
  | [a] => "'" ++ a ++ "'"
  | [a, b] => "'" ++ a ++ "' or '" ++ b ++ "'"
  | a :: rest => "'" ++ a ++ "', " ++ listed rest

/-- The code of a cause. -/
def code : Cause → String
  | .missing => "missing"
  | .notText => "string_type"
  | .notUnicode => "string_unicode"
  | .textTooShort => "string_too_short"
  | .notInteger => "int_type"
  | .unreadableInteger => "int_parsing"
  | .integerTooLarge => "int_parsing_size"
  | .fractionalInteger => "int_from_float"
  | .notFinite => "finite_number"
  | .notNumber => "float_type"
  | .unreadableNumber => "float_parsing"
  | .notBoolean => "bool_type"
  | .unreadableBoolean => "bool_parsing"
  | .below _ => "greater_than_equal"
  | .notAmong _ => "enum"
  | .notExactly _ => "literal_error"
  | .notMapping => "dict_type"
  | .notMappingOf _ => "model_type"
  | .notNode => "model_attributes_type"
  | .notList => "list_type"
  | .noEntries => "too_short"
  | .notCallable => "callable_type"
  | .kindMissing => "union_tag_not_found"
  | .kindUnknown _ => "union_tag_invalid"
  | .objection _ => "value_error"

/-- The text of a cause. -/
def message : Cause → Text
  | .missing => "Field required"
  | .notText => "Input should be a valid string"
  | .notUnicode => "Input should be a valid string, unable to parse raw data as a unicode string"
  | .textTooShort => "String should have at least 1 character"
  | .notInteger => "Input should be a valid integer"
  | .unreadableInteger =>
    "Input should be a valid integer, unable to parse string as an integer"
  | .integerTooLarge => "Unable to parse input string as an integer, exceeded maximum size"
  | .fractionalInteger =>
    "Input should be a valid integer, got a number with a fractional part"
  | .notFinite => "Input should be a finite number"
  | .notNumber => "Input should be a valid number"
  | .unreadableNumber => "Input should be a valid number, unable to parse string as a number"
  | .notBoolean => "Input should be a valid boolean"
  | .unreadableBoolean => "Input should be a valid boolean, unable to interpret input"
  | .below least => "Input should be greater than or equal to " ++ toString least
  | .notAmong names => "Input should be " ++ listed names
  | .notExactly name => "Input should be '" ++ name ++ "'"
  | .notMapping => "Input should be a valid dictionary"
  | .notMappingOf declaration => "Input should be a valid dictionary or instance of " ++ declaration
  | .notNode => "Input should be a valid dictionary or object to extract fields from"
  | .notList => "Input should be a valid list"
  | .noEntries => "Dictionary should have at least 1 item after validation, not 0"
  | .notCallable => "Input should be callable"
  | .kindMissing => "Unable to extract tag using discriminator 'kind'"
  | .kindUnknown shown => "Input tag '" ++ shown
      ++ "' found using 'kind' does not match any of the expected tags: "
      ++ "'field', 'stack', 'grid', 'section'"
  | .objection o => "Value error, " ++ o.sentence

end Cause

/-- A cause at a place, given by the steps from the outside in. -/
structure Problem where
  place : List Step
  cause : Cause
deriving DecidableEq, Repr

/-- The place and cause of a problem in one line. -/
def Problem.line (p : Problem) : Text :=
  let place := String.intercalate "." (p.place.map Step.text)
  (if place = "" then "schema" else place) ++ ": " ++ p.cause.message

/-- What ends the reading of a document at once. -/
inductive ReadFault where
  /-- The name of a field definition can be no key. -/
  | unhashableId (kind : Value.Unhashable)
  /-- A pattern repeats beyond all bounds. -/
  | countTooLarge
  /-- The sentence of an objection cannot be encoded. -/
  | unencodable (sentence : Text)
deriving DecidableEq, Repr

/-- The text about the first surrogates in a text that cannot be encoded. -/
def unencodableMessage (t : Text) : String :=
  let before := t.points.takeWhile isScalar
  let surrogates := (t.points.drop before.length).takeWhile fun n => !isScalar n
  let place := match surrogates with
    | [n] => "character '\\u" ++ String.ofList (hexPadded 4 n) ++ "' in position "
        ++ toString before.length
    | ns => "characters in position " ++ toString before.length ++ "-"
        ++ toString (before.length + ns.length - 1)
  "'utf-8' codec can't encode " ++ place ++ ": surrogates not allowed"

/-- The text of a fault. -/
def ReadFault.message : ReadFault → String
  | .unhashableId kind => kind.message
  | .countTooLarge => "the repetition number is too large"
  | .unencodable sentence => unencodableMessage sentence

/-- The result of reading a part of a document. -/
inductive Checked (α : Type) where
  | accepted (a : α)
  | rejected (problems : List Problem)
  | stopped (fault : ReadFault)
deriving Inhabited

namespace Checked

variable {α β : Type}

/-- One problem right here. -/
def problem (cause : Cause) : Checked α := .rejected [⟨[], cause⟩]

/-- One objection right here; a sentence that cannot be encoded ends the reading. -/
def objected (o : Objection) : Checked α :=
  if o.sentence.isPlain then .problem (.objection o) else .stopped (.unencodable o.sentence)

/-- A function applied to what is declared. -/
def map (f : α → β) : Checked α → Checked β
  | .accepted a => .accepted (f a)
  | .rejected ps => .rejected ps
  | .stopped fault => .stopped fault

/-- A reading that depends on what is declared. -/
def bind (c : Checked α) (f : α → Checked β) : Checked β :=
  match c with
  | .accepted a => f a
  | .rejected ps => .rejected ps
  | .stopped fault => .stopped fault

/-- Two readings one after the other: both declare, or the problems of both are told. -/
def apply (f : Checked (α → β)) (c : Checked α) : Checked β :=
  match f, c with
  | .stopped fault, _ => .stopped fault
  | _, .stopped fault => .stopped fault
  | .rejected ps, .rejected qs => .rejected (ps ++ qs)
  | .rejected ps, .accepted _ => .rejected ps
  | .accepted _, .rejected qs => .rejected qs
  | .accepted f, .accepted a => .accepted (f a)

instance : Functor Checked where
  map := map

instance : Pure Checked where
  pure := accepted

instance : Seq Checked where
  seq f c := apply f (c ())

/-- The same reading one step further inside. -/
def within (step : Step) : Checked α → Checked α
  | .rejected ps => .rejected (ps.map fun p => { p with place := step :: p.place })
  | c => c

/-- Reads a list of readings in order. -/
def all : List (Checked α) → Checked (List α)
  | [] => .accepted []
  | c :: cs => List.cons <$> c <*> all cs

/-- Two readings declare exactly if both do. -/
theorem apply_eq_accepted {f : Checked (α → β)} {c : Checked α} {b : β} :
    apply f c = .accepted b ↔ ∃ g a, f = .accepted g ∧ c = .accepted a ∧ g a = b := by
  cases f <;> cases c <;> simp [apply]

/-- Going a step inside changes nothing of what is declared. -/
@[simp] theorem within_eq_accepted {step : Step} {c : Checked α} {a : α} :
    within step c = .accepted a ↔ c = .accepted a := by
  cases c <;> simp [within]

end Checked

end FormEngine
