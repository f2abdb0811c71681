import FormEngine.Value.Display
import FormEngine.Value.Equality

/-!
# Custom predicates

A predicate judges the value of a field in the light of all values.  It answers with a value, or it
fails with a message.  The answer `true` accepts; a text that is not empty rejects with that text;
anything else rejects without one.

A predicate only sees the mapping that it is given, so nothing that it does there has an effect on
the form.  A host hands predicates over ready-made; `Predicate.Host` says what they answer, and
`Predicate.ofDescription` is the host that describes them by data.
-/

namespace FormEngine

/-- A custom predicate, with the description that its host gave of it. -/
structure Predicate where
  description : Value
  /-- The answer to a value and all values, or the message with which it fails. -/
  answer : Value → Mapping Value → Except Text Value

instance : Inhabited Predicate := ⟨⟨.null, fun _ _ => .ok .null⟩⟩

namespace Predicate

/-- The predicates that a host hands over, by their descriptions. -/
abbrev Host := Value → Predicate

/-- What an answer means. -/
inductive Verdict where
  | accepted
  | rejected (message : Text)
deriving DecidableEq, Repr

/-- The message of a rejection without one. -/
def defaultMessage : String := "Invalid value"

/-- The rejection with a text, where an empty one stands for none. -/
def rejection (text : Text) : Verdict := .rejected (if text = "" then defaultMessage else text)

/-- The meaning of an answer. -/
def verdictOf : Value → Verdict
  | .bool true => .accepted
  | .text t => rejection t
  | _ => .rejected defaultMessage

/-- A part of a description. -/
def part (name : String) : Value → Value
  | .map entries => (Value.lookupText name entries).getD .null
  | _ => .null

/-- The predicate that a description stands for.  The description names its kind: a constant answer,
equality with another field, failure always or on one value, and predicates that accept everything,
among them the one whose calls a host records. -/
def ofDescription (d : Value) : Predicate where
  description := d
  answer value values :=
    let message := part "message" d
    match part "kind" d with
    | .text (.plain "const") => .ok (part "value" d)
    | .text (.plain "equals_field") =>
      let other := (values.get? (part "field" d).plain).getD .null
      .ok (if value.same other then .bool true else message)
    | .text (.plain "raise") => .error message.plain
    | .text (.plain "raise_if") =>
      if value.same (part "value" d) then .error message.plain else .ok (.bool true)
    | _ => .ok (.bool true)

end Predicate

end FormEngine
