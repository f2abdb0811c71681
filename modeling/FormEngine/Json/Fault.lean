import FormEngine.Number.Literal
import FormEngine.Text.Encoding
import FormEngine.Value.Display

/-!
# Faults of JSON documents

Why a text is no JSON document, and where: a fault of the grammar is reported with its line, column
and index.
-/

namespace FormEngine.Json

/-- Where the grammar of JSON is violated. -/
inductive SyntaxCause where
  | byteOrderMark
  | expectingValue
  | expectingName
  | expectingColon
  | expectingComma
  | extraData
  | unterminatedString
  | controlCharacter
  | invalidEscape
  | invalidUnicodeEscape
deriving DecidableEq, Repr

/-- The text of a cause. -/
def SyntaxCause.message : SyntaxCause → String
  | .byteOrderMark => "Unexpected UTF-8 BOM (decode using utf-8-sig)"
  | .expectingValue => "Expecting value"
  | .expectingName => "Expecting property name enclosed in double quotes"
  | .expectingColon => "Expecting ':' delimiter"
  | .expectingComma => "Expecting ',' delimiter"
  | .extraData => "Extra data"
  | .unterminatedString => "Unterminated string starting at"
  | .controlCharacter => "Invalid control character at"
  | .invalidEscape => "Invalid \\escape"
  | .invalidUnicodeEscape => "Invalid \\uXXXX escape"

/-- Why a document cannot be decoded. -/
inductive Fault where
  /-- The grammar is violated at an index of the text. -/
  | malformed (cause : SyntaxCause) (text : List Nat) (index : Nat)
  /-- The octets are no text. -/
  | encoding (fault : EncodingFault)
  /-- An object has two members with this key. -/
  | duplicateKey (key : Value)
  /-- An integer has more digits than may be read. -/
  | tooManyDigits (count : Nat)

/-- The line of an index, counted from 1. -/
def lineOf (text : List Nat) (index : Nat) : Nat :=
  ((text.take index).filter (· = 0x0A)).length + 1

/-- The column of an index in its line, counted from 1. -/
def columnOf (text : List Nat) (index : Nat) : Nat :=
  ((text.take index).reverse.takeWhile (· ≠ 0x0A)).length + 1

/-- The text of a violation of the grammar. -/
def syntaxMessage (cause : SyntaxCause) (text : List Nat) (index : Nat) : String :=
  cause.message ++ ": line " ++ toString (lineOf text index) ++ " column "
    ++ toString (columnOf text index) ++ " (char " ++ toString index ++ ")"

/-- The text of a fault. -/
def Fault.message : Fault → Text
  | .malformed cause text index =>
    "Invalid JSON schema document: " ++ syntaxMessage cause text index
  | .encoding fault => "Invalid JSON schema document: " ++ fault.message
  | .duplicateKey key => "Duplicate key in schema document: '" ++ key.plain ++ "'"
  | .tooManyDigits count => tooManyDigitsMessage count

end FormEngine.Json
