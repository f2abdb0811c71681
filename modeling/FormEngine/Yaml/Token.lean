/-!
# Tokens of YAML

The pieces of a document before they are put together: indicators, the beginnings and ends of
collections that indentation implies, properties of nodes, and scalars.  A scalar's text is given by
its code points, since an escape may denote a surrogate.
-/

namespace FormEngine.Yaml

/-- An instruction about a document. -/
inductive Directive where
  | version (major : Nat)
  | tagHandle (handle expansion : String)
  | other
deriving DecidableEq, Repr

/-- A piece of a document. -/
inductive Token where
  | directive (d : Directive)
  | documentStart
  | documentEnd
  | blockSequenceStart
  | blockMappingStart
  | blockEnd
  | flowSequenceStart
  | flowSequenceEnd
  | flowMappingStart
  | flowMappingEnd
  | blockEntry
  | flowEntry
  | key
  | value
  | reference (name : String)
  | anchor (name : String)
  | tag (handle : Option String) (suffix : String)
  | scalar (plain : Bool) (points : List Nat)
deriving DecidableEq, Repr

end FormEngine.Yaml
