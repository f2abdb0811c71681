import FormEngine.Yaml.Node.Reader
import FormEngine.Yaml.Scalar

/-!
# Decoding YAML

From the nodes of a document to its value.  How mappings are built is a parameter, a `Loader`.
`lastWins` lets a later entry replace an earlier one with the same key; `uniqueKeys` refuses the
mapping, and is what `decode` uses.  To it an entry that overrides a merged one is a repetition like
any other.

A shared node is decoded once.  A collection is open while its items are built after itself, so that
they may refer to it.  To `lastWins` all collections are open; to `uniqueKeys` mappings are not, nor
is anything inside them, and there a node that refers to itself has no value.  What is built for an
open collection that refers to itself need have no end, and the value told here only stands for it:
with an empty collection for the inner occurrence, and without what a mapping merges from around it.
-/

namespace FormEngine.Yaml

/-- What the entries of a mapping become, once its merges are carried out and its keys and values
are decoded. -/
abbrev CloseMapping := List (Value × Value) → Except Fault Value

/-- A way of building mappings. -/
structure Loader where
  close : CloseMapping
  /-- Whether all that is inside a mapping is built before the mapping is there. -/
  deep : Bool
  /-- Whether a text without characters and a sequence without items with the tag of a mapping count
  as mappings without entries. -/
  lenient : Bool

/-- Whether two keys are the same; not-a-number is a key like any other. -/
def sameKey (k l : Value) : Bool := k.same l || (k.isNan && l.isNan)

/-- Writes an entry: in the place of the one with the same key if there is one, else at the end. -/
def putEntry (entry : Value × Value) : List (Value × Value) → List (Value × Value)
  | [] => [entry]
  | e :: es =>
    if sameKey entry.1 e.1 then (e.1, entry.2) :: es else e :: putEntry entry es

/-- A later entry replaces an earlier one with the same key. -/
def keepLast : CloseMapping := fun entries => do
  require (entries.all fun e => e.1.unhashable?.isNone)
  return .map (entries.foldl (fun acc e => putEntry e acc) [])

/-- Whether a key can be told in a message: an integer must not have too many digits. -/
def isTellable : Value → Bool
  | .int i => i.natAbs < Nat.pow 10 digitLimit
  | _ => true

/-- The fault of a key that occurs a second time. -/
def repetition (key : Value) : Fault :=
  if isTellable key then .duplicateKey key else .untellableKey

/-- The first key, in order, that can be no key or that occurs a second time. -/
def firstFault? : List Value → List (Value × Value) → Option Fault
  | _, [] => none
  | seen, (key, _) :: rest =>
    match key.unhashable? with
    | some kind => some (.unhashableKey kind)
    | none =>
      if seen.any (sameKey key) then some (repetition key) else firstFault? (key :: seen) rest

/-- A mapping with a repeated key is refused. -/
def refuseDuplicates : CloseMapping := fun entries =>
  match firstFault? [] entries with
  | some fault => .error fault
  | none => .ok (.map entries)

/-- Later entries win, and a mapping is there before its entries. -/
def Loader.lastWins : Loader := { close := keepLast, deep := false, lenient := false }

/-- Repeated keys are refused, and a mapping is there after its entries. -/
def Loader.uniqueKeys : Loader := { close := refuseDuplicates, deep := true, lenient := true }

/-- Decoding with the values of the shared nodes so far. -/
abbrev Decode (α : Type) := StateT (List (String × Value)) (Except Fault) α

namespace Decode

/-- A fault. -/
def fail {α : Type} (fault : Fault) : Decode α := fun _ => .error fault

/-- A result that may be a fault. -/
def ofExcept {α : Type} (result : Except Fault α) : Decode α := fun s => result.map fun a => (a, s)

/-- The value of a shared node, if it is known. -/
def known? (name : String) : Decode (Option Value) := fun s => .ok (s.lookup name, s)

/-- Remembers the value of a shared node. -/
def remember (name : String) (value : Value) : Decode Unit := fun s => .ok ((), (name, value) :: s)

end Decode

/-- What stands for a node around a reference to it. -/
def Kind.standIn : Kind → Value
  | .mapping => .map []
  | .sequence | .scalar => .list []

/-- What stands for an open collection other than a mapping. -/
def Tag.opening? : Tag → Option Value
  | .sequence | .pairs | .orderedMapping => some (.list [])
  | .set => some (.set [])
  | _ => none

/-- Adds a member to a set; it has to be hashable. -/
def addMember (members : List Value) (member : Value) : Except Fault (List Value) :=
  match member.unhashable? with
  | some _ => .error .malformed
  | none => .ok (Value.insertMember member members)

/-- The entries of a mapping or a set.  One that merges a node around it has itself among them,
which is possible only for what is open. -/
def openEntries (isOpen : Bool) (entries : Entries) : Except Fault Entries := do
  require (isOpen || !Node.mergesBack entries)
  Node.spliced entries

/-- The entries of a node with the tag of a mapping. -/
def Loader.entriesOf (loader : Loader) (isOpen : Bool) : Node → Except Fault Entries
  | .mapping _ entries => openEntries isOpen entries
  | .sequence _ items => do
    require loader.lenient
    match items with
    | [] => return []
    | item :: _ => .error (.notEntry item.kind)
  | .scalar _ points => do
    require loader.lenient
    if points.isEmpty then return [] else .error .textForEntries
  | _ => .error .malformed

/-- The only entry of an item of a sequence of pairs. -/
def onlyEntry : Node → Except Fault (Node × Node)
  | .mapping _ [entry] => .ok entry
  | .shared _ node => onlyEntry node
  | _ => .error .malformed

/-- Decodes a node.  `whole` says that nothing but open collections lie around it; `fuel` bounds the
nesting. -/
def decodeNode (loader : Loader) : Nat → Bool → Node → Decode Value
  | 0, _, _ => .fail .malformed
  | fuel + 1, whole, node => do
    match node with
    | .shared name content =>
      match ← Decode.known? name with
      | some v => return v
      | none =>
        if let some opening := if whole then content.tag.opening? else none then
          Decode.remember name opening
        let v ← decodeNode loader fuel whole content
        Decode.remember name v
        return v
    | .enclosing name kind =>
      match ← Decode.known? name with
      | some v => return v
      | none => if loader.deep then .fail .malformed else return kind.standIn
    | node =>
      match node.tag with
      | .sequence =>
        match node with
        | .sequence _ items => return .list (← items.mapM (decodeNode loader fuel whole))
        | _ => .fail .malformed
      | .mapping =>
        let isOpen := whole && !loader.deep
        let entries ← .ofExcept (loader.entriesOf isOpen node)
        let decoded ← entries.mapM fun e => do
          return (← decodeNode loader fuel isOpen e.1, ← decodeNode loader fuel isOpen e.2)
        .ofExcept (loader.close decoded)
      | .set =>
        match node with
        | .mapping _ entries =>
          let entries ← .ofExcept (openEntries whole entries)
          let members ← entries.foldlM (fun members e => do
            let members ← .ofExcept (addMember members (← decodeNode loader fuel whole e.1))
            let _ ← decodeNode loader fuel whole e.2
            return members) []
          return .set members
        | _ => .fail .malformed
      | .pairs | .orderedMapping =>
        match node with
        | .sequence _ items =>
          return .list (← items.mapM fun item => do
            let entry ← .ofExcept (onlyEntry item)
            let key ← decodeNode loader fuel whole entry.1
            return .tuple [key, ← decodeNode loader fuel whole entry.2])
        | _ => .fail .malformed
      | tag =>
        match node.scalarText with
        | some points =>
          if tag = .moment ∧ node.kind = .mapping then .fail .entriesForMoment
          else .ofExcept (scalarValue tag points)
        | none => .fail .malformed

/-- Decodes a text; a text without a document has the value null. -/
def decodeWith (loader : Loader) (text : List Nat) : Except Fault Value := do
  require (text.all isPrintablePoint)
  let cs := text.map Char.ofNat
  match ← Node.ofText? cs with
  | none => return .null
  | some node => return (← (decodeNode loader (2 * cs.length + 4) true node).run []).1

/-- Decodes a text, refusing mappings with repeated keys. -/
def decode (text : List Nat) : Except Fault Value := decodeWith .uniqueKeys text

end FormEngine.Yaml
