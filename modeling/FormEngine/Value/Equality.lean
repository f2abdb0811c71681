import FormEngine.Value.Basic

/-!
# Equality of values

Two notions.  `Value.same` compares by meaning: numbers by exact value whatever their kind, booleans
counting as 0 and 1, sequences item by item, mappings and sets without regard to order.
`Value.strictlySame` compares in the same way, except that a boolean is the same only as an equal
boolean; the guard concerns the two values themselves and not what they contain.

`Value.unhashable?` finds the part of a value that keeps it from being a key or a member of a set.
-/

namespace FormEngine

namespace Value

/-- Whether a value is a number of the same value as the given one. -/
def sameNumber (x : Number) : Value → Bool
  | .bool b => x.same (.int (if b then 1 else 0))
  | .int i => x.same (.int i)
  | .float y => x.same (.float y)
  | _ => false

mutual

/-- Whether two values mean the same. -/
def same : Value → Value → Bool
  | .null, .null => true
  | .bool b, w => sameNumber (.int (if b then 1 else 0)) w
  | .int i, w => sameNumber (.int i) w
  | .float x, w => sameNumber (.float x) w
  | .text s, .text t => s = t
  | .bytes s, .bytes t => s = t
  | .date d, .date e => d = e
  | .dateTime t, .dateTime u => t.same u
  | .list xs, .list ys => sameItems xs ys
  | .tuple xs, .tuple ys => sameItems xs ys
  | .set xs, .set ys => xs.length = ys.length && allWithin xs ys
  | .map es, .map fs => es.length = fs.length && entriesWithin es fs
  | .prepared k v, .prepared l w => k = l && same v w
  | _, _ => false
termination_by structural v => v

/-- Whether two sequences have the same items in the same order. -/
def sameItems : List Value → List Value → Bool
  | [], [] => true
  | x :: xs, y :: ys => same x y && sameItems xs ys
  | _, _ => false
termination_by structural v => v

/-- Whether every item of the first collection has its like in the second. -/
def allWithin : List Value → List Value → Bool
  | [], _ => true
  | x :: xs, ys => ys.any (fun y => same x y) && allWithin xs ys
termination_by structural v => v

/-- Whether every entry of the first mapping has its like in the second. -/
def entriesWithin : List (Value × Value) → List (Value × Value) → Bool
  | [], _ => true
  | (k, v) :: es, fs => fs.any (fun f => same k f.1 && same v f.2) && entriesWithin es fs
termination_by structural v => v

end

/-- Whether two values are the same and neither is a boolean, or both are equal booleans. -/
def strictlySame : Value → Value → Bool
  | .bool b, .bool c => b = c
  | .bool _, _ => false
  | _, .bool _ => false
  | v, w => same v w

/-! ## Keys -/

/-- The kinds of values that can be neither keys nor members of a set. -/
inductive Unhashable where
  | list
  | set
  | map
deriving DecidableEq, Repr

/-- The name of a kind in messages. -/
def Unhashable.name : Unhashable → String
  | .list => "list"
  | .set => "set"
  | .map => "dict"

/-- The text of the fault of a value that can be no key. -/
def Unhashable.message (kind : Unhashable) : String := "unhashable type: '" ++ kind.name ++ "'"

mutual

/-- The first part of a value that keeps it from being a key: a list, a set or a mapping, at the top
or inside tuples. -/
def unhashable? : Value → Option Unhashable
  | .list _ => some .list
  | .set _ => some .set
  | .map _ => some .map
  | .tuple items => unhashableIn? items
  | _ => none

/-- The first part of any item that keeps it from being a key. -/
def unhashableIn? : List Value → Option Unhashable
  | [] => none
  | v :: vs => (unhashable? v).or (unhashableIn? vs)

end

/-- The value under a key in a list of entries. -/
def lookup (key : Value) (entries : List (Value × Value)) : Option Value :=
  (entries.find? fun e => same key e.1).map (·.2)

/-- The value under a text key in a list of entries. -/
def lookupText (key : Text) (entries : List (Value × Value)) : Option Value :=
  lookup (.text key) entries

/-- Whether a key occurs in a list of entries. -/
def hasKey (key : Value) (entries : List (Value × Value)) : Bool :=
  entries.any fun e => same key e.1

/-- Writes an entry: under the key it has if it is present, else at the end. -/
def insertEntry (key value : Value) : List (Value × Value) → List (Value × Value)
  | [] => [(key, value)]
  | (k, v) :: es => if same key k then (k, value) :: es else (k, v) :: insertEntry key value es

/-- Adds a member to a set unless it has its like there. -/
def insertMember (member : Value) (members : List Value) : List Value :=
  if members.any (fun m => same member m) then members else members ++ [member]

end Value

end FormEngine
