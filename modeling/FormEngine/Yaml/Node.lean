import FormEngine.Yaml.Tag

/-!
# Nodes

A document as a tree of tagged nodes.  A node with an anchor is `shared`, and stands as such at its
place and at every reference to it; a reference to a node from inside that node is `enclosing`.

`spliced` carries out the merges of a mapping: the entries that its merge keys bring in, and then
its own.  Of several mappings merged by one key the last comes first.

A merge key may refer to a node around it.  A mapping that merges itself brings in what is left of
it, which is the mapping without this merge key and those before it, and so do the mappings that it
merges; `ended` spells this out as soon as the whole mapping is known, for the mapping and for those
that it merges, which are referred to as such from then on.  A mapping in one of its values that
merges it would have itself among its own entries.  `mergesBack` finds these mappings, and what is
around them is left out of what they merge.
-/

namespace FormEngine.Yaml

/-- A node of a document. -/
inductive Node where
  | scalar (tag : Tag) (points : List Nat)
  | sequence (tag : Tag) (items : List Node)
  | mapping (tag : Tag) (entries : List (Node × Node))
  | shared (name : String) (node : Node)
  | enclosing (name : String) (kind : Kind)

/-- The entries of a mapping, in the order in which they are written. -/
abbrev Entries := List (Node × Node)

namespace Node

/-- A scalar without text. -/
def blank : Node := .scalar (.ofPlain []) []

/-- The tag of a node. -/
def tag : Node → Tag
  | .scalar tag _ => tag
  | .sequence tag _ => tag
  | .mapping tag _ => tag
  | .shared _ node => node.tag
  | .enclosing .. => .unknown

/-- The kind of a node. -/
def kind : Node → Kind
  | .scalar .. => .scalar
  | .sequence .. => .sequence
  | .mapping .. => .mapping
  | .shared _ node => node.kind
  | .enclosing _ kind => kind

/-- A key as it stands in a mapping: the mark of a default value is text there. -/
def asKey : Node → Node
  | .scalar .defaultValue points => .scalar .text points
  | .shared name (.scalar .defaultValue points) => .shared name (.scalar .text points)
  | node => node

/-- The entries of a mapping that are its own. -/
def ownEntries (entries : Entries) : Entries :=
  (entries.filter fun e => e.1.tag ≠ .merge).map fun e => (e.1.asKey, e.2)

mutual

/-- The entries that merge keys bring into a mapping. -/
def mergedEntries : Entries → Except Fault Entries
  | [] => .ok []
  | (key, value) :: rest =>
    if key.tag = .merge then do
      return (← contributed value) ++ (← mergedEntries rest)
    else mergedEntries rest

/-- The entries that a node contributes where it is merged: those of a mapping, or those of the
mappings in a sequence. -/
def contributed : Node → Except Fault Entries
  | .mapping _ entries => do return (← mergedEntries entries) ++ ownEntries entries
  | .sequence _ items => contributedByItems items
  | .shared _ node => contributed node
  | .enclosing .. => .ok []
  | .scalar .. => .error .malformed

/-- The entries that the items of a sequence contribute, those of the last item first; each has to
be a mapping. -/
def contributedByItems : List Node → Except Fault Entries
  | [] => .ok []
  | item :: items => do
    if item.kind ≠ .mapping then .error .malformed
    else
      let first ← contributed item
      return (← contributedByItems items) ++ first

end

/-- The entries of a mapping with its merges carried out. -/
def spliced (entries : Entries) : Except Fault Entries := do
  return (← mergedEntries entries) ++ ownEntries entries

/-! ### Merges of nodes around them -/

mutual

/-- Whether merge keys of a mapping bring in a node around it. -/
def mergesBack : Entries → Bool
  | [] => false
  | (key, value) :: rest => (key.tag = .merge && reachesBack value) || mergesBack rest

/-- Whether a node, where it is merged, brings in a node around it. -/
def reachesBack : Node → Bool
  | .mapping _ entries => mergesBack entries
  | .sequence _ items => reachBack items
  | .shared _ node => reachesBack node
  | .enclosing .. => true
  | .scalar .. => false

/-- Whether one of these items does. -/
def reachBack : List Node → Bool
  | [] => false
  | item :: items => reachesBack item || reachBack items

end

mutual

/-- A node that is merged, with `left` for the node of a name around it. -/
def replaced (name : String) (left : Node) : Node → Node
  | .mapping tag entries => .mapping tag (replacedMerges name left entries)
  | .sequence tag items => .sequence tag (replacedItems name left items)
  | .shared _ node => replaced name left node
  | .enclosing other kind => if other = name then left else .enclosing other kind
  | .scalar tag points => .scalar tag points

/-- The same where the entries of a mapping merge nodes. -/
def replacedMerges (name : String) (left : Node) : Entries → Entries
  | [] => []
  | (key, value) :: rest =>
    (key, if key.tag = .merge then replaced name left value else value) ::
      replacedMerges name left rest

/-- The same of the items of a sequence. -/
def replacedItems (name : String) (left : Node) : List Node → List Node
  | [] => []
  | item :: items => replaced name left item :: replacedItems name left items

end

mutual

/-- The shared mappings that a node, where it is merged, brings in and that merge a node around
them. -/
def sharedBack : Node → List (String × Node)
  | .mapping _ entries => sharedBackMerges entries
  | .sequence _ items => sharedBackItems items
  | .shared name node =>
    if node.kind = .mapping && reachesBack node then (name, node) :: sharedBack node
    else sharedBack node
  | _ => []

/-- The same of the nodes that a mapping merges. -/
def sharedBackMerges : Entries → List (String × Node)
  | [] => []
  | (key, value) :: rest =>
    (if key.tag = .merge then sharedBack value else []) ++ sharedBackMerges rest

/-- The same of the items of a sequence. -/
def sharedBackItems : List Node → List (String × Node)
  | [] => []
  | item :: items => sharedBack item ++ sharedBackItems items

end

/-- Something that is made of a node, with what has become of shared nodes inside it. -/
structure Unrolled (α : Type) where
  result : α
  changed : List (String × Node) := []

/-- Entries of a mapping, each merge key with what is left when it is carried out: the own entries
before it, and all that comes after it.  `around` makes the node of the name of what is left. -/
def unrolled (name : String) (around : Entries → Node) (before : Entries) :
    Entries → Unrolled Entries
  | [] => ⟨before, []⟩
  | (key, value) :: rest =>
    if key.tag = .merge then
      let left := unrolled name around before rest
      let put := replaced name (around left.result)
      ⟨(key, put value) :: left.result,
        (sharedBack value).map (fun e => (e.1, put e.2)) ++ left.changed⟩
    else unrolled name around (before ++ [(key, value)]) rest

/-- A mapping that merges a node around it, with its merge keys unrolled.  If it is shared, it is
not what its name has stood for so far. -/
def unroll (name : String) (around : Node → Node) : Node → Unrolled Node
  | .mapping tag entries =>
    if mergesBack entries then
      let made := unrolled name (fun left => around (.mapping tag left)) [] entries
      ⟨.mapping tag made.result, made.changed⟩
    else ⟨.mapping tag entries, []⟩
  | .shared other (.mapping tag entries) =>
    if mergesBack entries then
      let made := unrolled name (fun left => around (.mapping tag left)) [] entries
      ⟨.mapping tag made.result, (other, .mapping tag made.result) :: made.changed⟩
    else ⟨.shared other (.mapping tag entries), []⟩
  | node => ⟨node, []⟩

/-- The items of a sequence with another node for one of them, at all places where it is shared. -/
def withItem (items : List Node) (i : Nat) (left : Node) : List Node :=
  match items[i]? with
  | some (.shared name _) => items.map fun
    | .shared other node => if other = name then left else .shared other node
    | item => item
  | _ => items.set i left

/-- The items of a sequence of a name, those that merge it unrolled.  `fuel` bounds the number of
items that do. -/
def unrollItems (name : String) (tag : Tag) : Nat → List Node → List (Unrolled Node)
  | 0, items => items.map (⟨·, []⟩)
  | fuel + 1, items => items.mapIdx fun i => unroll name fun left =>
    .sequence tag ((unrollItems name tag fuel (withItem items i left)).map (·.result))

/-- A node of a name when it has ended: a mapping that merges itself brings in what is left of it,
and so does a mapping that merges the sequence whose item it is. -/
def ended (name : String) : Node → Unrolled Node
  | .sequence tag items =>
    let made := unrollItems name tag items.length items
    ⟨.sequence tag (made.map (·.result)), made.flatMap (·.changed)⟩
  | node => unroll name id node

mutual

/-- The text that a node has where a scalar is wanted: a mapping has that of its default value. -/
def scalarText : Node → Option (List Nat)
  | .scalar _ points => some points
  | .mapping _ entries => defaultText entries
  | .shared _ node => scalarText node
  | _ => none

/-- The text of the first default value among entries. -/
def defaultText : Entries → Option (List Nat)
  | [] => none
  | (key, value) :: rest => if key.tag = .defaultValue then scalarText value else defaultText rest

end

end Node

end FormEngine.Yaml
