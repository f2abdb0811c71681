import FormEngine.Yaml.Node
import FormEngine.Yaml.Token.Stream

/-!
# From tokens to nodes

A recursive descent over the tokens of a document, which settles the tags of the nodes and what the
references refer to.  An anchor names its node from where it stands on, also inside the node itself,
and no two anchors have the same name.

A text holds at most one document.  `Node.ofText?` gives its node, if there is one.
-/

namespace FormEngine.Yaml

/-- What an anchor names: only the kind of its node is known before the node has ended. -/
inductive Anchor where
  | begun (kind : Kind)
  | ended (node : Node)

/-- What is left of the tokens, the anchors so far, and what has become since of nodes with an
anchor. -/
structure Remaining where
  tokens : List Token
  anchors : List (String × Anchor) := []
  changed : List (String × Node) := []

/-- Tag handles with what they stand for. -/
abbrev Handles := List (String × String)

/-- The handles that every document has unless it gives them another meaning. -/
def standardHandles : Handles := [("!", "!"), ("!!", standardTagStart)]

/-- What is written in front of a node: an anchor and a tag, if any. -/
structure Properties where
  anchor : Option String
  tag : Option String

/-- Whether the tag of a node is left to its content. -/
def Properties.isOpen (ps : Properties) : Bool := ps.tag = none || ps.tag = some "!"

/-- The tag of a node whose content alone would give it another. -/
def Properties.tagOr (ps : Properties) (tag : Tag) : Tag :=
  if ps.isOpen then tag else ((ps.tag.map Tag.ofText)).getD .unknown

/-- Whether there is neither anchor nor tag. -/
def Properties.isNone (ps : Properties) : Bool := ps.anchor.isNone && ps.tag.isNone

namespace Remaining

/-- The next token. -/
def peek (r : Remaining) : Option Token := r.tokens.head?

/-- What is left after the next token. -/
def drop (r : Remaining) : Remaining := { r with tokens := r.tokens.tail }

/-- Whether the next token is one of these. -/
def isAt (r : Remaining) (ts : List Token) : Bool := r.peek.any ts.contains

/-- The full name of a tag. -/
def fullTag (handles : Handles) : Option String → String → Except Fault String
  | none, suffix => .ok suffix
  | some handle, suffix =>
    match handles.lookup handle with
    | some start => .ok (start ++ suffix)
    | none => malformed

/-- Reads the properties of a node: an anchor and a tag in either order. -/
def properties (handles : Handles) (r : Remaining) : Except Fault (Properties × Remaining) := do
  match r.tokens with
  | .anchor name :: .tag handle suffix :: rest =>
    return (⟨some name, some (← fullTag handles handle suffix)⟩, { r with tokens := rest })
  | .tag handle suffix :: .anchor name :: rest =>
    return (⟨some name, some (← fullTag handles handle suffix)⟩, { r with tokens := rest })
  | .anchor name :: rest => return (⟨some name, none⟩, { r with tokens := rest })
  | .tag handle suffix :: rest =>
    return (⟨none, some (← fullTag handles handle suffix)⟩, { r with tokens := rest })
  | _ => return (⟨none, none⟩, r)

/-- The kind of the node that begins here. -/
def kindAhead (block bare : Bool) (r : Remaining) : Kind :=
  match r.peek with
  | some .blockEntry => if bare then .sequence else .scalar
  | some .flowSequenceStart => .sequence
  | some .flowMappingStart => .mapping
  | some .blockSequenceStart => if block then .sequence else .scalar
  | some .blockMappingStart => if block then .mapping else .scalar
  | _ => .scalar

/-- Begins the node of an anchor; the name must be new. -/
def beginNode (r : Remaining) (kind : Kind) : Option String → Except Fault Remaining
  | none => .ok r
  | some name => do
    require (r.anchors.lookup name).isNone
    return { r with anchors := (name, .begun kind) :: r.anchors }

/-- Ends the node of an anchor. -/
def endNode (r : Remaining) (node : Node) : Option String → Node × Remaining
  | none => (node, r)
  | some name =>
    let made := node.ended name
    (.shared name made.result, { r with
      anchors := (name, .ended made.result) :: r.anchors
      changed := made.changed ++ r.changed })

/-- The node that a reference refers to. -/
def referred (r : Remaining) (name : String) : Except Fault Node :=
  match r.changed.lookup name with
  | some node => .ok node
  | none =>
    match r.anchors.lookup name with
    | none => malformed
    | some (.begun kind) => .ok (.enclosing name kind)
    | some (.ended node) => .ok (.shared name node)

end Remaining

/-- The tag and text of a scalar. -/
def scalarNode (ps : Properties) (plain : Bool) (points : List Nat) : Node :=
  let resolved := if plain || ps.tag = some "!" then Tag.ofPlain (points.map Char.ofNat) else .text
  .scalar (ps.tagOr resolved) points

mutual

/-- Reads a node.  `block` allows block collections, and `bare` a sequence that is not indented
deeper than the key it belongs to.  `fuel` bounds the tokens and the nesting. -/
def readNode (handles : Handles) (block bare : Bool) :
    Nat → Remaining → Except Fault (Node × Remaining)
  | 0, _ => malformed
  | fuel + 1, r => do
    if let some (.reference name) := r.peek then
      return (← r.referred name, r.drop)
    let (ps, r) ← r.properties handles
    let r ← r.beginNode (r.kindAhead block bare) ps.anchor
    let (node, r) ← match r.peek with
      | some .blockEntry =>
        if bare then do
          let (items, r) ← readBareItems handles fuel r
          pure (Node.sequence (ps.tagOr .sequence) items, r)
        else absent ps r
      | some (.scalar plain points) => pure (scalarNode ps plain points, r.drop)
      | some .flowSequenceStart => do
        let (items, r) ← readFlowItems handles true fuel r.drop
        pure (Node.sequence (ps.tagOr .sequence) items, r)
      | some .flowMappingStart => do
        let (entries, r) ← readFlowEntries handles true fuel r.drop
        pure (Node.mapping (ps.tagOr .mapping) entries, r)
      | some .blockSequenceStart =>
        if block then do
          let (items, r) ← readBlockItems handles fuel r.drop
          pure (Node.sequence (ps.tagOr .sequence) items, r)
        else absent ps r
      | some .blockMappingStart =>
        if block then do
          let (entries, r) ← readBlockEntries handles fuel r.drop
          pure (Node.mapping (ps.tagOr .mapping) entries, r)
        else absent ps r
      | _ => absent ps r
    return r.endNode node ps.anchor
where
  /-- A node with properties may lack content. -/
  absent (ps : Properties) (r : Remaining) : Except Fault (Node × Remaining) := do
    require !ps.isNone
    return (scalarNode ps ps.isOpen [], r)

/-- Reads a node, or a blank one where one of these tokens follows at once. -/
def readNodeUnless (handles : Handles) (block bare : Bool) (ends : List Token) :
    Nat → Remaining → Except Fault (Node × Remaining)
  | 0, _ => malformed
  | fuel + 1, r =>
    if r.isAt ends then .ok (.blank, r) else readNode handles block bare fuel r

/-- Reads the items of a block sequence, its end included. -/
def readBlockItems (handles : Handles) : Nat → Remaining → Except Fault (List Node × Remaining)
  | 0, _ => malformed
  | fuel + 1, r => do
    match r.peek with
    | some .blockEntry =>
      let (item, r) ← readNodeUnless handles true false [.blockEntry, .blockEnd] fuel r.drop
      let (items, r) ← readBlockItems handles fuel r
      return (item :: items, r)
    | some .blockEnd => return ([], r.drop)
    | _ => malformed

/-- Reads the items of a sequence that is not indented; nothing marks its end. -/
def readBareItems (handles : Handles) : Nat → Remaining → Except Fault (List Node × Remaining)
  | 0, _ => malformed
  | fuel + 1, r => do
    match r.peek with
    | some .blockEntry =>
      let (item, r) ←
        readNodeUnless handles true false [.blockEntry, .key, .value, .blockEnd] fuel r.drop
      let (items, r) ← readBareItems handles fuel r
      return (item :: items, r)
    | _ => return ([], r)

/-- Reads the entries of a block mapping, its end included. -/
def readBlockEntries (handles : Handles) : Nat → Remaining → Except Fault (Entries × Remaining)
  | 0, _ => malformed
  | fuel + 1, r => do
    match r.peek with
    | some .key =>
      let ends : List Token := [.key, .value, .blockEnd]
      let (key, r) ← readNodeUnless handles true true ends fuel r.drop
      let (value, r) ←
        if r.peek = some .value then readNodeUnless handles true true ends fuel r.drop
        else pure (Node.blank, r)
      let (entries, r) ← readBlockEntries handles fuel r
      return ((key, value) :: entries, r)
    | some .blockEnd => return ([], r.drop)
    | _ => malformed

/-- Reads the value of an entry of a flow collection, if a colon stands before it. -/
def readFlowValue (handles : Handles) (closing : Token) :
    Nat → Remaining → Except Fault (Node × Remaining)
  | 0, _ => malformed
  | fuel + 1, r =>
    if r.peek = some .value then
      readNodeUnless handles false false [.flowEntry, closing] fuel r.drop
    else .ok (.blank, r)

/-- Reads the items of a flow sequence, its end included.  An entry among them is a mapping of its
own. -/
def readFlowItems (handles : Handles) (first : Bool) :
    Nat → Remaining → Except Fault (List Node × Remaining)
  | 0, _ => malformed
  | fuel + 1, r => do
    if r.peek = some .flowSequenceEnd then return ([], r.drop)
    require (first || r.peek = some .flowEntry)
    let r := if first then r else r.drop
    match r.peek with
    | some .flowSequenceEnd => return ([], r.drop)
    | some .key =>
      let (key, r) ←
        readNodeUnless handles false false [.value, .flowEntry, .flowSequenceEnd] fuel r.drop
      let (value, r) ← readFlowValue handles .flowSequenceEnd fuel r
      let (items, r) ← readFlowItems handles false fuel r
      return (.mapping .mapping [(key, value)] :: items, r)
    | _ =>
      let (item, r) ← readNode handles false false fuel r
      let (items, r) ← readFlowItems handles false fuel r
      return (item :: items, r)

/-- Reads the entries of a flow mapping, its end included.  A key may lack its colon and value. -/
def readFlowEntries (handles : Handles) (first : Bool) :
    Nat → Remaining → Except Fault (Entries × Remaining)
  | 0, _ => malformed
  | fuel + 1, r => do
    if r.peek = some .flowMappingEnd then return ([], r.drop)
    require (first || r.peek = some .flowEntry)
    let r := if first then r else r.drop
    match r.peek with
    | some .flowMappingEnd => return ([], r.drop)
    | some .key =>
      let (key, r) ←
        readNodeUnless handles false false [.value, .flowEntry, .flowMappingEnd] fuel r.drop
      let (value, r) ← readFlowValue handles .flowMappingEnd fuel r
      let (entries, r) ← readFlowEntries handles false fuel r
      return ((key, value) :: entries, r)
    | _ =>
      let (key, r) ← readNode handles false false fuel r
      let (entries, r) ← readFlowEntries handles false fuel r
      return ((key, .blank) :: entries, r)

end

/-! ## Documents -/

/-- Reads the directives of a document: whether a version has been given, and the handles. -/
def readDirectives : Bool → Handles → List Token → Except Fault (Handles × List Token)
  | versioned, handles, .directive (.version major) :: rest => do
    require (!versioned && major = 1)
    readDirectives true handles rest
  | versioned, handles, .directive (.tagHandle handle expansion) :: rest => do
    require (handles.lookup handle).isNone
    readDirectives versioned (handles ++ [(handle, expansion)]) rest
  | versioned, handles, .directive .other :: rest => readDirectives versioned handles rest
  | _, handles, rest => .ok (handles ++ standardHandles, rest)

/-- Reads the node of a document of so many tokens. -/
def readContent (handles : Handles) (size : Nat) (tokens : List Token) :
    Except Fault (Node × List Token) := do
  let (node, r) ← readNode handles true false (4 * size + 4) { tokens }
  return (node, r.tokens)

/-- Whether the tokens after a document hold nothing but marks of its end. -/
def endsText (tokens : List Token) : Bool := tokens.all (· = .documentEnd)

/-- The node of the document that tokens make up, if they make up one. -/
def Node.ofTokens? (tokens : List Token) : Except Fault (Option Node) := do
  let size := tokens.length
  match tokens with
  | [] => return none
  | .directive _ :: _ | .documentStart :: _ =>
    let (handles, rest) ← readDirectives false [] tokens
    require (rest.head? = some .documentStart)
    let rest := rest.tail
    let isBlank := match rest.head? with
      | none | some (.directive _) | some .documentStart | some .documentEnd => true
      | _ => false
    let (node, rest) ← if isBlank then pure (Node.blank, rest) else readContent handles size rest
    require (endsText rest)
    return some node
  | _ =>
    let (node, rest) ← readContent standardHandles size tokens
    require (endsText rest)
    return some node

/-- The node of the document that a text holds, if it holds one. -/
def Node.ofText? (text : List Char) : Except Fault (Option Node) := do
  Node.ofTokens? (← tokensOf text)

end FormEngine.Yaml
