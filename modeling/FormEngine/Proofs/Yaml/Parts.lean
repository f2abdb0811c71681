import Mathlib.Data.List.Forall2
import FormEngine.Proofs.Yaml.Anchors
import FormEngine.Yaml.Document

/-!
# The parts of a document

What the value of a node is made of, told from the node alone.  The `parts` of a collection are the
nodes that are decoded for it: of a mapping the keys and values that it has once its merges are
carried out.  `Node.Builds` reaches all nodes that have a value of their own in this way; a mapping
that is only merged into others has none.

`Node.Breaks` says what can be wrong with a single node, apart from its parts and apart from what is
malformed: a text that is not what its tag promises, a key that can be no key, a key that occurs
twice.  For that the value of a key need not be decoded, since `Node.atom?` is the value of a scalar
wherever it stands, and a collection is no key.
-/

namespace FormEngine.Yaml

/-- The tag of a key as it stands in a mapping. -/
def Tag.asKey : Tag → Tag
  | .defaultValue => .text
  | tag => tag

/-- Why the values of a tag can be no keys, if they cannot. -/
def Tag.unhashable? : Tag → Option Value.Unhashable
  | .sequence | .pairs | .orderedMapping => some .list
  | .set => some .set
  | .mapping => some .map
  | _ => none

namespace Node

/-! ## Parts -/

/-- Keys and values of entries, in order. -/
def keysAndValues (entries : Entries) : List Node := entries.flatMap fun e => [e.1, e.2]

/-- The nodes that are decoded for a node. -/
def parts : Node → List Node
  | .sequence .sequence items => items
  | .sequence .pairs items | .sequence .orderedMapping items =>
    items.flatMap fun item => ((onlyEntry item).toOption.map fun e => [e.1, e.2]).getD []
  | .mapping .mapping entries | .mapping .set entries =>
    ((spliced entries).toOption.map keysAndValues).getD []
  | .shared _ content => [content]
  | _ => []

/-- The value of one node is built from that of another, at whatever depth. -/
inductive Builds : Node → Node → Prop
  | here {node : Node} : Builds node node
  | part {node part inner : Node} : part ∈ node.parts → Builds part inner → Builds node inner

/-- The value of a scalar, or of what stands for one. -/
def atom? (node : Node) : Option Value :=
  node.scalarText.bind fun points => (scalarValue node.tag.asKey points).toOption

/-- A node is a reference to a node around it. -/
def refersBack : Node → Bool
  | .enclosing .. => true
  | .shared _ content => content.refersBack
  | _ => false

/-- A node is a reference to a node around it, or a mapping that merges one. -/
def turnsBack : Node → Bool
  | .enclosing .. => true
  | .mapping _ entries => mergesBack entries
  | _ => false

/-- Something that the value of a node is built from turns back. -/
def Turns (node : Node) : Prop := ∃ inner, node.Builds inner ∧ inner.turnsBack = true

/-- A value is one that a node can have: that of a scalar, or a collection of the right kind.  The
value of a reference to a node around it is left open. -/
inductive Gives (node : Node) (v : Value) : Prop
  | atom : node.atom? = some v → Gives node v
  | collection {kind : Value.Unhashable} : node.tag.unhashable? = some kind →
      v.unhashable? = some kind → Gives node v
  | reference : node.refersBack = true → Gives node v

/-- A key of a scalar occurs in entries and once more later. -/
def Repeats (entries : Entries) (key : Value) : Prop :=
  ∃ before e after f k, entries = before ++ e :: after ∧ f ∈ before ∧
    f.1.atom? = some k ∧ e.1.atom? = some key ∧ sameKey key k = true

/-- No key of a scalar occurs twice in entries. -/
def Distinct (entries : Entries) : Prop := entries.Pairwise fun e f =>
  ∀ k l, e.1.atom? = some k → f.1.atom? = some l → sameKey l k = false

/-- What is wrong with a node by itself; a node may be malformed in other ways. -/
inductive Breaks : Node → Fault → Prop
  /-- A text is not what its tag promises. -/
  | scalar {node : Node} {points : List Nat} {fault : Fault} : node.scalarText = some points →
      scalarValue node.tag points = .error fault → fault ≠ .malformed → Breaks node fault
  /-- A mapping stands for a point in time. -/
  | moment {node : Node} : node.tag = .moment → node.kind = .mapping →
      Breaks node .entriesForMoment
  /-- A text stands for a mapping. -/
  | text {point : Nat} {points : List Nat} :
      Breaks (.scalar .mapping (point :: points)) .textForEntries
  /-- A sequence stands for a mapping. -/
  | sequence {item : Node} {items : List Node} :
      Breaks (.sequence .mapping (item :: items)) (.notEntry item.kind)
  /-- A merge key brings in what cannot be merged. -/
  | unmerged {entries : Entries} {fault : Fault} : spliced entries = .error fault →
      Breaks (.mapping .mapping entries) fault
  /-- A merge key brings in a node around it, and with it the mapping itself. -/
  | mergesBack {entries : Entries} : mergesBack entries = true →
      Breaks (.mapping .mapping entries) .malformed
  /-- A collection is a key. -/
  | unhashable {entries es : Entries} {e : Node × Node} {kind : Value.Unhashable} :
      spliced entries = .ok es → e ∈ es → e.1.tag.unhashable? = some kind →
      Breaks (.mapping .mapping entries) (.unhashableKey kind)
  /-- A key occurs twice. -/
  | repeated {entries es : Entries} {key : Value} : spliced entries = .ok es → Repeats es key →
      Breaks (.mapping .mapping entries) (repetition key)

/-- A mapping has a node around it as key. -/
def HasCircularKey (node : Node) : Prop :=
  ∃ entries es e, node = .mapping .mapping entries ∧ spliced entries = .ok es ∧ e ∈ es ∧
    e.1.refersBack = true

/-- A fault of the keys of a mapping: one can be no key, or occurs twice. -/
def OfKeys (fault : Fault) : Prop :=
  (∃ kind, fault = .unhashableKey kind) ∨ ∃ key, fault = repetition key

/-- Nothing is wrong with a node or with what its value is built from. -/
def InOrder (node : Node) : Prop := ∀ part, node.Builds part → ∀ fault, ¬ part.Breaks fault

/-- A fault comes from a node that something is built from, or the text is malformed.  What is wrong
with the keys of a mapping is left open if a node around it is among them. -/
def Blamed (node : Node) (fault : Fault) : Prop :=
  fault = .malformed ∨ ∃ part, node.Builds part ∧
    (part.Breaks fault ∨ part.HasCircularKey ∧ OfKeys fault)

lemma Builds.trans {a b c : Node} (hab : Builds a b) (hbc : Builds b c) : Builds a c := by
  induction hab with
  | here => exact hbc
  | part hpart _ ih => exact .part hpart (ih hbc)

lemma Turns.of_part {node part : Node} (hpart : part ∈ node.parts) (h : part.Turns) :
    node.Turns := by
  obtain ⟨inner, hbuilds, hback⟩ := h
  exact ⟨inner, .part hpart hbuilds, hback⟩

lemma Turns.of_turnsBack {node : Node} (h : node.turnsBack = true) : node.Turns := ⟨node, .here, h⟩

lemma Blamed.of_part {node part : Node} {fault : Fault} (hpart : part ∈ node.parts)
    (h : part.Blamed fault) : node.Blamed fault := by
  rcases h with h | ⟨inner, hbuilds, hinner⟩
  · exact .inl h
  · exact .inr ⟨inner, .part hpart hbuilds, hinner⟩

lemma Blamed.of_breaks {node : Node} {fault : Fault} (h : node.Breaks fault) : node.Blamed fault :=
  .inr ⟨node, .here, .inl h⟩

/-- A node is in order exactly if nothing is wrong with it and its parts are in order. -/
lemma inOrder_iff {node : Node} :
    node.InOrder ↔ (∀ fault, ¬ node.Breaks fault) ∧ ∀ part ∈ node.parts, part.InOrder := by
  constructor
  · intro h
    exact ⟨h node .here, fun part hpart inner hinner => h inner (.part hpart hinner)⟩
  · rintro ⟨hnode, hparts⟩ inner hbuilds
    cases hbuilds with
    | here => exact hnode
    | part hpart hinner => exact hparts _ hpart inner hinner

/-! ## Keys -/

lemma asKey_cases (node : Node) : (∃ points, node = .scalar .defaultValue points) ∨
    (∃ name points, node = .shared name (.scalar .defaultValue points)) ∨ node.asKey = node := by
  unfold asKey
  split
  · exact .inl ⟨_, rfl⟩
  · exact .inr (.inl ⟨_, _, rfl⟩)
  · exact .inr (.inr rfl)

lemma atom?_asKey (node : Node) : node.asKey.atom? = node.atom? := by
  unfold asKey
  split <;> rfl

lemma unhashable?_asKey (node : Node) : node.asKey.tag.unhashable? = node.tag.unhashable? := by
  unfold asKey
  split <;> rfl

lemma refersBack_asKey (node : Node) : node.asKey.refersBack = node.refersBack := by
  unfold asKey
  split <;> rfl

lemma gives_asKey {node : Node} {v : Value} : node.asKey.Gives v ↔ node.Gives v := by
  constructor
  · rintro (h | ⟨htag, hv⟩ | h)
    · exact .atom (atom?_asKey node ▸ h)
    · exact .collection (unhashable?_asKey node ▸ htag) hv
    · exact .reference (refersBack_asKey node ▸ h)
  · rintro (h | ⟨htag, hv⟩ | h)
    · exact .atom ((atom?_asKey node).trans h)
    · exact .collection ((unhashable?_asKey node).trans htag) hv
    · exact .reference ((refersBack_asKey node).trans h)

lemma gives_shared {name : String} {node : Node} {v : Value} :
    (Node.shared name node).Gives v ↔ node.Gives v := by
  have hatom : (Node.shared name node).atom? = node.atom? := by
    rw [atom?, atom?, scalarText, tag]
  constructor
  · rintro (h | ⟨htag, hv⟩ | h)
    · exact .atom (hatom ▸ h)
    · exact .collection htag hv
    · exact .reference h
  · rintro (h | ⟨htag, hv⟩ | h)
    · exact .atom (hatom.trans h)
    · exact .collection htag hv
    · exact .reference h

lemma breaks_shared {name : String} {node : Node} {fault : Fault}
    (h : (Node.shared name node).Breaks fault) : node.Breaks fault := by
  cases h with
  | scalar hpoints hvalue hfault => exact .scalar hpoints hvalue hfault
  | moment htag hkind => exact .moment htag hkind

/-- A shared node is in order exactly if its content is. -/
lemma inOrder_shared {name : String} {node : Node} :
    (Node.shared name node).InOrder ↔ node.InOrder := by
  rw [inOrder_iff]
  constructor
  · rintro ⟨-, hparts⟩
    exact hparts node (List.mem_singleton_self node)
  · intro h
    refine ⟨fun fault hbreaks => h node .here fault (breaks_shared hbreaks), ?_⟩
    intro part hpart
    rwa [List.mem_singleton.1 hpart]

/-- A text is in order, as is the mark of a default value, which is text as a key. -/
lemma inOrder_scalar {tag : Tag} {points : List Nat}
    (h : ∀ fault, scalarValue tag points = .error fault → fault = .malformed)
    (htag : tag ≠ .mapping) : (Node.scalar tag points).InOrder := by
  refine inOrder_iff.2 ⟨fun fault hbreaks => ?_, fun part hpart => by cases hpart⟩
  cases hbreaks with
  | scalar hpoints hvalue hfault =>
      obtain rfl := Option.some.inj hpoints
      exact hfault (h fault hvalue)
  | moment _ hkind => cases hkind
  | text => exact htag rfl

/-- A sequence is never wrong by itself, unless it stands for a mapping and has items. -/
lemma not_breaks_sequence {tag : Tag} {items : List Node} {fault : Fault}
    (h : tag = .mapping → items = []) : ¬ (Node.sequence tag items).Breaks fault := by
  intro hbreaks
  cases hbreaks with
  | scalar hpoints => cases hpoints
  | moment _ hkind => cases hkind
  | sequence => cases h rfl

lemma inOrder_asKey {node : Node} : node.asKey.InOrder ↔ node.InOrder := by
  have htext : ∀ points, (Node.scalar .text points).InOrder := fun points =>
    inOrder_scalar (fun fault h => by cases h) (by decide)
  have hmark : ∀ points, (Node.scalar .defaultValue points).InOrder := fun points =>
    inOrder_scalar (fun fault h => (Except.error.inj h).symm) (by decide)
  rcases asKey_cases node with ⟨points, rfl⟩ | ⟨name, points, rfl⟩ | h
  · exact iff_of_true (htext points) (hmark points)
  · exact iff_of_true (inOrder_shared.2 (htext points)) (inOrder_shared.2 (hmark points))
  · rw [h]

/-! ## What is shared inside parts -/

/-- A name is shared inside a node, with a content that is given as it would stand as a key. -/
def Shares (node : Node) (name : String) (content : Node) : Prop :=
  ∃ inner, Inside (.shared name inner) node ∧ inner.asKey = content

variable {name : String} {content : Node}

lemma Shares.of_inside {inner outer : Node} (hinside : Inside inner outer)
    (h : inner.Shares name content) : outer.Shares name content := by
  obtain ⟨node, hnode, hcontent⟩ := h
  exact ⟨node, hnode.trans hinside, hcontent⟩

lemma shares_asKey {node : Node} (h : node.asKey.Shares name content) :
    node.Shares name content := by
  rcases asKey_cases node with ⟨points, rfl⟩ | ⟨other, points, rfl⟩ | heq
  · obtain ⟨inner, hinside, -⟩ := h
    cases hinside
  · obtain ⟨inner, hinside, hcontent⟩ := h
    cases hinside with
    | here => exact ⟨_, .here, hcontent⟩
    | content hinside => cases hinside
  · rwa [heq] at h

/-- A node does not share a name inside itself with its own content. -/
lemma not_shares_self {node : Node} : ¬ node.Shares name node.asKey := by
  rintro ⟨inner, hinside, hcontent⟩
  have hsize : ∀ other : Node, sizeOf other.asKey = sizeOf other := by
    intro other
    rcases asKey_cases other with ⟨points, rfl⟩ | ⟨name, points, rfl⟩ | heq
    · rfl
    · rfl
    · rw [heq]
  have hle := hinside.sizeOf_le
  have hinner := hsize inner
  have hnode := hsize node
  rw [hcontent] at hinner
  simp only [Node.shared.sizeOf_spec] at hle
  omega

/-! ## Merged entries -/

/-- An entry of a mapping with its merges carried out stands inside a node, but for the form of its
key. -/
def Offers (node : Node) (e : Node × Node) : Prop :=
  ∃ key, e.1 = key.asKey ∧ Inside key node ∧ Inside e.2 node

lemma Offers.mono {inner outer : Node} {e : Node × Node} (h : inner.Offers e)
    (hinside : Inside inner outer) : outer.Offers e := by
  obtain ⟨key, hkey, hkeyInside, hvalueInside⟩ := h
  exact ⟨key, hkey, hkeyInside.trans hinside, hvalueInside.trans hinside⟩

lemma offers_of_mem_ownEntries {tag : Tag} {entries : Entries} {e : Node × Node}
    (he : e ∈ ownEntries entries) : (Node.mapping tag entries).Offers e := by
  obtain ⟨f, hf, rfl⟩ := List.mem_map.1 he
  have hmem : f ∈ entries := (List.mem_filter.1 hf).1
  exact ⟨f.1, rfl, .key hmem .here, .value hmem .here⟩

/-- What merging yields: entries that a node offers, or the text is malformed. -/
def Merges (offers : Node × Node → Prop) : Except Fault Entries → Prop
  | .ok es => ∀ e ∈ es, offers e
  | .error fault => fault = .malformed

lemma Merges.append {offers : Node × Node → Prop} {c d : Except Fault Entries}
    (hc : Merges offers c) (hd : Merges offers d) :
    Merges offers (do return (← c) ++ (← d)) := by
  cases c with
  | error fault => exact hc
  | ok es =>
      cases d with
      | error fault => exact hd
      | ok fs =>
          intro e he
          exact (List.mem_append.1 he).elim (hc e) (hd e)

lemma Merges.mono {offers offers' : Node × Node → Prop} {c : Except Fault Entries}
    (h : Merges offers c) (himp : ∀ e, offers e → offers' e) : Merges offers' c := by
  cases c with
  | error fault => exact h
  | ok es => exact fun e he => himp e (h e he)

mutual

/-- Merge keys bring in what the values under them offer. -/
theorem merges_mergedEntries : ∀ entries : Entries,
    Merges (fun e => ∃ f ∈ entries, f.2.Offers e) (mergedEntries entries)
  | [] => List.forall_mem_nil _
  | (key, value) :: rest => by
      have hvalue : Merges (fun e => ∃ f ∈ (key, value) :: rest, f.2.Offers e)
          (contributed value) :=
        (merges_contributed value).mono fun e he => ⟨(key, value), List.mem_cons_self, he⟩
      have hrest : Merges (fun e => ∃ f ∈ (key, value) :: rest, f.2.Offers e)
          (mergedEntries rest) :=
        (merges_mergedEntries rest).mono fun e ⟨f, hf, he⟩ => ⟨f, List.mem_cons_of_mem _ hf, he⟩
      rw [mergedEntries]
      split
      · exact hvalue.append hrest
      · exact hrest

/-- A node contributes what it offers. -/
theorem merges_contributed : ∀ node : Node, Merges node.Offers (contributed node)
  | .mapping tag entries => by
      have hmerged : Merges (Node.mapping tag entries).Offers (mergedEntries entries) :=
        (merges_mergedEntries entries).mono fun e ⟨f, hf, he⟩ => he.mono (.value hf .here)
      have hown : Merges (Node.mapping tag entries).Offers (.ok (ownEntries entries)) :=
        fun e he => offers_of_mem_ownEntries he
      rw [contributed]
      exact hmerged.append hown
  | .sequence tag items => by
      rw [contributed]
      exact (merges_contributedByItems items).mono fun e ⟨item, hitem, he⟩ =>
        he.mono (.item hitem .here)
  | .shared name node => by
      rw [contributed]
      exact (merges_contributed node).mono fun e he => he.mono (.content .here)
  | .enclosing _ _ => List.forall_mem_nil _
  | .scalar _ _ => rfl

/-- The items of a sequence contribute what each of them offers. -/
theorem merges_contributedByItems : ∀ items : List Node,
    Merges (fun e => ∃ item ∈ items, item.Offers e) (contributedByItems items)
  | [] => List.forall_mem_nil _
  | item :: items => by
      have hitem : Merges (fun e => ∃ other ∈ item :: items, other.Offers e) (contributed item) :=
        (merges_contributed item).mono fun e he => ⟨item, List.mem_cons_self, he⟩
      have hitems : Merges (fun e => ∃ other ∈ item :: items, other.Offers e)
          (contributedByItems items) :=
        (merges_contributedByItems items).mono fun e ⟨other, hother, he⟩ =>
          ⟨other, List.mem_cons_of_mem _ hother, he⟩
      rw [contributedByItems]
      split
      · rfl
      · cases hfirst : contributed item with
        | error fault =>
            rw [hfirst] at hitem
            exact hitem
        | ok first =>
            rw [hfirst] at hitem
            exact hitems.append (d := .ok first) hitem

end

/-- The entries of a mapping with its merges carried out are offered by the mapping, or the text is
malformed. -/
lemma merges_spliced (tag : Tag) (entries : Entries) :
    Merges (Node.mapping tag entries).Offers (spliced entries) := by
  have h := merges_contributed (.mapping tag entries)
  rwa [contributed] at h

lemma offers_of_spliced {entries es : Entries} {e : Node × Node} (tag : Tag)
    (h : spliced entries = .ok es) (he : e ∈ es) : (Node.mapping tag entries).Offers e := by
  have hmerges := merges_spliced tag entries
  rw [h] at hmerges
  exact hmerges e he

lemma spliced_fault {entries : Entries} {fault : Fault} (h : spliced entries = .error fault) :
    fault = .malformed := by
  have hmerges := merges_spliced .mapping entries
  rwa [h] at hmerges

/-- The only entry of an item stands inside it, or the text is malformed. -/
lemma onlyEntry_cases (item : Node) :
    (∃ e, onlyEntry item = .ok e ∧ Inside e.1 item ∧ Inside e.2 item) ∨
      onlyEntry item = .error .malformed := by
  fun_induction onlyEntry item with
  | case1 tag entry =>
      have hmem : entry ∈ [entry] := List.mem_singleton_self entry
      exact .inl ⟨entry, rfl, .key hmem .here, .value hmem .here⟩
  | case2 name node ih =>
      rcases ih with ⟨e, heq, hkey, hvalue⟩ | heq
      · exact .inl ⟨e, heq, .content hkey, .content hvalue⟩
      · exact .inr heq
  | case3 => exact .inr rfl

lemma mem_keysAndValues {entries : Entries} {part : Node} :
    part ∈ keysAndValues entries ↔ ∃ e ∈ entries, part = e.1 ∨ part = e.2 := by
  simp [keysAndValues]

lemma parts_of_spliced {tag : Tag} {entries es : Entries} (htag : tag = .mapping ∨ tag = .set)
    (h : spliced entries = .ok es) : (Node.mapping tag entries).parts = keysAndValues es := by
  rcases htag with rfl | rfl <;> simp [parts, h, Except.toOption]

/-- Keys and values of a mapping with its merges carried out are parts of it. -/
lemma mem_parts_of_spliced {tag : Tag} {entries es : Entries} {e : Node × Node}
    (htag : tag = .mapping ∨ tag = .set) (h : spliced entries = .ok es) (he : e ∈ es) :
    e.1 ∈ (Node.mapping tag entries).parts ∧ e.2 ∈ (Node.mapping tag entries).parts := by
  rw [parts_of_spliced htag h]
  exact ⟨mem_keysAndValues.2 ⟨e, he, .inl rfl⟩, mem_keysAndValues.2 ⟨e, he, .inr rfl⟩⟩

lemma parts_of_pairs {tag : Tag} {items : List Node} (htag : tag = .pairs ∨ tag = .orderedMapping) :
    (Node.sequence tag items).parts = items.flatMap fun item =>
      ((onlyEntry item).toOption.map fun e => [e.1, e.2]).getD [] := by
  rcases htag with rfl | rfl <;> rfl

/-- Key and value of an item of a sequence of pairs are parts of it. -/
lemma mem_parts_of_onlyEntry {tag : Tag} {items : List Node} {item : Node} {e : Node × Node}
    (htag : tag = .pairs ∨ tag = .orderedMapping) (hitem : item ∈ items)
    (he : onlyEntry item = .ok e) :
    e.1 ∈ (Node.sequence tag items).parts ∧ e.2 ∈ (Node.sequence tag items).parts := by
  rw [parts_of_pairs htag]
  constructor <;> refine List.mem_flatMap.2 ⟨item, hitem, ?_⟩ <;> simp [he, Except.toOption]

/-- The entries of a mapping are those with its merges carried out, unless it merges a node around
it and is not open. -/
lemma openEntries_cases (isOpen : Bool) (entries : Entries) :
    (isOpen = false ∧ mergesBack entries = true ∧
      openEntries isOpen entries = .error .malformed) ∨
    ((isOpen = true ∨ mergesBack entries = false) ∧
      openEntries isOpen entries = spliced entries) := by
  unfold openEntries
  cases isOpen with
  | true => exact .inr ⟨.inl rfl, rfl⟩
  | false =>
      cases mergesBack entries with
      | true => exact .inl ⟨rfl, rfl, rfl⟩
      | false => exact .inr ⟨.inr rfl, rfl⟩

/-- Whatever is shared inside a part is shared inside the node. -/
lemma shares_of_part {node part : Node} (hpart : part ∈ node.parts)
    (h : part.Shares name content) : node.Shares name content := by
  have hmapping : ∀ tag entries, part ∈ ((spliced entries).toOption.map keysAndValues).getD [] →
      (Node.mapping tag entries).Shares name content := by
    intro tag entries hpart
    cases hspliced : spliced entries with
    | error fault => simp [hspliced, Except.toOption] at hpart
    | ok es =>
        rw [hspliced] at hpart
        obtain ⟨e, he, hcases⟩ := mem_keysAndValues.1 hpart
        obtain ⟨key, hkey, hkeyInside, hvalueInside⟩ := offers_of_spliced tag hspliced he
        rcases hcases with rfl | rfl
        · rw [hkey] at h
          exact (shares_asKey h).of_inside hkeyInside
        · exact h.of_inside hvalueInside
  have hitems : ∀ tag items, (part ∈ items.flatMap fun item =>
      ((onlyEntry item).toOption.map fun e => [e.1, e.2]).getD []) →
      (Node.sequence tag items).Shares name content := by
    intro tag items hpart
    obtain ⟨item, hitem, hentry⟩ := List.mem_flatMap.1 hpart
    rcases onlyEntry_cases item with ⟨e, heq, hkey, hvalue⟩ | heq
    · have hcases : part = e.1 ∨ part = e.2 := by simpa [heq, Except.toOption] using hentry
      rcases hcases with rfl | rfl
      · exact h.of_inside (.item hitem hkey)
      · exact h.of_inside (.item hitem hvalue)
    · simp [heq, Except.toOption] at hentry
  unfold parts at hpart
  split at hpart
  · exact h.of_inside (.item hpart .here)
  · exact hitems _ _ hpart
  · exact hitems _ _ hpart
  · exact hmapping _ _ hpart
  · exact hmapping _ _ hpart
  · obtain rfl := List.mem_singleton.1 hpart
    exact h.of_inside (.content .here)
  · cases hpart

/-! ## Values of keys -/

/-- A value that is made from a result in such a way can be a key. -/
lemma hashable_of_map {α : Type} {c : Except Fault α} {f : α → Value} {v : Value}
    (hf : ∀ a, (f a).unhashable? = none) (h : c.map f = .ok v) : v.unhashable? = none := by
  cases c with
  | error fault => cases h
  | ok a =>
      obtain rfl := Except.ok.inj h
      exact hf a

lemma hashable_of_momentOf {m : MomentForm} {v : Value} (h : momentOf m = .ok v) :
    v.unhashable? = none := by
  unfold momentOf at h
  split at h
  · exact hashable_of_map (fun _ => rfl) h
  · cases hoffset : offsetOf m.zone with
    | error fault => simp [hoffset, bind, Except.bind] at h
    | ok offset =>
        cases hdate : dateOf m with
        | error fault => simp [hoffset, hdate, bind, Except.bind] at h
        | ok date =>
            simp only [hoffset, hdate, bind, Except.bind] at h
            split_ifs at h
            obtain rfl := Except.ok.inj h
            rfl

/-- The value of a text can be a key. -/
lemma hashable_of_scalarValue {tag : Tag} {points : List Nat} {v : Value}
    (h : scalarValue tag points = .ok v) : v.unhashable? = none := by
  cases tag with
  | null =>
      obtain rfl := Except.ok.inj h
      rfl
  | bool => exact hashable_of_map (fun _ => rfl) h
  | int => exact hashable_of_map (fun _ => rfl) h
  | float => exact hashable_of_map (fun _ => rfl) h
  | bytes => exact hashable_of_map (fun _ => rfl) h
  | text =>
      obtain rfl := Except.ok.inj h
      rfl
  | moment =>
      simp only [scalarValue] at h
      split at h
      · exact hashable_of_momentOf h
      · cases h
  | _ => cases h

lemma hashable_of_atom? {node : Node} {v : Value} (h : node.atom? = some v) :
    v.unhashable? = none := by
  obtain ⟨points, -, hvalue⟩ := Option.bind_eq_some_iff.1 h
  cases hscalar : scalarValue node.tag.asKey points with
  | error fault => simp [hscalar, Except.toOption] at hvalue
  | ok w =>
      obtain rfl : w = v := by simpa [hscalar, Except.toOption] using hvalue
      exact hashable_of_scalarValue hscalar

/-- A scalar has not the tag of a collection. -/
lemma unhashable?_of_atom? {node : Node} {v : Value} (h : node.atom? = some v) :
    node.tag.unhashable? = none := by
  obtain ⟨points, -, hvalue⟩ := Option.bind_eq_some_iff.1 h
  cases htag : node.tag <;> first
    | rfl
    | simp [htag, Tag.asKey, scalarValue, Except.toOption] at hvalue

lemma tag_of_refersBack {node : Node} (h : node.refersBack = true) : node.tag = .unknown := by
  fun_induction refersBack node with
  | case1 name kind => rfl
  | case2 name content ih => exact ih h
  | case3 => cases h

lemma scalarText_of_refersBack {node : Node} (h : node.refersBack = true) :
    node.scalarText = none := by
  fun_induction refersBack node with
  | case1 name kind => rfl
  | case2 name content ih =>
      rw [scalarText]
      exact ih h
  | case3 => cases h

/-- A value that the node of a scalar gives is that of the scalar. -/
lemma Gives.eq_of_atom? {node : Node} {v w : Value} (h : node.Gives v) (hw : node.atom? = some w) :
    v = w := by
  rcases h with h | ⟨htag, -⟩ | h
  · rw [h] at hw
    exact Option.some.inj hw
  · rw [unhashable?_of_atom? hw] at htag
    cases htag
  · rw [atom?, scalarText_of_refersBack h] at hw
    cases hw

/-- A value that a collection gives can be no key. -/
lemma Gives.unhashable {node : Node} {v : Value} {kind : Value.Unhashable} (h : node.Gives v)
    (hkind : node.tag.unhashable? = some kind) : v.unhashable? = some kind := by
  rcases h with h | ⟨htag, hv⟩ | h
  · rw [unhashable?_of_atom? h] at hkind
    cases hkind
  · rw [← hkind, htag, hv]
  · rw [tag_of_refersBack h] at hkind
    cases hkind

/-- A value that can be a key is given by a scalar, or by a reference to a node around it. -/
lemma Gives.atom_of_hashable {node : Node} {v : Value} (h : node.Gives v)
    (hv : v.unhashable? = none) : node.atom? = some v ∨ node.refersBack = true := by
  rcases h with h | ⟨-, hkind⟩ | h
  · exact .inl h
  · rw [hv] at hkind
    cases hkind
  · exact .inr h

end Node

/-! ## Refused mappings -/

/-- The keys of entries that are let through can be keys and are all different, also from those
that count as having occurred before. -/
lemma distinct_of_firstFault? {seen : List Value} {entries : List (Value × Value)}
    (h : firstFault? seen entries = none) : (∀ e ∈ entries, e.1.unhashable? = none) ∧
      (∀ e ∈ entries, ∀ k ∈ seen, sameKey e.1 k = false) ∧
      entries.Pairwise fun e f => sameKey f.1 e.1 = false := by
  induction entries generalizing seen with
  | nil => simp
  | cons e entries ih =>
      cases hhashable : e.1.unhashable? with
      | some kind => simp [firstFault?, hhashable] at h
      | none =>
          cases hseen : seen.any (sameKey e.1) with
          | true => simp [firstFault?, hhashable, hseen] at h
          | false =>
              have hrest : firstFault? (e.1 :: seen) entries = none := by
                simpa [firstFault?, hhashable, hseen] using h
              obtain ⟨hall, hnew, hdistinct⟩ := ih hrest
              have hfirst : ∀ k ∈ seen, sameKey e.1 k = false := by simpa using hseen
              refine ⟨List.forall_mem_cons.2 ⟨hhashable, hall⟩,
                List.forall_mem_cons.2 ⟨hfirst, ?_⟩, List.pairwise_cons.2 ⟨?_, hdistinct⟩⟩
              · exact fun f hf k hk => hnew f hf k (List.mem_cons_of_mem _ hk)
              · exact fun f hf => hnew f hf e.1 List.mem_cons_self

/-- The fault of refused entries is that of the first one whose key can be no key, or has occurred
before. -/
lemma cause_of_firstFault? {seen : List Value} {entries : List (Value × Value)} {fault : Fault}
    (h : firstFault? seen entries = some fault) :
    ∃ before e after, entries = before ++ e :: after ∧ (∀ f ∈ before, f.1.unhashable? = none) ∧
      ((∃ kind, e.1.unhashable? = some kind ∧ fault = .unhashableKey kind) ∨
        (e.1.unhashable? = none ∧ fault = repetition e.1 ∧
          ((∃ k ∈ seen, sameKey e.1 k = true) ∨ ∃ f ∈ before, sameKey e.1 f.1 = true))) := by
  induction entries generalizing seen with
  | nil => simp [firstFault?] at h
  | cons e entries ih =>
      cases hhashable : e.1.unhashable? with
      | some kind =>
          have hfault : .unhashableKey kind = fault := by simpa [firstFault?, hhashable] using h
          exact ⟨[], e, entries, rfl, by simp, .inl ⟨kind, hhashable, hfault.symm⟩⟩
      | none =>
          cases hseen : seen.any (sameKey e.1) with
          | true =>
              have hfault : repetition e.1 = fault := by
                simpa [firstFault?, hhashable, hseen] using h
              exact ⟨[], e, entries, rfl, by simp,
                .inr ⟨hhashable, hfault.symm, .inl (List.any_eq_true.1 hseen)⟩⟩
          | false =>
              have hrest : firstFault? (e.1 :: seen) entries = some fault := by
                simpa [firstFault?, hhashable, hseen] using h
              obtain ⟨before, f, after, rfl, hbefore, hcause⟩ := ih hrest
              refine ⟨e :: before, f, after, rfl, List.forall_mem_cons.2 ⟨hhashable, hbefore⟩, ?_⟩
              rcases hcause with hkind | ⟨hf, hfault, ⟨k, hk, hsame⟩ | ⟨g, hg, hsame⟩⟩
              · exact .inl hkind
              · rcases List.mem_cons.1 hk with rfl | hk
                · exact .inr ⟨hf, hfault, .inr ⟨e, List.mem_cons_self, hsame⟩⟩
                · exact .inr ⟨hf, hfault, .inl ⟨k, hk, hsame⟩⟩
              · exact .inr ⟨hf, hfault, .inr ⟨g, List.mem_cons_of_mem _ hg, hsame⟩⟩

namespace Node

/-- The values of entries are given by their keys. -/
abbrev GivesKeys (es : Entries) (decoded : List (Value × Value)) : Prop :=
  List.Forall₂ (fun e d => e.1.Gives d.1) es decoded

variable {entries es : Entries} {decoded : List (Value × Value)}

/-- Keys are distinct exactly if none is repeated. -/
lemma distinct_iff : Distinct es ↔ ∀ key, ¬ Repeats es key := by
  constructor
  · rintro h key ⟨before, e, after, f, k, rfl, hf, hk, hkey, hsame⟩
    have hdiffer := (List.pairwise_append.1 h).2.2 f hf e List.mem_cons_self k key hk hkey
    rw [hdiffer] at hsame
    cases hsame
  · intro h
    refine List.pairwise_iff_getElem.2 fun i j hi hj hlt k l hk hl => ?_
    by_contra hsame
    refine h l ⟨es.take j, es[j], es.drop (j + 1), es[i], k, ?_, ?_, hk, hl,
      Bool.not_eq_false _ ▸ hsame⟩
    · rw [← List.drop_eq_getElem_cons hj, List.take_append_drop]
    · exact List.mem_take_iff_getElem.2 ⟨i, by omega, rfl⟩

lemma exists_given {e : Node × Node} (h : GivesKeys es decoded) (he : e ∈ es) :
    ∃ d ∈ decoded, e.1.Gives d.1 := by
  induction h with
  | nil => cases he
  | cons hfirst _ ih =>
      rcases List.mem_cons.1 he with rfl | he
      · exact ⟨_, List.mem_cons_self, hfirst⟩
      · obtain ⟨d, hd, hgives⟩ := ih he
        exact ⟨d, List.mem_cons_of_mem _ hd, hgives⟩

lemma exists_giver {d : Value × Value} (h : GivesKeys es decoded) (hd : d ∈ decoded) :
    ∃ e ∈ es, e.1.Gives d.1 := by
  induction h with
  | nil => cases hd
  | cons hfirst _ ih =>
      rcases List.mem_cons.1 hd with rfl | hd
      · exact ⟨_, List.mem_cons_self, hfirst⟩
      · obtain ⟨e, he, hgives⟩ := ih hd
        exact ⟨e, List.mem_cons_of_mem _ he, hgives⟩

/-- Keys whose values differ are distinct. -/
lemma distinct_of_gives (h : GivesKeys es decoded)
    (hdistinct : decoded.Pairwise fun e f => sameKey f.1 e.1 = false) : Distinct es := by
  induction h with
  | nil => exact .nil
  | cons hfirst hrest ih =>
      obtain ⟨hnew, hdistinct⟩ := List.pairwise_cons.1 hdistinct
      refine List.pairwise_cons.2 ⟨fun f hf k l hk hl => ?_, ih hdistinct⟩
      obtain ⟨d, hd, hgives⟩ := exists_given hrest hf
      have hdiffer := hnew d hd
      rwa [hfirst.eq_of_atom? hk, hgives.eq_of_atom? hl] at hdiffer

/-- A mapping whose entries are refused is to blame. -/
lemma blamed_of_firstFault? {fault : Fault} (hspliced : spliced entries = .ok es)
    (hgives : GivesKeys es decoded) (h : firstFault? [] decoded = some fault) :
    (Node.mapping .mapping entries).Blamed fault := by
  obtain ⟨before, d, after, rfl, hbefore, hcause⟩ := cause_of_firstFault? h
  have hkeys : OfKeys fault :=
    hcause.imp (fun ⟨kind, _, heq⟩ => ⟨kind, heq⟩) fun ⟨_, heq, _⟩ => ⟨d.1, heq⟩
  have hcircular : ∀ e ∈ es, e.1.refersBack = true →
      (Node.mapping .mapping entries).Blamed fault :=
    fun e he hback => .inr ⟨_, .here, .inr ⟨⟨entries, es, e, rfl, hspliced, he, hback⟩, hkeys⟩⟩
  have htake := List.forall₂_take_append es before (d :: after) hgives
  have hdrop := List.forall₂_drop_append es before (d :: after) hgives
  obtain ⟨e, rest, hd, -, hsplit⟩ := List.forall₂_cons_right_iff.1 hdrop
  have hes : es = es.take before.length ++ e :: rest := by
    rw [← hsplit, List.take_append_drop]
  have he : e ∈ es := by
    rw [hes]
    exact List.mem_append_right _ List.mem_cons_self
  rcases hcause with ⟨kind, hkind, rfl⟩ | ⟨hhashable, rfl, hearlier⟩
  · rcases hd with hatom | ⟨htag, hother⟩ | hback
    · rw [hashable_of_atom? hatom] at hkind
      cases hkind
    · rw [hother] at hkind
      exact Blamed.of_breaks (.unhashable hspliced he (htag.trans hkind))
    · exact hcircular e he hback
  · rcases hearlier with ⟨k, hk, -⟩ | ⟨c, hc, hsame⟩
    · cases hk
    · obtain ⟨f, hf, hgiven⟩ := exists_giver htake hc
      have hfmem : f ∈ es := List.mem_of_mem_take hf
      rcases hd.atom_of_hashable hhashable with hkey | hback
      · rcases hgiven.atom_of_hashable (hbefore c hc) with hk | hback
        · exact Blamed.of_breaks (.repeated hspliced ⟨_, e, rest, f, c.1, hes, hf, hk, hkey, hsame⟩)
        · exact hcircular f hfmem hback
      · exact hcircular e he hback

/-- A mapping whose entries are let through is in order by itself. -/
lemma not_breaks_of_firstFault? (hback : mergesBack entries = false)
    (hspliced : spliced entries = .ok es) (hgives : GivesKeys es decoded)
    (h : firstFault? [] decoded = none) (fault : Fault) :
    ¬ (Node.mapping .mapping entries).Breaks fault := by
  obtain ⟨hhashable, -, hdistinct⟩ := distinct_of_firstFault? h
  intro hbreaks
  cases hbreaks with
  | scalar hpoints hvalue hfault => exact hfault (Except.error.inj hvalue).symm
  | moment htag => cases htag
  | unmerged hother => cases hspliced.symm.trans hother
  | mergesBack hother => cases hback.symm.trans hother
  | @unhashable _ others e kind hothers he hkind =>
      obtain rfl := Except.ok.inj (hspliced.symm.trans hothers)
      obtain ⟨d, hd, hgiven⟩ := exists_given hgives he
      have hnone := hhashable d hd
      rw [hgiven.unhashable hkind] at hnone
      cases hnone
  | @repeated _ others key hothers hrepeats =>
      obtain rfl := Except.ok.inj (hspliced.symm.trans hothers)
      exact distinct_iff.1 (distinct_of_gives hgives hdistinct) key hrepeats

end Node

end FormEngine.Yaml
