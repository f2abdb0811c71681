import Mathlib.Data.List.Basic
import FormEngine.Yaml.Node.Reader

/-!
# What anchors name

A node with an anchor stands as a shared node at its place and at every reference to it.  In the
node of a document these occurrences agree: no name is shared by two different nodes
(`Node.sharesOnce_of_ofText?`).  The reason is that an anchor must have a new name, so that what a
name stands for never changes once its node has been read.

The second fact about the reading of nodes is that it fails in one way only: a fault of the nodes,
as opposed to one of the tokens, says that the text is malformed (`Node.fault_of_ofText?`).
-/

namespace FormEngine.Yaml

namespace Node

/-! ## Nodes inside nodes -/

/-- A node is another, or stands inside it at some depth, at whatever place. -/
inductive Inside (inner : Node) : Node → Prop
  | here : Inside inner inner
  | item {tag : Tag} {items : List Node} {item : Node} : item ∈ items → Inside inner item →
      Inside inner (.sequence tag items)
  | key {tag : Tag} {entries : Entries} {e : Node × Node} : e ∈ entries → Inside inner e.1 →
      Inside inner (.mapping tag entries)
  | value {tag : Tag} {entries : Entries} {e : Node × Node} : e ∈ entries → Inside inner e.2 →
      Inside inner (.mapping tag entries)
  | content {name : String} {node : Node} : Inside inner node → Inside inner (.shared name node)

lemma Inside.trans {a b c : Node} (hab : Inside a b) (hbc : Inside b c) : Inside a c := by
  induction hbc with
  | here => exact hab
  | item hitem _ ih => exact .item hitem ih
  | key he _ ih => exact .key he ih
  | value he _ ih => exact .value he ih
  | content _ ih => exact .content ih

/-- A node is at least as large as what stands inside it. -/
lemma Inside.sizeOf_le {a b : Node} (h : Inside a b) : sizeOf a ≤ sizeOf b := by
  induction h with
  | here => exact Nat.le_refl _
  | item hitem _ ih =>
      have hsmall := List.sizeOf_lt_of_mem hitem
      simp only [Node.sequence.sizeOf_spec]
      omega
  | @key _ _ e he _ ih =>
      have hsmall := List.sizeOf_lt_of_mem he
      have hpair : sizeOf e = 1 + sizeOf e.1 + sizeOf e.2 := rfl
      simp only [Node.mapping.sizeOf_spec]
      omega
  | @value _ _ e he _ ih =>
      have hsmall := List.sizeOf_lt_of_mem he
      have hpair : sizeOf e = 1 + sizeOf e.1 + sizeOf e.2 := rfl
      simp only [Node.mapping.sizeOf_spec]
      omega
  | content _ ih =>
      simp only [Node.shared.sizeOf_spec]
      omega

end Node

open Node (Inside)

/-! ## What is known of the anchors -/

namespace Remaining

/-- Every node shared inside a node is the one that its anchor names. -/
def Knows (r : Remaining) (node : Node) : Prop :=
  ∀ name content, Inside (.shared name content) node →
    r.anchors.lookup name = some (.ended content)

/-- The same of the nodes of a list. -/
def KnowsAll (r : Remaining) (nodes : List Node) : Prop := ∀ node ∈ nodes, r.Knows node

/-- The same of the keys and values of entries. -/
def KnowsEntries (r : Remaining) (entries : Entries) : Prop :=
  ∀ e ∈ entries, r.Knows e.1 ∧ r.Knows e.2

/-- The same of nodes, each with the name of a shared node. -/
def KnowsChanged (r : Remaining) (changed : List (String × Node)) : Prop :=
  ∀ e ∈ changed, r.Knows e.2

/-- The same of what is made of a node, and of what has become of shared nodes. -/
def KnowsMade (r : Remaining) (made : Node.Unrolled Node) : Prop :=
  r.Knows made.result ∧ r.KnowsChanged made.changed

/-- All nodes that have been named, or have become of named ones, are known. -/
def Settled (r : Remaining) : Prop :=
  (∀ name content, r.anchors.lookup name = some (.ended content) → r.Knows content) ∧
    r.KnowsChanged r.changed

/-- What has been named, or been begun, is as it was before. -/
def Extends (r' r : Remaining) : Prop :=
  ∀ name, r.anchors.lookup name ≠ none → r'.anchors.lookup name = r.anchors.lookup name

variable {r r' r'' : Remaining}

lemma Extends.refl (r : Remaining) : r.Extends r := fun _ _ => rfl

lemma Extends.trans (h' : r''.Extends r') (h : r'.Extends r) : r''.Extends r := by
  intro name hname
  have heq := h name hname
  rw [← heq] at hname ⊢
  exact h' name hname

lemma Knows.mono {node : Node} (h : r.Knows node) (hext : r'.Extends r) : r'.Knows node := by
  intro name content hinside
  have hknown := h name content hinside
  rw [hext name (by simp [hknown]), hknown]

lemma KnowsAll.mono {nodes : List Node} (h : r.KnowsAll nodes) (hext : r'.Extends r) :
    r'.KnowsAll nodes :=
  fun node hnode => (h node hnode).mono hext

lemma KnowsChanged.mono {changed : List (String × Node)} (h : r.KnowsChanged changed)
    (hext : r'.Extends r) : r'.KnowsChanged changed :=
  fun e he => (h e he).mono hext

lemma KnowsAll.cons {node : Node} {nodes : List Node} (hnode : r.Knows node)
    (hnodes : r.KnowsAll nodes) : r.KnowsAll (node :: nodes) :=
  List.forall_mem_cons.2 ⟨hnode, hnodes⟩

lemma KnowsEntries.cons {key value : Node} {entries : Entries} (hkey : r.Knows key)
    (hvalue : r.Knows value) (hentries : r.KnowsEntries entries) :
    r.KnowsEntries ((key, value) :: entries) :=
  List.forall_mem_cons.2 ⟨⟨hkey, hvalue⟩, hentries⟩

lemma knows_scalar (tag : Tag) (points : List Nat) : r.Knows (.scalar tag points) := by
  intro name content hinside
  cases hinside

lemma knows_enclosing (name : String) (kind : Kind) : r.Knows (.enclosing name kind) := by
  intro other content hinside
  cases hinside

lemma knows_sequence {tag : Tag} {items : List Node} (h : r.KnowsAll items) :
    r.Knows (.sequence tag items) := by
  intro name content hinside
  cases hinside with
  | item hitem hinside => exact h _ hitem name content hinside

lemma knows_mapping {tag : Tag} {entries : Entries} (h : r.KnowsEntries entries) :
    r.Knows (.mapping tag entries) := by
  intro name content hinside
  cases hinside with
  | key he hinside => exact (h _ he).1 name content hinside
  | value he hinside => exact (h _ he).2 name content hinside

lemma knows_shared {name : String} {node : Node}
    (hname : r.anchors.lookup name = some (.ended node)) (h : r.Knows node) :
    r.Knows (.shared name node) := by
  intro other content hinside
  cases hinside with
  | here => exact hname
  | content hinside => exact h other content hinside

/-! ## Merges that are spelled out -/

lemma Knows.items {tag : Tag} {items : List Node} (h : r.Knows (.sequence tag items)) :
    r.KnowsAll items :=
  fun _ hitem name content hinside => h name content (.item hitem hinside)

lemma Knows.entries {tag : Tag} {entries : Entries} (h : r.Knows (.mapping tag entries)) :
    r.KnowsEntries entries :=
  fun _ he => ⟨fun name content hinside => h name content (.key he hinside),
    fun name content hinside => h name content (.value he hinside)⟩

lemma Knows.content {name : String} {node : Node} (h : r.Knows (.shared name node)) :
    r.Knows node :=
  fun other content hinside => h other content (.content hinside)

section

variable {name : String} {left : Node}

mutual

/-- A node with another one in place of a node around it is known if both are. -/
theorem knows_replaced (hleft : r.Knows left) : ∀ node : Node, r.Knows node →
    r.Knows (Node.replaced name left node)
  | .mapping tag entries, h => by
      rw [Node.replaced]
      exact knows_mapping (knows_replacedMerges hleft entries h.entries)
  | .sequence tag items, h => by
      rw [Node.replaced]
      exact knows_sequence (knows_replacedItems hleft items h.items)
  | .shared _ node, h => by
      rw [Node.replaced]
      exact knows_replaced hleft node h.content
  | .enclosing other kind, h => by
      rw [Node.replaced]
      split
      · exact hleft
      · exact h
  | .scalar _ _, h => by
      rw [Node.replaced]
      exact h

theorem knows_replacedMerges (hleft : r.Knows left) : ∀ entries : Entries,
    r.KnowsEntries entries → r.KnowsEntries (Node.replacedMerges name left entries)
  | [], _ => List.forall_mem_nil _
  | (key, value) :: rest, h => by
      obtain ⟨⟨hkey, hvalue⟩, hrest⟩ := List.forall_mem_cons.1 h
      rw [Node.replacedMerges]
      refine KnowsEntries.cons hkey ?_ (knows_replacedMerges hleft rest hrest)
      split
      · exact knows_replaced hleft value hvalue
      · exact hvalue

theorem knows_replacedItems (hleft : r.Knows left) : ∀ items : List Node,
    r.KnowsAll items → r.KnowsAll (Node.replacedItems name left items)
  | [], _ => List.forall_mem_nil _
  | item :: items, h => by
      obtain ⟨hitem, hitems⟩ := List.forall_mem_cons.1 h
      rw [Node.replacedItems]
      exact KnowsAll.cons (knows_replaced hleft item hitem) (knows_replacedItems hleft items hitems)

end

mutual

/-- The shared nodes that a known node brings in are known. -/
theorem knows_sharedBack : ∀ node : Node, r.Knows node → r.KnowsChanged node.sharedBack
  | .mapping _ entries, h => by
      rw [Node.sharedBack]
      exact knows_sharedBackMerges entries h.entries
  | .sequence _ items, h => by
      rw [Node.sharedBack]
      exact knows_sharedBackItems items h.items
  | .shared _ node, h => by
      have hinside := knows_sharedBack node h.content
      rw [Node.sharedBack]
      split
      · exact List.forall_mem_cons.2 ⟨h.content, hinside⟩
      · exact hinside
  | .scalar .., _ => List.forall_mem_nil _
  | .enclosing .., _ => List.forall_mem_nil _

theorem knows_sharedBackMerges : ∀ entries : Entries, r.KnowsEntries entries →
    r.KnowsChanged (Node.sharedBackMerges entries)
  | [], _ => List.forall_mem_nil _
  | (key, value) :: rest, h => by
      obtain ⟨⟨-, hvalue⟩, hrest⟩ := List.forall_mem_cons.1 h
      have hmerged : r.KnowsChanged (if key.tag = .merge then value.sharedBack else []) := by
        split
        · exact knows_sharedBack value hvalue
        · exact List.forall_mem_nil _
      exact List.forall_mem_append.2 ⟨hmerged, knows_sharedBackMerges rest hrest⟩

theorem knows_sharedBackItems : ∀ items : List Node, r.KnowsAll items →
    r.KnowsChanged (Node.sharedBackItems items)
  | [], _ => List.forall_mem_nil _
  | item :: items, h => by
      obtain ⟨hitem, hitems⟩ := List.forall_mem_cons.1 h
      exact List.forall_mem_append.2
        ⟨knows_sharedBack item hitem, knows_sharedBackItems items hitems⟩

end

lemma knows_unrolled {around : Entries → Node}
    (haround : ∀ left, r.KnowsEntries left → r.Knows (around left)) {before entries : Entries}
    (hbefore : r.KnowsEntries before) (h : r.KnowsEntries entries) :
    r.KnowsEntries (Node.unrolled name around before entries).result ∧
      r.KnowsChanged (Node.unrolled name around before entries).changed := by
  induction entries generalizing before with
  | nil => exact ⟨hbefore, List.forall_mem_nil _⟩
  | cons e rest ih =>
      obtain ⟨⟨hkey, hvalue⟩, hrest⟩ := List.forall_mem_cons.1 h
      rw [Node.unrolled]
      split
      · obtain ⟨hleft, hchanged⟩ := ih hbefore hrest
        have hput : ∀ node, r.Knows node → r.Knows (Node.replaced name
            (around (Node.unrolled name around before rest).result) node) :=
          knows_replaced (haround _ hleft)
        refine ⟨KnowsEntries.cons hkey (hput e.2 hvalue) hleft,
          List.forall_mem_append.2 ⟨?_, hchanged⟩⟩
        exact List.forall_mem_map.2 fun s hs => hput s.2 (knows_sharedBack e.2 hvalue s hs)
      · have hfirst : r.KnowsEntries [e] :=
          KnowsEntries.cons hkey hvalue (List.forall_mem_nil _)
        exact ih (List.forall_mem_append.2 ⟨hbefore, hfirst⟩) hrest

lemma knows_unroll {around : Node → Node} (haround : ∀ left, r.Knows left → r.Knows (around left))
    {node : Node} (h : r.Knows node) : r.KnowsMade (node.unroll name around) := by
  have hmade : ∀ tag entries, r.KnowsEntries entries →
      let made := Node.unrolled name (fun left => around (.mapping tag left)) [] entries
      r.Knows (.mapping tag made.result) ∧ r.KnowsChanged made.changed := by
    intro tag entries hentries made
    obtain ⟨hresult, hchanged⟩ : r.KnowsEntries made.result ∧ r.KnowsChanged made.changed :=
      knows_unrolled (fun left hleft => haround _ (knows_mapping hleft)) (List.forall_mem_nil _)
        hentries
    exact ⟨knows_mapping hresult, hchanged⟩
  have hkept : r.KnowsMade ⟨node, []⟩ := ⟨h, List.forall_mem_nil _⟩
  unfold Node.unroll
  split
  · split
    · exact hmade _ _ h.entries
    · exact hkept
  · split
    · obtain ⟨hresult, hchanged⟩ := hmade _ _ h.content.entries
      exact ⟨hresult, List.forall_mem_cons.2 ⟨hresult, hchanged⟩⟩
    · exact hkept
  · exact hkept

lemma knows_withItem {items : List Node} (i : Nat) (h : r.KnowsAll items) (hleft : r.Knows left) :
    r.KnowsAll (Node.withItem items i left) := by
  unfold Node.withItem
  split
  · refine List.forall_mem_map.2 fun item hitem => ?_
    have hkept := h item hitem
    split
    · split
      · exact hleft
      · exact hkept
    · exact hkept
  · intro item hitem
    rcases List.mem_or_eq_of_mem_set hitem with hitem | rfl
    · exact h item hitem
    · exact hleft

lemma knows_unrollItems {tag : Tag} {fuel : Nat} {items : List Node} (h : r.KnowsAll items) :
    ∀ made ∈ Node.unrollItems name tag fuel items, r.KnowsMade made := by
  induction fuel generalizing items with
  | zero => exact List.forall_mem_map.2 fun item hitem => ⟨h item hitem, List.forall_mem_nil _⟩
  | succ fuel ih =>
      intro made hmade
      obtain ⟨i, hi, rfl⟩ := List.mem_mapIdx.1 hmade
      refine knows_unroll (fun left hleft => knows_sequence ?_) (h _ (List.getElem_mem hi))
      exact List.forall_mem_map.2 fun made hmade => (ih (knows_withItem i h hleft) made hmade).1

/-- What is known of a node is known of it when it has ended. -/
lemma knows_ended {node : Node} (h : r.Knows node) : r.KnowsMade (node.ended name) := by
  unfold Node.ended
  split
  next tag items =>
    have hitems : ∀ made ∈ Node.unrollItems name tag items.length items, r.KnowsMade made :=
      knows_unrollItems h.items
    refine ⟨knows_sequence (List.forall_mem_map.2 fun made hmade => (hitems made hmade).1), ?_⟩
    intro e he
    obtain ⟨made, hmade, hchanged⟩ := List.mem_flatMap.1 he
    exact (hitems made hmade).2 e hchanged
  next => exact knows_unroll (fun _ hleft => hleft) h

end

/-! ## Readings that keep what is known -/

variable {α β : Type} {known : Remaining → α → Prop} {known' : Remaining → β → Prop}

/-- A reading keeps what is known and knows what it has read, or the text is malformed. -/
def Reads (r : Remaining) (known : Remaining → α → Prop) : Except Fault (α × Remaining) → Prop
  | .ok (a, r') => r'.Settled ∧ r'.Extends r ∧ known r' a
  | .error fault => fault = .malformed

lemma reads_malformed : r.Reads known malformed := rfl

/-- What a later reading keeps, an earlier one has kept. -/
lemma Reads.of_extends {c : Except Fault (α × Remaining)} (h : r'.Reads known c)
    (hext : r'.Extends r) : r.Reads known c := by
  cases c with
  | error fault => exact h
  | ok result => exact ⟨h.1, h.2.1.trans hext, h.2.2⟩

/-- What goes on after a reading may rely on what has been read. -/
lemma Reads.bind {c : Except Fault (α × Remaining)}
    {f : α × Remaining → Except Fault (β × Remaining)} (hc : r'.Reads known c)
    (hf : ∀ a r'', r''.Settled → r''.Extends r' → known r'' a → r.Reads known' (f (a, r''))) :
    r.Reads known' (c >>= f) := by
  cases c with
  | error fault => exact hc
  | ok result => exact hf result.1 result.2 hc.1 hc.2.1 hc.2.2

/-- A demand that is not met makes the text malformed. -/
lemma Reads.require {condition : Bool} {f : Unit → Except Fault (β × Remaining)}
    (hf : condition = true → r.Reads known' (f ())) :
    r.Reads known' (Yaml.require condition >>= f) := by
  cases condition with
  | false => exact reads_malformed
  | true => exact hf rfl

lemma properties_eq (handles : Handles) (r : Remaining) :
    (∃ ps rest, r.properties handles = .ok (ps, { r with tokens := rest })) ∨
      r.properties handles = malformed := by
  have hfull : ∀ handle suffix, (∃ name, fullTag handles handle suffix = .ok name) ∨
      fullTag handles handle suffix = malformed := by
    intro handle suffix
    unfold fullTag
    split
    · exact .inl ⟨_, rfl⟩
    · split
      · exact .inl ⟨_, rfl⟩
      · exact .inr rfl
  unfold properties
  split
  next name handle suffix rest _ =>
    rcases hfull handle suffix with ⟨full, h⟩ | h <;> rw [h]
    · exact .inl ⟨_, _, rfl⟩
    · exact .inr rfl
  next handle suffix name rest _ =>
    rcases hfull handle suffix with ⟨full, h⟩ | h <;> rw [h]
    · exact .inl ⟨_, _, rfl⟩
    · exact .inr rfl
  next name rest _ => exact .inl ⟨_, _, rfl⟩
  next handle suffix rest _ _ =>
    rcases hfull handle suffix with ⟨full, h⟩ | h <;> rw [h]
    · exact .inl ⟨_, _, rfl⟩
    · exact .inr rfl
  next => exact .inl ⟨⟨none, none⟩, r.tokens, rfl⟩

/-- Properties name nothing. -/
lemma reads_properties {handles : Handles} (h : r.Settled) :
    r.Reads (fun _ _ => True) (r.properties handles) := by
  rcases properties_eq handles r with ⟨ps, rest, heq⟩ | heq <;> rw [heq]
  · exact ⟨h, Extends.refl r, trivial⟩
  · exact reads_malformed

lemma reads_referred {name : String} (h : r.Settled) : r.Reads Knows
    (do return (← r.referred name, r.drop)) := by
  unfold referred
  split
  next node hname =>
    obtain ⟨before, after, heq, -⟩ := List.lookup_eq_some_iff.1 hname
    have hmem : (name, node) ∈ r.changed := by simp [heq]
    exact ⟨h, Extends.refl r, h.2 _ hmem⟩
  next =>
    split
    next => exact reads_malformed
    next kind _ => exact ⟨h, Extends.refl r, knows_enclosing name kind⟩
    next node hname => exact ⟨h, Extends.refl r, knows_shared hname (h.1 name node hname)⟩

/-! ## The node of an anchor -/

lemma lookup_cons_of_ne {name other : String} (hne : other ≠ name) (anchor : Anchor)
    (anchors : List (String × Anchor)) :
    ((name, anchor) :: anchors).lookup other = anchors.lookup other := by
  have hfalse : (other == name) = false := by simpa using hne
  simp [List.lookup_cons, hfalse]

/-- The node of an anchor begins under a new name, or the text is malformed. -/
lemma beginNode_some (name : String) (kind : Kind) (r : Remaining) :
    (r.anchors.lookup name = none ∧
      r.beginNode kind (some name) = .ok { r with anchors := (name, .begun kind) :: r.anchors }) ∨
    r.beginNode kind (some name) = malformed := by
  simp only [beginNode]
  cases hname : r.anchors.lookup name with
  | none => exact .inl ⟨rfl, rfl⟩
  | some anchor => exact .inr rfl

/-- Nothing is known of a name whose node has only begun. -/
lemma Settled.begin {name : String} (kind : Kind) (h : r.Settled)
    (hnew : r.anchors.lookup name = none) :
    Settled { r with anchors := (name, .begun kind) :: r.anchors } := by
  have hknown : ∀ other, r.anchors.lookup other ≠ none → other ≠ name := by
    intro other hother heq
    rw [heq] at hother
    exact hother hnew
  have hext : Extends { r with anchors := (name, .begun kind) :: r.anchors } r := by
    intro other hother
    exact lookup_cons_of_ne (hknown other hother) _ r.anchors
  refine ⟨fun other content hcontent => ?_, h.2.mono hext⟩
  by_cases hsame : other = name
  · rw [hsame, List.lookup_cons_self] at hcontent
    cases hcontent
  · rw [lookup_cons_of_ne hsame] at hcontent
    exact (h.1 other content hcontent).mono hext

lemma Reads.begin {kind : Kind} {anchor : Option String}
    {f : Remaining → Except Fault (β × Remaining)} (h : r.Settled)
    (hf : ∀ r₁, r.beginNode kind anchor = .ok r₁ → r₁.Settled → r.Reads known' (f r₁)) :
    r.Reads known' (r.beginNode kind anchor >>= f) := by
  cases anchor with
  | none => exact hf r rfl h
  | some name =>
      rcases beginNode_some name kind r with ⟨hnew, heq⟩ | heq
      · have hbegun := hf _ heq (h.begin kind hnew)
        rw [heq]
        exact hbegun
      · rw [heq]
        exact reads_malformed

/-- When the node of a name ends, all that was known is known still, and the node is. -/
lemma reads_end {kind : Kind} {anchor : Option String} {r₁ : Remaining} {node : Node}
    (hbegin : r.beginNode kind anchor = .ok r₁) (hsettled : r'.Settled) (hext : r'.Extends r₁)
    (hnode : r'.Knows node) : r.Reads Knows (pure (r'.endNode node anchor)) := by
  cases anchor with
  | none =>
      obtain rfl : r = r₁ := Except.ok.inj hbegin
      exact ⟨hsettled, hext, hnode⟩
  | some name =>
      rcases beginNode_some name kind r with ⟨hnew, heq⟩ | heq
      · obtain rfl := Except.ok.inj (heq.symm.trans hbegin)
        have hopen : r'.anchors.lookup name = some (.begun kind) := by
          rw [hext name (by simp), List.lookup_cons_self]
        let made := node.ended name
        obtain ⟨hresult, hchanged⟩ : r'.KnowsMade made := knows_ended hnode
        let r₂ : Remaining := { r' with
          anchors := (name, .ended made.result) :: r'.anchors
          changed := made.changed ++ r'.changed }
        have hnamed : r₂.anchors.lookup name = some (.ended made.result) := List.lookup_cons_self
        have hother : ∀ other, other ≠ name →
            r₂.anchors.lookup other = r'.anchors.lookup other :=
          fun other hne => lookup_cons_of_ne hne _ _
        have hknows : ∀ other, r'.Knows other → r₂.Knows other := by
          intro other h inner content hinside
          have hinner := h inner content hinside
          have hne : inner ≠ name := by
            intro heq
            rw [heq, hopen] at hinner
            cases hinner
          rw [hother inner hne, hinner]
        refine ⟨⟨?_, ?_⟩, ?_, knows_shared hnamed (hknows _ hresult)⟩
        · intro other content hcontent
          by_cases hsame : other = name
          · rw [hsame, hnamed] at hcontent
            obtain rfl := Anchor.ended.inj (Option.some.inj hcontent)
            exact hknows _ hresult
          · rw [hother other hsame] at hcontent
            exact hknows content (hsettled.1 other content hcontent)
        · exact fun e he => hknows e.2 <|
            (List.mem_append.1 he).elim (hchanged e) (hsettled.2 e)
        · intro other hknown
          have hne : other ≠ name := by
            intro heq
            rw [heq] at hknown
            exact hknown hnew
          have hbegun := lookup_cons_of_ne hne (.begun kind) r.anchors
          rw [hother other hne, hext other (by rw [hbegun]; exact hknown), hbegun]
      · rw [heq] at hbegin
        cases hbegin

end Remaining

open Remaining

/-! ## Readings of nodes -/

variable {handles : Handles} {r : Remaining}

/-- All readings of nodes with so much fuel keep what is known. -/
structure ReadingsKeep (handles : Handles) (fuel : Nat) : Prop where
  node : ∀ block bare (r : Remaining), r.Settled →
    r.Reads Knows (readNode handles block bare fuel r)
  nodeUnless : ∀ block bare ends (r : Remaining), r.Settled →
    r.Reads Knows (readNodeUnless handles block bare ends fuel r)
  blockItems : ∀ r : Remaining, r.Settled → r.Reads KnowsAll (readBlockItems handles fuel r)
  bareItems : ∀ r : Remaining, r.Settled → r.Reads KnowsAll (readBareItems handles fuel r)
  blockEntries : ∀ r : Remaining, r.Settled → r.Reads KnowsEntries (readBlockEntries handles fuel r)
  flowValue : ∀ closing (r : Remaining), r.Settled →
    r.Reads Knows (readFlowValue handles closing fuel r)
  flowItems : ∀ first (r : Remaining), r.Settled →
    r.Reads KnowsAll (readFlowItems handles first fuel r)
  flowEntries : ∀ first (r : Remaining), r.Settled →
    r.Reads KnowsEntries (readFlowEntries handles first fuel r)

lemma reads_absent {r₀ : Remaining} {ps : Properties} (h : r.Settled) (hext : r.Extends r₀) :
    r₀.Reads Knows (readNode.absent ps r) := by
  unfold readNode.absent
  refine Reads.require fun _ => ?_
  exact ⟨h, hext, knows_scalar _ _⟩

lemma reads_node {fuel : Nat} (ih : ReadingsKeep handles fuel) (block bare : Bool)
    (h : r.Settled) : r.Reads Knows (readNode handles block bare (fuel + 1) r) := by
  rw [readNode]
  split
  · exact reads_referred h
  · refine (reads_properties h).bind fun ps r₁ h₁ e₁ _ => ?_
    refine Reads.of_extends ?_ e₁
    refine Reads.begin h₁ fun r₂ hbegin h₂ => ?_
    have hend := fun node r' (h' : Settled r') (e' : r'.Extends r₂) (k' : r'.Knows node) =>
      reads_end hbegin h' e' k'
    have habsent : r₁.Reads Knows (do
        let s ← readNode.absent ps r₂
        return s.2.endNode s.1 ps.anchor) :=
      (reads_absent h₂ (Extends.refl r₂)).bind hend
    have hsequence : ∀ c : Except Fault (List Node × Remaining), r₂.Reads KnowsAll c →
        r₁.Reads Knows (do
          let s ← c
          return s.2.endNode (.sequence (ps.tagOr .sequence) s.1) ps.anchor) :=
      fun c hc => hc.bind fun items r' h' e' k' => hend _ r' h' e' (knows_sequence k')
    have hmapping : ∀ c : Except Fault (Entries × Remaining), r₂.Reads KnowsEntries c →
        r₁.Reads Knows (do
          let s ← c
          return s.2.endNode (.mapping (ps.tagOr .mapping) s.1) ps.anchor) :=
      fun c hc => hc.bind fun entries r' h' e' k' => hend _ r' h' e' (knows_mapping k')
    dsimp only
    split
    · split
      · exact hsequence _ (ih.bareItems r₂ h₂)
      · exact habsent
    · exact hend _ _ h₂ (Extends.refl r₂) (knows_scalar _ _)
    · exact hsequence _ (ih.flowItems true _ h₂)
    · exact hmapping _ (ih.flowEntries true _ h₂)
    · split
      · exact hsequence _ (ih.blockItems _ h₂)
      · exact habsent
    · split
      · exact hmapping _ (ih.blockEntries _ h₂)
      · exact habsent
    · exact habsent

lemma knows_blank (r : Remaining) : r.Knows .blank := knows_scalar _ _

lemma reads_nodeUnless {fuel : Nat} (ih : ReadingsKeep handles fuel) (block bare : Bool)
    (ends : List Token) (h : r.Settled) :
    r.Reads Knows (readNodeUnless handles block bare ends (fuel + 1) r) := by
  rw [readNodeUnless]
  split
  · exact ⟨h, Extends.refl r, knows_blank r⟩
  · exact ih.node block bare r h

/-- One more item before the others. -/
lemma reads_cons {c : Except Fault (Node × Remaining)}
    {f : Remaining → Except Fault (List Node × Remaining)} (hc : r.Reads Knows c)
    (hf : ∀ r' : Remaining, r'.Settled → r'.Reads KnowsAll (f r')) :
    r.Reads KnowsAll (do
      let (item, r) ← c
      let (items, r) ← f r
      return (item :: items, r)) := by
  refine hc.bind fun item r₁ h₁ e₁ hitem => Reads.of_extends ?_ e₁
  refine (hf r₁ h₁).bind fun items r₂ h₂ e₂ hitems => ?_
  exact ⟨h₂, e₂, KnowsAll.cons (hitem.mono e₂) hitems⟩

lemma reads_blockItems {fuel : Nat} (ih : ReadingsKeep handles fuel) (h : r.Settled) :
    r.Reads KnowsAll (readBlockItems handles (fuel + 1) r) := by
  rw [readBlockItems]
  split
  · exact reads_cons (ih.nodeUnless true false _ r.drop h) ih.blockItems
  · exact ⟨h, Extends.refl r, List.forall_mem_nil _⟩
  · exact reads_malformed

lemma reads_bareItems {fuel : Nat} (ih : ReadingsKeep handles fuel) (h : r.Settled) :
    r.Reads KnowsAll (readBareItems handles (fuel + 1) r) := by
  rw [readBareItems]
  split
  · exact reads_cons (ih.nodeUnless true false _ r.drop h) ih.bareItems
  · exact ⟨h, Extends.refl r, List.forall_mem_nil _⟩

/-- One more entry before the others, when its key has been read. -/
lemma reads_entry {key : Node} {c : Except Fault (Node × Remaining)}
    {f : Remaining → Except Fault (Entries × Remaining)} (hkey : r.Knows key)
    (hc : r.Reads Knows c) (hf : ∀ r' : Remaining, r'.Settled → r'.Reads KnowsEntries (f r')) :
    r.Reads KnowsEntries (do
      let (value, r) ← c
      let (entries, r) ← f r
      return ((key, value) :: entries, r)) := by
  refine hc.bind fun value r₁ h₁ e₁ hvalue => Reads.of_extends ?_ e₁
  refine (hf r₁ h₁).bind fun entries r₂ h₂ e₂ hentries => ?_
  have hkeyKept : r₂.Knows key := hkey.mono (e₂.trans e₁)
  exact ⟨h₂, e₂, KnowsEntries.cons hkeyKept (hvalue.mono e₂) hentries⟩

lemma reads_blank (h : r.Settled) : r.Reads Knows (pure (.blank, r)) :=
  ⟨h, Extends.refl r, knows_blank r⟩

lemma reads_blockEntries {fuel : Nat} (ih : ReadingsKeep handles fuel) (h : r.Settled) :
    r.Reads KnowsEntries (readBlockEntries handles (fuel + 1) r) := by
  rw [readBlockEntries]
  split
  · refine (ih.nodeUnless true true _ r.drop h).bind fun key r₁ h₁ e₁ hkey =>
      Reads.of_extends ?_ e₁
    dsimp only
    split
    · exact reads_entry hkey (ih.nodeUnless true true _ r₁.drop h₁) ih.blockEntries
    · exact reads_entry hkey (reads_blank h₁) ih.blockEntries
  · exact ⟨h, Extends.refl r, List.forall_mem_nil _⟩
  · exact reads_malformed

lemma reads_flowValue {fuel : Nat} (ih : ReadingsKeep handles fuel) (closing : Token)
    (h : r.Settled) : r.Reads Knows (readFlowValue handles closing (fuel + 1) r) := by
  rw [readFlowValue]
  split
  · exact ih.nodeUnless false false _ r.drop h
  · exact reads_blank h

/-- A comma changes nothing, whether there is one or not. -/
lemma settled_pastComma {first : Bool} {r₀ : Remaining} (h : r.Settled)
    (hat : (if first = true then r else r.drop) = r₀) : r₀.Settled ∧ r₀.Extends r := by
  rw [← hat]
  cases first with
  | true => exact ⟨h, Extends.refl r⟩
  | false => exact ⟨h, Extends.refl r⟩

lemma reads_flowItems {fuel : Nat} (ih : ReadingsKeep handles fuel) (first : Bool)
    (h : r.Settled) : r.Reads KnowsAll (readFlowItems handles first (fuel + 1) r) := by
  rw [readFlowItems]
  split
  · exact ⟨h, Extends.refl r, List.forall_mem_nil _⟩
  · refine Reads.require fun _ => ?_
    generalize hat : (if first = true then r else r.drop) = r₀
    obtain ⟨h₀, e₀⟩ := settled_pastComma h hat
    refine Reads.of_extends ?_ e₀
    dsimp only
    split
    · exact ⟨h₀, Extends.refl r₀, List.forall_mem_nil _⟩
    · refine (ih.nodeUnless false false _ r₀.drop h₀).bind fun key r₁ h₁ e₁ hkey =>
        Reads.of_extends ?_ e₁
      refine (ih.flowValue _ r₁ h₁).bind fun value r₂ h₂ e₂ hvalue => Reads.of_extends ?_ e₂
      refine (ih.flowItems false r₂ h₂).bind fun items r₃ h₃ e₃ hitems => ?_
      have hkeyKept : r₃.Knows key := hkey.mono (e₃.trans e₂)
      have hentries : r₃.KnowsEntries [(key, value)] :=
        KnowsEntries.cons hkeyKept (hvalue.mono e₃) (List.forall_mem_nil _)
      exact ⟨h₃, e₃, KnowsAll.cons (knows_mapping hentries) hitems⟩
    · exact reads_cons (ih.node false false r₀ h₀) (ih.flowItems false)

lemma reads_flowEntries {fuel : Nat} (ih : ReadingsKeep handles fuel) (first : Bool)
    (h : r.Settled) : r.Reads KnowsEntries (readFlowEntries handles first (fuel + 1) r) := by
  rw [readFlowEntries]
  split
  · exact ⟨h, Extends.refl r, List.forall_mem_nil _⟩
  · refine Reads.require fun _ => ?_
    generalize hat : (if first = true then r else r.drop) = r₀
    obtain ⟨h₀, e₀⟩ := settled_pastComma h hat
    refine Reads.of_extends ?_ e₀
    dsimp only
    split
    · exact ⟨h₀, Extends.refl r₀, List.forall_mem_nil _⟩
    · refine (ih.nodeUnless false false _ r₀.drop h₀).bind fun key r₁ h₁ e₁ hkey =>
        Reads.of_extends ?_ e₁
      exact reads_entry hkey (ih.flowValue _ r₁ h₁) (ih.flowEntries false)
    · refine (ih.node false false r₀ h₀).bind fun key r₁ h₁ e₁ hkey => Reads.of_extends ?_ e₁
      exact reads_entry hkey (reads_blank h₁) (ih.flowEntries false)

/-- Whatever is read keeps what is known. -/
lemma readingsKeep (handles : Handles) (fuel : Nat) : ReadingsKeep handles fuel := by
  induction fuel with
  | zero =>
      constructor <;> intros <;> exact reads_malformed
  | succ fuel ih =>
      constructor
      · exact fun block bare r h => reads_node ih block bare h
      · exact fun block bare ends r h => reads_nodeUnless ih block bare ends h
      · exact fun r h => reads_blockItems ih h
      · exact fun r h => reads_bareItems ih h
      · exact fun r h => reads_blockEntries ih h
      · exact fun closing r h => reads_flowValue ih closing h
      · exact fun first r h => reads_flowItems ih first h
      · exact fun first r h => reads_flowEntries ih first h

/-! ## The node of a document -/

/-- No name is shared by two different nodes inside a node. -/
def Node.SharesOnce (root : Node) : Prop :=
  ∃ content : String → Node, ∀ name node, Inside (.shared name node) root → node = content name

/-- The tokens of a document make up a node that shares every name once, or the text is
malformed. -/
def IsDocument : Except Fault (Option Node) → Prop
  | .ok node? => ∀ root ∈ node?, root.SharesOnce
  | .error fault => fault = .malformed

/-- The node that an anchor names, if it has ended. -/
def Anchor.node : Anchor → Node
  | .begun _ => .blank
  | .ended node => node

lemma sharesOnce_of_knows {root : Node} (h : r.Knows root) : root.SharesOnce := by
  refine ⟨fun name => ((r.anchors.lookup name).map Anchor.node).getD .blank, ?_⟩
  intro name node hinside
  simp [h name node hinside, Anchor.node]

lemma sharesOnce_blank : Node.blank.SharesOnce := sharesOnce_of_knows (knows_blank { tokens := [] })

lemma readContent_cases (handles : Handles) (size : Nat) (tokens : List Token) :
    (∃ root rest, readContent handles size tokens = .ok (root, rest) ∧ root.SharesOnce) ∨
      readContent handles size tokens = malformed := by
  have hempty : Settled { tokens } :=
    ⟨fun name content h => by simp at h, List.forall_mem_nil _⟩
  have hreads := (readingsKeep handles (4 * size + 4)).node true false { tokens } hempty
  unfold readContent
  cases hread : readNode handles true false (4 * size + 4) { tokens } with
  | error fault =>
      rw [hread] at hreads
      obtain rfl : fault = .malformed := hreads
      exact .inr rfl
  | ok result =>
      rw [hread] at hreads
      exact .inl ⟨result.1, result.2.tokens, rfl, sharesOnce_of_knows hreads.2.2⟩

lemma readDirectives_cases (versioned : Bool) (handles : Handles) (tokens : List Token) :
    (∃ result, readDirectives versioned handles tokens = .ok result) ∨
      readDirectives versioned handles tokens = malformed := by
  induction tokens generalizing versioned handles with
  | nil => exact .inl ⟨_, rfl⟩
  | cons token tokens ih =>
      cases token with
      | directive d =>
          cases d with
          | version major =>
              rw [readDirectives]
              cases !versioned && decide (major = 1) with
              | false => exact .inr rfl
              | true => exact ih true handles
          | tagHandle handle expansion =>
              rw [readDirectives]
              cases (handles.lookup handle).isNone with
              | false => exact .inr rfl
              | true => exact ih versioned _
          | other => exact ih versioned handles
      | _ => exact .inl ⟨_, rfl⟩

lemma isDocument_require {condition : Bool} {f : Unit → Except Fault (Option Node)}
    (hf : condition = true → IsDocument (f ())) : IsDocument (require condition >>= f) := by
  cases condition with
  | false => exact rfl
  | true => exact hf rfl

lemma isDocument_content (handles : Handles) (size : Nat) (tokens : List Token) :
    IsDocument (do
      let (node, rest) ← readContent handles size tokens
      require (endsText rest)
      return some node) := by
  rcases readContent_cases handles size tokens with ⟨root, rest, heq, hshares⟩ | heq <;> rw [heq]
  · refine isDocument_require fun _ => ?_
    rintro _ ⟨⟩
    exact hshares
  · exact rfl

lemma isDocument_unlessBlank (isBlank : Bool) (handles : Handles) (size : Nat)
    (tokens : List Token) : IsDocument (do
      let (node, rest) ← if isBlank then pure (Node.blank, tokens)
        else readContent handles size tokens
      require (endsText rest)
      return some node) := by
  cases isBlank with
  | false => exact isDocument_content handles size tokens
  | true =>
      refine isDocument_require fun _ => ?_
      rintro _ ⟨⟩
      exact sharesOnce_blank

lemma isDocument_directives (size : Nat) (tokens : List Token) : IsDocument (do
    let (handles, rest) ← readDirectives false [] tokens
    require (rest.head? = some .documentStart)
    let rest := rest.tail
    let isBlank := match rest.head? with
      | none | some (.directive _) | some .documentStart | some .documentEnd => true
      | _ => false
    let (node, rest) ← if isBlank then pure (Node.blank, rest) else readContent handles size rest
    require (endsText rest)
    return some node) := by
  rcases readDirectives_cases false [] tokens with ⟨⟨handles, rest⟩, heq⟩ | heq <;> rw [heq]
  · exact isDocument_require fun _ => isDocument_unlessBlank _ _ _ _
  · exact rfl

/-- Whatever tokens there are, they make up a node that shares every name once, or no document, or
the text is malformed. -/
theorem isDocument_ofTokens? (tokens : List Token) : IsDocument (Node.ofTokens? tokens) := by
  unfold Node.ofTokens?
  split
  · rintro _ ⟨⟩
  · exact isDocument_directives _ _
  · exact isDocument_directives _ _
  · exact isDocument_content _ _ _

/-- The node of a text shares every name once. -/
theorem Node.sharesOnce_of_ofText? {text : List Char} {root : Node}
    (h : Node.ofText? text = .ok (some root)) : root.SharesOnce := by
  unfold Node.ofText? at h
  cases htokens : tokensOf text with
  | error fault => simp [htokens, bind, Except.bind] at h
  | ok tokens =>
      have hdocument := isDocument_ofTokens? tokens
      rw [htokens] at h
      rw [show Node.ofTokens? tokens = .ok (some root) from h] at hdocument
      exact hdocument root rfl

/-- A fault on the way to the node of a text is one of the tokens, or the text is malformed. -/
theorem Node.fault_of_ofText? {text : List Char} {fault : Fault}
    (h : Node.ofText? text = .error fault) : tokensOf text = .error fault ∨ fault = .malformed := by
  unfold Node.ofText? at h
  cases htokens : tokensOf text with
  | error other =>
      rw [htokens] at h
      exact .inl (congrArg Except.error (Except.error.inj h))
  | ok tokens =>
      have hdocument := isDocument_ofTokens? tokens
      rw [htokens] at h
      rw [show Node.ofTokens? tokens = .error fault from h] at hdocument
      exact .inr hdocument

end FormEngine.Yaml
