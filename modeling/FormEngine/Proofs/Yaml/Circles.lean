import FormEngine.Proofs.Yaml.Decoding

/-!
# Nodes that are built from themselves

A node may refer to a node around it, and its value would then contain itself.  Decoding that
refuses repeated keys builds what is inside a mapping before the mapping, so that no such node has a
value there.  `not_builds_itself_of_decode` says this of texts whose whole is a mapping, as every
text is that declares a form.

What carries the induction is that nothing is remembered of a node before all of it is decoded.  A
reference is decoded only if its name is remembered, and a name is not while its node is being
decoded.
-/

namespace FormEngine.Yaml

open Node Decode

variable {α β : Type} {inv : Known → Prop} {content : String → Node}

/-! ## Settled nodes -/

/-- No shared node that a node is built from is built from a reference to itself. -/
def Node.IsFree (node : Node) : Prop :=
  ∀ name inner kind, node.Builds (.shared name inner) → ¬ inner.Builds (.enclosing name kind)

/-- A node is free, and what it refers to around it is remembered. -/
structure Node.Settled (known : Known) (node : Node) : Prop where
  isFree : node.IsFree
  known : ∀ name kind, node.Builds (.enclosing name kind) → (known.lookup name).isSome = true

/-- What is remembered of more nodes settles no fewer. -/
def Known.Within (known after : Known) : Prop :=
  ∀ name, (known.lookup name).isSome = true → (after.lookup name).isSome = true

lemma Known.Within.trans {a b c : Known} (hab : a.Within b) (hbc : b.Within c) : a.Within c :=
  fun name h => hbc name (hab name h)

lemma Known.within_cons (entry : String × Value) (known : Known) :
    known.Within (entry :: known) := by
  intro name h
  rw [lookup_cons_known]
  split_ifs
  · rfl
  · exact h

lemma Node.Settled.mono {known after : Known} {node : Node} (h : node.Settled known)
    (hwithin : known.Within after) : node.Settled after :=
  ⟨h.isFree, fun name kind hbuilds => hwithin name (h.known name kind hbuilds)⟩

/-- A node is neither shared nor a reference. -/
def Node.isProper : Node → Bool
  | .shared .. | .enclosing .. => false
  | _ => true

/-- A proper node is settled if its parts are. -/
lemma Node.Settled.of_parts {known : Known} {node : Node} (hproper : node.isProper = true)
    (h : ∀ part ∈ node.parts, part.Settled known) : node.Settled known := by
  refine ⟨fun name inner kind hbuilds => ?_, fun name kind hbuilds => ?_⟩
  · generalize hother : Node.shared name inner = other at hbuilds
    cases hbuilds with
    | here => simp [← hother, isProper] at hproper
    | part hpart hbelow => exact (h _ hpart).isFree name inner kind (hother ▸ hbelow)
  · generalize hother : Node.enclosing name kind = other at hbuilds
    cases hbuilds with
    | here => simp [← hother, isProper] at hproper
    | part hpart hbelow => exact (h _ hpart).known name kind (hother ▸ hbelow)

lemma Node.settled_scalar (known : Known) (tag : Tag) (points : List Nat) :
    (Node.scalar tag points).Settled known :=
  .of_parts rfl (List.forall_mem_nil _)

lemma Node.not_scalar_builds {tag : Tag} {points : List Nat} {name : String} {kind : Kind} :
    ¬ (Node.scalar tag points).Builds (.enclosing name kind) := by
  intro h
  cases h with
  | part hpart => cases hpart

/-- A shared node is settled with its content, which must not refer to it. -/
lemma Node.settled_shared {known : Known} {name : String} {node : Node} :
    (Node.shared name node).Settled known ↔
      node.Settled known ∧ ∀ kind, ¬ node.Builds (.enclosing name kind) := by
  have hpart : node ∈ (Node.shared name node).parts := List.mem_singleton_self node
  constructor
  · rintro ⟨hfree, hknown⟩
    exact ⟨⟨fun other inner kind hbuilds => hfree other inner kind (.part hpart hbuilds),
      fun other kind hbuilds => hknown other kind (.part hpart hbuilds)⟩,
      fun kind => hfree name node kind .here⟩
  · rintro ⟨⟨hfree, hknown⟩, hself⟩
    refine ⟨fun other inner kind hbuilds => ?_, fun other kind hbuilds => ?_⟩
    · cases hbuilds with
      | here => exact hself kind
      | part hpart hbelow => exact hfree other inner kind (List.mem_singleton.1 hpart ▸ hbelow)
    · cases hbuilds with
      | part hpart hbelow => exact hknown other kind (List.mem_singleton.1 hpart ▸ hbelow)

/-- Whether a node is a key does not matter. -/
lemma Node.settled_shared_asKey {known : Known} {name : String} {node : Node} :
    (Node.shared name node.asKey).Settled known ↔ (Node.shared name node).Settled known := by
  have hscalar : ∀ name tag points, (Node.shared name (.scalar tag points)).Settled known :=
    fun name tag points => settled_shared.2
      ⟨settled_scalar known tag points, fun _ => not_scalar_builds⟩
  have hshared : ∀ other tag points,
      (Node.shared name (.shared other (.scalar tag points))).Settled known := by
    refine fun other tag points => settled_shared.2 ⟨hscalar other tag points, fun kind h => ?_⟩
    cases h with
    | part hpart hbelow => exact not_scalar_builds (List.mem_singleton.1 hpart ▸ hbelow)
  rcases asKey_cases node with ⟨points, rfl⟩ | ⟨other, points, rfl⟩ | heq
  · exact iff_of_true (hscalar _ _ _) (hscalar _ _ _)
  · exact iff_of_true (hshared _ _ _) (hshared _ _ _)
  · rw [heq]

/-! ## Decoding that settles nodes -/

/-- A decoding that succeeds keeps an invariant, forgets nothing and leaves these nodes settled. -/
def Decode.Settles (inv : Known → Prop) (nodes : List Node) (c : Decode α) : Prop :=
  ∀ known, inv known → ∀ a after, c known = .ok (a, after) →
    inv after ∧ known.Within after ∧ ∀ node ∈ nodes, node.Settled after

namespace Decode

variable {nodes nodes' : List Node}

lemma settles_ofExcept (c : Except Fault α) : Settles inv [] (.ofExcept c) := by
  intro known hinv a after h
  cases c with
  | error fault => cases h
  | ok b =>
      obtain ⟨-, rfl⟩ := Prod.mk.inj (Except.ok.inj h)
      exact ⟨hinv, fun _ => id, List.forall_mem_nil _⟩

lemma settles_pure (a : α) : Settles inv [] (pure a) := settles_ofExcept (.ok a)

lemma Settles.bind {c : Decode α} {f : α → Decode β} (hc : Settles inv nodes c)
    (hf : ∀ a, Settles inv nodes' (f a)) : Settles inv (nodes ++ nodes') (c >>= f) := by
  intro known hinv b last h
  have hopen : (c >>= f) known = (c known >>= fun r => f r.1 r.2) := rfl
  rw [hopen] at h
  cases hrun : c known with
  | error fault =>
      rw [hrun] at h
      cases h
  | ok r =>
      rw [hrun] at h
      obtain ⟨hinv', hfirst, hsettled⟩ := hc known hinv r.1 r.2 hrun
      obtain ⟨hinv'', hsecond, hsettled'⟩ := hf r.1 r.2 hinv' b last h
      refine ⟨hinv'', hfirst.trans hsecond, fun node hnode => ?_⟩
      rcases List.mem_append.1 hnode with hnode | hnode
      · exact (hsettled node hnode).mono hsecond
      · exact hsettled' node hnode

/-- What is done last may settle nothing. -/
lemma Settles.finish {c : Decode α} {f : α → Decode β} (hc : Settles inv nodes c)
    (hf : ∀ a, Settles inv [] (f a)) : Settles inv nodes (c >>= f) := by
  have h := hc.bind hf
  rwa [List.append_nil] at h

lemma Settles.mapM {f : α → Decode β} {settled : α → List Node} {items : List α}
    (h : ∀ item ∈ items, Settles inv (settled item) (f item)) :
    Settles inv (items.flatMap settled) (items.mapM f) := by
  induction items with
  | nil => exact settles_pure []
  | cons item items ih =>
      obtain ⟨hitem, hitems⟩ := List.forall_mem_cons.1 h
      rw [List.mapM_cons, List.flatMap_cons]
      exact hitem.bind fun b => (ih hitems).finish fun bs => settles_pure (b :: bs)

lemma Settles.foldlM {f : β → α → Decode β} {settled : α → List Node} {items : List α}
    (h : ∀ item ∈ items, ∀ b, Settles inv (settled item) (f b item)) (b : β) :
    Settles inv (items.flatMap settled) (items.foldlM f b) := by
  induction items generalizing b with
  | nil => exact settles_pure b
  | cons item items ih =>
      obtain ⟨hitem, hitems⟩ := List.forall_mem_cons.1 h
      rw [List.foldlM_cons, List.flatMap_cons]
      exact (hitem b).bind fun b' => ih hitems b'

end Decode

/-! ## All nodes -/

/-- Open names are not remembered, and what is remembered is settled. -/
structure Closed (content : String → Node) (opened : List String) (known : Known) : Prop where
  unknown : ∀ name ∈ opened, known.lookup name = none
  settled : ∀ name v, known.lookup name = some v → (Node.shared name (content name)).Settled known

/-- All nodes inside a mapping are settled by decoding with this fuel. -/
def SettlesAll (content : String → Node) (fuel : Nat) : Prop :=
  ∀ opened (node : Node), node.Follows content → node.Avoids opened →
    Settles (Closed content opened) [node] (decodeNode .uniqueKeys fuel false node)

section

variable {fuel : Nat} {opened : List String} {node part : Node} {entries es : Entries}
  {items : List Node} {name : String}

lemma settles_part (ih : SettlesAll content fuel) (hfollows : node.Follows content)
    (havoids : node.Avoids opened) (hpart : part ∈ node.parts) :
    Settles (Closed content opened) [part] (decodeNode .uniqueKeys fuel false part) :=
  ih opened part (hfollows.part hpart) (havoids.part hpart)

/-- A proper node is settled by a decoding that settles its parts. -/
lemma Decode.Settles.of_parts {c : Decode Value} (hproper : node.isProper = true)
    (h : Settles (Closed content opened) node.parts c) :
    Settles (Closed content opened) [node] c := by
  intro known hinv a after hc
  obtain ⟨hinv', hwithin, hsettled⟩ := h known hinv a after hc
  exact ⟨hinv', hwithin, List.forall_mem_singleton.2 (.of_parts hproper hsettled)⟩

/-- The name of a node is remembered when its content is settled and nothing in it refers to it. -/
lemma settles_shared (ih : SettlesAll content fuel)
    (hfollows : (Node.shared name node).Follows content)
    (havoids : (Node.shared name node).Avoids opened) :
    Settles (Closed content opened) [.shared name node]
      (decodeNode .uniqueKeys (fuel + 1) false (.shared name node)) := by
  have hself : (Node.shared name node).Shares name node.asKey := ⟨node, .here, rfl⟩
  have hcontent : content name = node.asKey := (hfollows name _ hself).symm
  have hclosed : name ∉ opened := fun hname => havoids name hname _ hself
  have hrun := ih (name :: opened) node (hfollows.part (List.mem_singleton_self node))
    (avoids_content hfollows havoids)
  intro known hinv v after h
  rw [decodeNode_shared] at h
  cases hknown : known.lookup name with
  | some w =>
      rw [hknown] at h
      obtain ⟨rfl, rfl⟩ := Prod.mk.inj (Except.ok.inj h)
      have hsettled := hinv.settled name _ hknown
      rw [hcontent, settled_shared_asKey] at hsettled
      exact ⟨hinv, fun _ => id, List.forall_mem_singleton.2 hsettled⟩
  | none =>
      have hopening : opening false name node known = known := rfl
      have hbegun : Closed content (name :: opened) known :=
        ⟨List.forall_mem_cons.2 ⟨hknown, hinv.unknown⟩, hinv.settled⟩
      rw [hknown, hopening] at h
      dsimp only at h
      cases hdecode : decodeNode .uniqueKeys fuel false node known with
      | error fault =>
          rw [hdecode] at h
          cases h
      | ok r =>
          rw [hdecode] at h
          obtain ⟨rfl, rfl⟩ := Prod.mk.inj (Except.ok.inj h)
          obtain ⟨hinv', hwithin, hsettled⟩ := hrun known hbegun r.1 r.2 hdecode
          have hnode : node.Settled r.2 := hsettled node (List.mem_singleton_self node)
          have hunknown := hinv'.unknown name List.mem_cons_self
          have hback : ∀ kind, ¬ node.Builds (.enclosing name kind) := by
            intro kind hbuilds
            have hsome := hnode.known name kind hbuilds
            rw [hunknown] at hsome
            cases hsome
          have hkept := Known.within_cons (name, r.1) r.2
          have hshared : (Node.shared name node).Settled ((name, r.1) :: r.2) :=
            (settled_shared.2 ⟨hnode, hback⟩).mono hkept
          refine ⟨⟨fun other hother => ?_, fun other w hother => ?_⟩, hwithin.trans hkept,
            List.forall_mem_singleton.2 hshared⟩
          · have hne : other ≠ name := fun heq => hclosed (heq ▸ hother)
            rw [lookup_cons_known, if_neg hne]
            exact hinv'.unknown other (List.mem_cons_of_mem _ hother)
          · rw [lookup_cons_known] at hother
            split_ifs at hother with hsame
            · rw [hsame, hcontent, settled_shared_asKey]
              exact hshared
            · exact (hinv'.settled other w hother).mono hkept

/-- A reference is decoded only if its name is remembered. -/
lemma settles_enclosing {kind : Kind} : Settles (Closed content opened) [.enclosing name kind]
    (decodeNode .uniqueKeys (fuel + 1) false (.enclosing name kind)) := by
  intro known hinv v after h
  rw [decodeNode, known?_bind] at h
  cases hknown : known.lookup name with
  | none =>
      rw [hknown] at h
      cases h
  | some w =>
      rw [hknown] at h
      obtain ⟨rfl, rfl⟩ := Prod.mk.inj (Except.ok.inj h)
      refine ⟨hinv, fun _ => id, List.forall_mem_singleton.2 ⟨fun _ _ _ hbuilds => ?_, ?_⟩⟩
      · cases hbuilds with
        | part hpart => cases hpart
      · intro other kind hbuilds
        cases hbuilds with
        | here => rw [hknown]; rfl
        | part hpart => cases hpart

/-- The entries of a mapping, and what is done with them. -/
lemma settles_openEntries {tag : Tag} {f : Entries → Decode Value}
    (htag : tag = .mapping ∨ tag = .set) (h : ∀ es, spliced entries = .ok es →
      Settles (Closed content opened) (keysAndValues es) (f es)) :
    Settles (Closed content opened) [.mapping tag entries]
      (.ofExcept (openEntries false entries) >>= f) := by
  refine Settles.of_parts rfl ?_
  rcases openEntries_cases false entries with ⟨-, -, heq⟩ | ⟨-, heq⟩ <;> rw [heq]
  · exact fun _ _ _ _ herror => by cases herror
  · cases hspliced : spliced entries with
    | error fault => exact fun _ _ _ _ herror => by cases herror
    | ok es =>
        rw [parts_of_spliced htag hspliced]
        exact h es hspliced

lemma settles_mapping (ih : SettlesAll content fuel)
    (hfollows : (Node.mapping .mapping entries).Follows content)
    (havoids : (Node.mapping .mapping entries).Avoids opened) :
    Settles (Closed content opened) [.mapping .mapping entries] (do
      let entries ← .ofExcept (openEntries false entries)
      let decoded ← entries.mapM fun e => do
        return (← decodeNode .uniqueKeys fuel false e.1, ← decodeNode .uniqueKeys fuel false e.2)
      .ofExcept (refuseDuplicates decoded)) := by
  refine settles_openEntries (.inl rfl) fun es hspliced => ?_
  refine (Settles.mapM fun e he => ?_).finish fun decoded => settles_ofExcept _
  obtain ⟨hkey, hvalue⟩ := mem_parts_of_spliced (.inl rfl) hspliced he
  exact (settles_part ih hfollows havoids hkey).bind fun k =>
    (settles_part ih hfollows havoids hvalue).finish fun v => settles_pure (k, v)

lemma settles_set (ih : SettlesAll content fuel)
    (hfollows : (Node.mapping .set entries).Follows content)
    (havoids : (Node.mapping .set entries).Avoids opened) :
    Settles (Closed content opened) [.mapping .set entries] (do
      let entries ← .ofExcept (openEntries false entries)
      let members ← entries.foldlM (fun members e => do
        let members ← .ofExcept (addMember members (← decodeNode .uniqueKeys fuel false e.1))
        let _ ← decodeNode .uniqueKeys fuel false e.2
        return members) []
      return Value.set members) := by
  refine settles_openEntries (.inr rfl) fun es hspliced => ?_
  refine (Settles.foldlM (fun e he members => ?_) []).finish fun members => settles_pure _
  obtain ⟨hkey, hvalue⟩ := mem_parts_of_spliced (.inr rfl) hspliced he
  exact (settles_part ih hfollows havoids hkey).bind fun k =>
    (settles_ofExcept _).bind fun members =>
      (settles_part ih hfollows havoids hvalue).finish fun v => settles_pure members

lemma settles_pairs {tag : Tag} (ih : SettlesAll content fuel)
    (htag : tag = .pairs ∨ tag = .orderedMapping)
    (hfollows : (Node.sequence tag items).Follows content)
    (havoids : (Node.sequence tag items).Avoids opened) :
    Settles (Closed content opened) [.sequence tag items] (do
      return Value.list (← items.mapM fun item => do
        let entry ← .ofExcept (onlyEntry item)
        let key ← decodeNode .uniqueKeys fuel false entry.1
        return Value.tuple [key, ← decodeNode .uniqueKeys fuel false entry.2])) := by
  refine Settles.of_parts rfl ?_
  rw [parts_of_pairs htag]
  refine (Settles.mapM fun item hitem => ?_).finish fun vs => settles_pure _
  cases hentry : onlyEntry item with
  | error fault => exact fun _ _ _ _ herror => by cases herror
  | ok e =>
      obtain ⟨hkey, hvalue⟩ := mem_parts_of_onlyEntry htag hitem hentry
      exact (settles_part ih hfollows havoids hkey).bind fun k =>
        (settles_part ih hfollows havoids hvalue).finish fun v => settles_pure (Value.tuple [k, v])

lemma settles_sequence (ih : SettlesAll content fuel)
    (hfollows : (Node.sequence .sequence items).Follows content)
    (havoids : (Node.sequence .sequence items).Avoids opened) :
    Settles (Closed content opened) [.sequence .sequence items] (do
      return Value.list (← items.mapM (decodeNode .uniqueKeys fuel false))) := by
  refine Settles.of_parts rfl ?_
  have hitems := Settles.mapM fun item hitem => settles_part ih hfollows havoids hitem
  rw [List.flatMap_singleton'] at hitems
  exact hitems.finish fun vs => settles_pure (Value.list vs)

/-- A node whose text is wanted has no parts. -/
lemma settles_text (node : Node) (hproper : node.isProper = true) (hparts : node.parts = []) :
    Settles (Closed content opened) [node] (match node.scalarText with
      | some points =>
        if node.tag = .moment ∧ node.kind = .mapping then .fail .entriesForMoment
        else .ofExcept (scalarValue node.tag points)
      | none => .fail .malformed) := by
  refine Settles.of_parts hproper (hparts ▸ ?_)
  split
  · split
    · exact settles_ofExcept (.error .entriesForMoment)
    · exact settles_ofExcept _
  · exact settles_ofExcept (.error .malformed)

end

/-- Whatever is open and whatever is remembered. -/
theorem settlesAll (content : String → Node) (fuel : Nat) : SettlesAll content fuel := by
  have hfails : ∀ (fault : Fault) opened nodes,
      Settles (Closed content opened) nodes (.fail fault : Decode Value) :=
    fun _ _ _ _ _ _ _ herror => by cases herror
  induction fuel with
  | zero => exact fun opened node _ _ => hfails _ opened _
  | succ fuel ih =>
      intro opened node hfollows havoids
      cases node with
      | shared name node => exact settles_shared ih hfollows havoids
      | enclosing name kind => exact settles_enclosing
      | scalar tag points =>
          rw [decodeNode]
          · cases tag with
            | mapping =>
                cases points with
                | cons point points => exact hfails _ _ _
                | nil => exact Settles.of_parts rfl (settles_pure (Value.map []))
            | sequence => exact hfails _ _ _
            | set => exact hfails _ _ _
            | pairs => exact hfails _ _ _
            | orderedMapping => exact hfails _ _ _
            | _ => exact settles_text (.scalar _ points) rfl rfl
          all_goals simp
      | sequence tag items =>
          rw [decodeNode]
          cases tag with
          | sequence => exact settles_sequence ih hfollows havoids
          | mapping =>
              cases items with
              | cons item items => exact hfails _ _ _
              | nil => exact Settles.of_parts rfl (settles_pure (Value.map []))
          | set => exact hfails _ _ _
          | pairs => exact settles_pairs ih (.inl rfl) hfollows havoids
          | orderedMapping => exact settles_pairs ih (.inr rfl) hfollows havoids
          | _ => exact hfails _ _ _
      | mapping tag entries =>
          rw [decodeNode]
          cases tag with
          | sequence => exact hfails _ _ _
          | mapping => exact settles_mapping ih hfollows havoids
          | set => exact settles_set ih hfollows havoids
          | pairs => exact hfails _ _ _
          | orderedMapping => exact hfails _ _ _
          | _ => exact settles_text (.mapping _ entries) rfl rfl

/-! ## Documents -/

/-- To a mapping it does not matter whether it has collections around it, as it is never open. -/
lemma decodeNode_of_mapping {node : Node} (h : node.tag = .mapping) (fuel : Nat) (known : Known) :
    decodeNode .uniqueKeys fuel true node known = decodeNode .uniqueKeys fuel false node known := by
  induction fuel generalizing node known with
  | zero => rfl
  | succ fuel ih =>
      cases node with
      | shared name node =>
          have htag : node.tag = .mapping := h
          have hopening : ∀ whole, opening whole name node known = known := by
            intro whole
            unfold opening
            cases whole <;> simp [htag, Tag.opening?]
          rw [decodeNode_shared, decodeNode_shared, hopening, hopening, ih htag]
      | enclosing name kind => cases h
      | scalar tag points =>
          obtain rfl : tag = .mapping := h
          rw [decodeNode, decodeNode]
          · rfl
          all_goals simp
      | sequence tag items =>
          obtain rfl : tag = .mapping := h
          rw [decodeNode, decodeNode]
          rfl
      | mapping tag entries =>
          obtain rfl : tag = .mapping := h
          rw [decodeNode, decodeNode]
          rfl

/-- With nothing around it a reference to a node around it has no value. -/
lemma decodeNode_of_refersBack {node : Node} (h : node.refersBack = true) (fuel : Nat)
    (whole : Bool) : decodeNode .uniqueKeys fuel whole node [] = .error .malformed := by
  induction fuel generalizing node with
  | zero => rfl
  | succ fuel ih =>
      cases node with
      | shared name node =>
          have hback : node.refersBack = true := h
          have hopening : opening whole name node [] = [] := by
            unfold opening
            cases whole <;> simp [tag_of_refersBack hback, Tag.opening?]
          rw [decodeNode_shared, hopening, ih hback]
          rfl
      | enclosing name kind => rw [decodeNode, known?_bind]; rfl
      | _ => cases h

variable {text : List Nat} {entries : List (Value × Value)}

/-- In a text whose whole is a mapping, no node is built from itself. -/
theorem not_builds_itself_of_decode {name : String} {node : Node} {kind : Kind}
    (h : decode text = .ok (.map entries)) (hbuilt : IsBuilt text (.shared name node)) :
    ¬ node.Builds (.enclosing name kind) := by
  obtain ⟨root, hroot, hbuilds⟩ := hbuilt
  obtain ⟨content, hfollows⟩ := follows_root hroot
  obtain ⟨after, hdecode⟩ := decodeNode_of_decodeWith h hroot
  have hgives := yields_root hroot (2 * (text.map Char.ofNat).length + 4)
  rw [hdecode] at hgives
  have htag : root.tag = .mapping := by
    rcases hgives.2 with hatom | ⟨hkind, hmap⟩ | hback
    · cases hashable_of_atom? hatom
    · obtain rfl := Option.some.inj hmap
      cases hroot : root.tag <;> simp [hroot, Tag.unhashable?] at hkind ⊢
    · rw [decodeNode_of_refersBack hback] at hdecode
      cases hdecode
  have hempty : Closed content [] [] :=
    ⟨fun _ hname => absurd hname List.not_mem_nil, fun _ _ hnone => by cases hnone⟩
  rw [decodeNode_of_mapping htag] at hdecode
  obtain ⟨-, -, hsettled⟩ :=
    settlesAll content _ [] root hfollows (avoids_nil root) [] hempty _ after hdecode
  exact (hsettled root (List.mem_singleton_self root)).isFree name node kind hbuilds

end FormEngine.Yaml
