import FormEngine.Proofs.Yaml.Parts

/-!
# Decoding and what is in order

A node is decoded exactly if nothing is wrong with what its value is built from.  `decodesAll` says
so of every node, for the decoding that refuses repeated keys: where it succeeds, the value is one
that the node gives and all that it is built from is in order, and where it fails, something that it
is built from is to blame.  For texts this is `not_breaks_of_decode` and `cause_of_decode`.

The difficulty is that a shared node is decoded only once.  `Remembers` is what holds of the values
that are remembered: each is given by the content of its name, and this content is in order, unless
it is open, which is to say that it is still being decoded.  An open content is never met again
below itself, since no node stands inside its own content.
-/

namespace FormEngine.Yaml

/-- The values of the shared nodes so far. -/
abbrev Known := List (String × Value)

variable {α β : Type} {inv : Known → Prop} {post : α → Prop} {post' : β → Prop}
  {blamed : Fault → Prop}

/-! ## Decoding that keeps an invariant -/

/-- A decoding keeps an invariant and yields such a result, or it ends with such a fault. -/
def Decode.Yields (inv : Known → Prop) (post : α → Prop) (blamed : Fault → Prop) (c : Decode α) :
    Prop :=
  ∀ known, inv known → match c known with
    | .ok (a, known') => inv known' ∧ post a
    | .error fault => blamed fault

namespace Decode

lemma yields_pure {a : α} (h : post a) : Yields inv post blamed (pure a) :=
  fun _ hinv => ⟨hinv, h⟩

lemma yields_fail {fault : Fault} (h : blamed fault) : Yields inv post blamed (.fail fault) :=
  fun _ _ => h

lemma yields_ofExcept {c : Except Fault α} (hok : ∀ a, c = .ok a → post a)
    (herror : ∀ fault, c = .error fault → blamed fault) :
    Yields inv post blamed (.ofExcept c) := by
  intro known hinv
  cases c with
  | error fault => exact herror fault rfl
  | ok a => exact ⟨hinv, hok a rfl⟩

lemma Yields.bind {c : Decode α} {f : α → Decode β} (hc : Yields inv post blamed c)
    (hf : ∀ a, post a → Yields inv post' blamed (f a)) : Yields inv post' blamed (c >>= f) := by
  intro known hinv
  have h := hc known hinv
  show match (c known >>= fun r => f r.1 r.2) with
    | .ok (b, known') => inv known' ∧ post' b
    | .error fault => blamed fault
  cases hrun : c known with
  | error fault =>
      rw [hrun] at h
      exact h
  | ok r =>
      rw [hrun] at h
      exact hf r.1 h.2 r.2 h.1

lemma Yields.imp {c : Decode α} {post'' : α → Prop} {blamed' : Fault → Prop}
    (h : Yields inv post blamed c) (hpost : ∀ a, post a → post'' a)
    (hblamed : ∀ fault, blamed fault → blamed' fault) : Yields inv post'' blamed' c := by
  intro known hinv
  have h := h known hinv
  cases hrun : c known with
  | error fault =>
      rw [hrun] at h
      exact hblamed fault h
  | ok r =>
      rw [hrun] at h
      exact ⟨h.1, hpost r.1 h.2⟩

/-- Item by item, in order. -/
lemma yields_mapM {items : List α} {f : α → Decode β} {each : α → β → Prop}
    (h : ∀ item ∈ items, Yields inv (each item) blamed (f item)) :
    Yields inv (List.Forall₂ each items) blamed (items.mapM f) := by
  induction items with
  | nil => exact yields_pure .nil
  | cons item items ih =>
      obtain ⟨hitem, hitems⟩ := List.forall_mem_cons.1 h
      rw [List.mapM_cons]
      refine hitem.bind fun b hb => (ih hitems).bind fun bs hbs => ?_
      exact yields_pure (.cons hb hbs)

/-- The same with what has been gathered so far, which does not matter. -/
lemma yields_foldlM {items : List α} {f : β → α → Decode β} {each : α → Prop}
    (h : ∀ item ∈ items, ∀ b, Yields inv (fun _ => each item) blamed (f b item)) (b : β) :
    Yields inv (fun _ => ∀ item ∈ items, each item) blamed (items.foldlM f b) := by
  induction items generalizing b with
  | nil => exact yields_pure (List.forall_mem_nil _)
  | cons item items ih =>
      obtain ⟨hitem, hitems⟩ := List.forall_mem_cons.1 h
      rw [List.foldlM_cons]
      refine (hitem b).bind fun b' hb' => ?_
      exact (ih hitems b').imp (fun _ hrest => List.forall_mem_cons.2 ⟨hb', hrest⟩) fun _ => id

end Decode

open Decode Node

/-! ## What is remembered -/

variable {content : String → Node}

/-- What is remembered under a name is a value that its content gives, and the content is in order
unless it is open. -/
def Remembers (content : String → Node) (opened : List String) (known : Known) : Prop :=
  ∀ name v, known.lookup name = some v →
    (content name).Gives v ∧ (name ∈ opened ∨ (content name).InOrder)

/-- The contents of the names that are shared inside a node are as given. -/
def Node.Follows (content : String → Node) (node : Node) : Prop :=
  ∀ name inner, node.Shares name inner → inner = content name

/-- No open name is shared inside a node. -/
def Node.Avoids (opened : List String) (node : Node) : Prop :=
  ∀ name ∈ opened, ∀ inner, ¬ node.Shares name inner

lemma Node.Follows.part {node part : Node} (h : node.Follows content) (hpart : part ∈ node.parts) :
    part.Follows content :=
  fun name inner hinner => h name inner (shares_of_part hpart hinner)

lemma Node.Avoids.part {node part : Node} {opened : List String} (h : node.Avoids opened)
    (hpart : part ∈ node.parts) : part.Avoids opened :=
  fun name hname inner hinner => h name hname inner (shares_of_part hpart hinner)

/-- A node does not share its own name inside itself, so that its name may be open there. -/
lemma Node.avoids_content {name : String} {node : Node} {opened : List String}
    (hfollows : (Node.shared name node).Follows content)
    (havoids : (Node.shared name node).Avoids opened) : node.Avoids (name :: opened) := by
  have hpart : node ∈ (Node.shared name node).parts := List.mem_singleton_self node
  have hcontent : content name = node.asKey := (hfollows name _ ⟨node, .here, rfl⟩).symm
  refine List.forall_mem_cons.2 ⟨fun inner hinner => ?_, havoids.part hpart⟩
  rw [hfollows.part hpart name inner hinner, hcontent] at hinner
  exact not_shares_self hinner

/-- What a node yields: a value that it gives, and all that it is built from is in order. -/
def Node.Yields (opened : List String) (content : String → Node) (node : Node) (c : Decode Value) :
    Prop :=
  Decode.Yields (Remembers content opened) (fun v => node.InOrder ∧ node.Gives v) node.Blamed c

/-- All nodes are decoded so with this fuel. -/
def DecodesAll (content : String → Node) (fuel : Nat) : Prop :=
  ∀ whole opened (node : Node), node.Follows content → node.Avoids opened →
    node.Yields opened content (decodeNode .uniqueKeys fuel whole node)

/-! ## Shared nodes -/

/-- What is remembered of a node before it is decoded: what stands for it if it is an open
collection, and nothing otherwise. -/
def opening (whole : Bool) (name : String) (node : Node) (known : Known) : Known :=
  match if whole then node.tag.opening? else none with
  | some v => (name, v) :: known
  | none => known

lemma known?_bind (name : String) (f : Option Value → Decode β) (known : Known) :
    (Decode.known? name >>= f) known = f (known.lookup name) known := rfl

lemma decodeNode_shared {loader : Loader} {fuel : Nat} {whole : Bool} {name : String}
    {node : Node} {known : Known} :
    decodeNode loader (fuel + 1) whole (.shared name node) known =
      match known.lookup name with
      | some v => .ok (v, known)
      | none =>
        match decodeNode loader fuel whole node (opening whole name node known) with
        | .ok (v, known') => .ok (v, (name, v) :: known')
        | .error fault => .error fault := by
  have hrun : ∀ known', (do
        let v ← decodeNode loader fuel whole node
        Decode.remember name v
        return v : Decode Value) known' =
      match decodeNode loader fuel whole node known' with
        | .ok (v, known'') => .ok (v, (name, v) :: known'')
        | .error fault => .error fault := by
    intro known'
    show (decodeNode loader fuel whole node known' >>= fun r =>
      (.ok (r.1, (name, r.1) :: r.2) : Except Fault (Value × Known))) = _
    cases decodeNode loader fuel whole node known' <;> rfl
  rw [decodeNode, known?_bind]
  cases known.lookup name with
  | some v => rfl
  | none =>
      unfold opening
      dsimp only
      cases hopening : (if whole = true then node.tag.opening? else none) with
      | none => exact hrun known
      | some v => exact hrun ((name, v) :: known)

lemma lookup_cons_known {name other : String} {v : Value} {known : Known} :
    List.lookup other ((name, v) :: known) =
      if other = name then some v else known.lookup other := by
  by_cases h : other = name
  · simp [h]
  · have hfalse : (other == name) = false := by simpa using h
    simp [List.lookup_cons, hfalse, h]

lemma unhashable?_opening {tag : Tag} {v : Value} (h : tag.opening? = some v) :
    ∃ kind, tag.unhashable? = some kind ∧ v.unhashable? = some kind := by
  cases tag <;> simp only [Tag.opening?, Option.some.injEq, reduceCtorEq] at h <;> subst h <;>
    exact ⟨_, rfl, rfl⟩

section

variable {name : String} {node : Node} {opened : List String} {known : Known}

/-- A node may be opened when the decoding of its content begins. -/
lemma Remembers.opening (h : Remembers content opened known) (whole : Bool)
    (hcontent : content name = node.asKey) :
    Remembers content (name :: opened) (opening whole name node known) := by
  have hkept : Remembers content (name :: opened) known := by
    intro other v hother
    obtain ⟨hgives, hopen | horder⟩ := h other v hother
    · exact ⟨hgives, .inl (List.mem_cons_of_mem _ hopen)⟩
    · exact ⟨hgives, .inr horder⟩
  unfold Yaml.opening
  split
  next v hv =>
    have hopening : node.tag.opening? = some v := by
      cases whole <;> simp at hv
      exact hv
    obtain ⟨kind, htag, hkind⟩ := unhashable?_opening hopening
    intro other w hother
    rw [lookup_cons_known] at hother
    split_ifs at hother with hsame
    · obtain rfl := Option.some.inj hother
      rw [hsame, hcontent]
      exact ⟨gives_asKey.2 (.collection htag hkind), .inl List.mem_cons_self⟩
    · exact hkept other w hother
  next => exact hkept

/-- When the content of a name has been decoded it is not open any more. -/
lemma Remembers.remember {v : Value} (h : Remembers content (name :: opened) known)
    (hcontent : content name = node.asKey) (hgives : node.Gives v) (horder : node.InOrder) :
    Remembers content opened ((name, v) :: known) := by
  intro other w hother
  rw [lookup_cons_known] at hother
  split_ifs at hother with hsame
  · obtain rfl := Option.some.inj hother
    rw [hsame, hcontent]
    exact ⟨gives_asKey.2 hgives, .inr (inOrder_asKey.2 horder)⟩
  · obtain ⟨hgiven, hopen | hordered⟩ := h other w hother
    · rcases List.mem_cons.1 hopen with rfl | hopen
      · exact absurd rfl hsame
      · exact ⟨hgiven, .inl hopen⟩
    · exact ⟨hgiven, .inr hordered⟩

end

/-- A shared node yields what its content does, whether it is remembered or not. -/
lemma yields_shared {fuel : Nat} {whole : Bool} {opened : List String} {name : String}
    {node : Node} (ih : DecodesAll content fuel)
    (hfollows : (Node.shared name node).Follows content)
    (havoids : (Node.shared name node).Avoids opened) :
    (Node.shared name node).Yields opened content
      (decodeNode .uniqueKeys (fuel + 1) whole (.shared name node)) := by
  have hself : (Node.shared name node).Shares name node.asKey := ⟨node, .here, rfl⟩
  have hcontent : content name = node.asKey := (hfollows name _ hself).symm
  have hpart : node ∈ (Node.shared name node).parts := List.mem_singleton_self node
  have hclosed : name ∉ opened := fun hname => havoids name hname _ hself
  have hbelow := avoids_content hfollows havoids
  intro known hinv
  rw [decodeNode_shared]
  cases hknown : known.lookup name with
  | some v =>
      obtain ⟨hgives, hopen | horder⟩ := hinv name v hknown
      · exact absurd hopen hclosed
      · rw [hcontent] at hgives horder
        exact ⟨hinv, inOrder_shared.2 (inOrder_asKey.1 horder),
          gives_shared.2 (gives_asKey.1 hgives)⟩
  | none =>
      have hrun := ih whole (name :: opened) node (hfollows.part hpart) hbelow _
        (hinv.opening whole hcontent)
      dsimp only
      cases hdecode :
          decodeNode .uniqueKeys fuel whole node (opening whole name node known) with
      | error fault =>
          rw [hdecode] at hrun
          exact Blamed.of_part hpart hrun
      | ok r =>
          rw [hdecode] at hrun
          obtain ⟨hinv', horder, hgives⟩ := hrun
          exact ⟨hinv'.remember hcontent hgives horder, inOrder_shared.2 horder,
            gives_shared.2 hgives⟩

/-! ## Nodes that are not shared -/

section

variable {fuel : Nat} {whole : Bool} {opened : List String}

lemma yields_enclosing {name : String} {kind : Kind} :
    (Node.enclosing name kind).Yields opened content
      (decodeNode .uniqueKeys (fuel + 1) whole (.enclosing name kind)) := by
  have horder : (Node.enclosing name kind).InOrder := by
    refine inOrder_iff.2 ⟨fun fault hbreaks => ?_, fun part hpart => by cases hpart⟩
    cases hbreaks with
    | scalar hpoints => cases hpoints
    | moment htag => cases htag
  intro known hinv
  rw [decodeNode, known?_bind]
  cases known.lookup name with
  | some v => exact ⟨hinv, horder, .reference rfl⟩
  | none => exact .inl rfl

/-- A node whose text is wanted yields the value of the text. -/
lemma yields_text {node : Node} (htag : node.tag.unhashable? = none) (hparts : node.parts = []) :
    node.Yields opened content (match node.scalarText with
      | some points =>
        if node.tag = .moment ∧ node.kind = .mapping then .fail .entriesForMoment
        else .ofExcept (scalarValue node.tag points)
      | none => .fail .malformed) := by
  cases hpoints : node.scalarText with
  | none => exact yields_fail (.inl rfl)
  | some points =>
      dsimp only
      split
      next hmoment => exact yields_fail (Blamed.of_breaks (.moment hmoment.1 hmoment.2))
      next hmoment =>
        refine yields_ofExcept (fun v hv => ⟨inOrder_iff.2 ⟨?_, ?_⟩, ?_⟩) fun fault hfault => ?_
        · intro fault hbreaks
          cases hbreaks with
          | scalar hothers hvalue hfault =>
              obtain rfl := Option.some.inj (hpoints.symm.trans hothers)
              rw [hv] at hvalue
              cases hvalue
          | moment hmomentTag hkind => exact hmoment ⟨hmomentTag, hkind⟩
          | _ => cases htag
        · rw [hparts]
          exact List.forall_mem_nil _
        · have hkey : node.tag.asKey = node.tag := by
            cases h : node.tag with
            | defaultValue =>
                rw [h] at hv
                cases hv
            | _ => rfl
          refine .atom ?_
          rw [atom?, hpoints, Option.bind_some, hkey, hv]
          rfl
        · by_cases hmalformed : fault = .malformed
          · exact .inl hmalformed
          · exact Blamed.of_breaks (.scalar hpoints hfault hmalformed)

/-- A part of a node yields what it is, and the node is to blame for its parts. -/
lemma yields_part {node part : Node} (ih : DecodesAll content fuel) (whole : Bool)
    (hfollows : node.Follows content) (havoids : node.Avoids opened) (hpart : part ∈ node.parts) :
    Decode.Yields (Remembers content opened) (fun v => part.InOrder ∧ part.Gives v) node.Blamed
      (decodeNode .uniqueKeys fuel whole part) :=
  (ih whole opened part (hfollows.part hpart) (havoids.part hpart)).imp (fun _ => id)
    fun _ => Blamed.of_part hpart

lemma yields_sequence {items : List Node} (ih : DecodesAll content fuel)
    (hfollows : (Node.sequence .sequence items).Follows content)
    (havoids : (Node.sequence .sequence items).Avoids opened) :
    (Node.sequence .sequence items).Yields opened content (do
      return .list (← items.mapM (decodeNode .uniqueKeys fuel whole))) := by
  have hitems := yields_mapM fun item hitem => yields_part ih whole hfollows havoids hitem
  refine hitems.bind fun vs hvs => yields_pure ⟨inOrder_iff.2 ⟨?_, ?_⟩, .collection rfl rfl⟩
  · exact fun fault => not_breaks_sequence fun htag => by cases htag
  · exact ((List.forall₂_and_left _ _).1 hvs).1

/-- The items of a sequence of pairs. -/
lemma yields_pairs {tag : Tag} {items : List Node} (ih : DecodesAll content fuel)
    (htag : tag = .pairs ∨ tag = .orderedMapping)
    (hfollows : (Node.sequence tag items).Follows content)
    (havoids : (Node.sequence tag items).Avoids opened) :
    (Node.sequence tag items).Yields opened content (do
      return .list (← items.mapM fun item => do
        let entry ← .ofExcept (onlyEntry item)
        let key ← decodeNode .uniqueKeys fuel whole entry.1
        return .tuple [key, ← decodeNode .uniqueKeys fuel whole entry.2])) := by
  have hitem : ∀ item ∈ items, Decode.Yields (Remembers content opened)
      (fun _ : Value => (∀ e, onlyEntry item = .ok e → e.1.InOrder ∧ e.2.InOrder) ∧ True)
      (Node.sequence tag items).Blamed (do
        let entry ← .ofExcept (onlyEntry item)
        let key ← decodeNode .uniqueKeys fuel whole entry.1
        return .tuple [key, ← decodeNode .uniqueKeys fuel whole entry.2]) := by
    intro item hitem
    have hentry : Decode.Yields (Remembers content opened) (fun e => onlyEntry item = .ok e)
        (Node.sequence tag items).Blamed (.ofExcept (onlyEntry item)) := by
      refine yields_ofExcept (fun _ => id) fun fault hfault => .inl ?_
      rcases onlyEntry_cases item with ⟨e, he, -⟩ | he <;> rw [he] at hfault
      · cases hfault
      · exact (Except.error.inj hfault).symm
    refine hentry.bind fun e he => ?_
    obtain ⟨hkey, hvalue⟩ := mem_parts_of_onlyEntry htag hitem he
    refine (yields_part ih whole hfollows havoids hkey).bind fun k hk => ?_
    refine (yields_part ih whole hfollows havoids hvalue).bind fun v hv => ?_
    refine yields_pure ⟨fun other hother => ?_, trivial⟩
    obtain rfl := Except.ok.inj (he.symm.trans hother)
    exact ⟨hk.1, hv.1⟩
  refine (yields_mapM hitem).bind fun vs hvs => yields_pure ⟨inOrder_iff.2 ⟨?_, ?_⟩, ?_⟩
  · refine fun fault => not_breaks_sequence fun hmapping => ?_
    simp [hmapping] at htag
  · have horder := ((List.forall₂_and_left _ _).1 hvs).1
    rw [parts_of_pairs htag]
    intro part hpart
    obtain ⟨item, hitem, hentry⟩ := List.mem_flatMap.1 hpart
    rcases onlyEntry_cases item with ⟨e, he, -⟩ | he
    · have hcases : part = e.1 ∨ part = e.2 := by simpa [he, Except.toOption] using hentry
      obtain ⟨hkey, hvalue⟩ := horder item hitem e he
      rcases hcases with rfl | rfl
      · exact hkey
      · exact hvalue
    · simp [he, Except.toOption] at hentry
  · rcases htag with rfl | rfl <;> exact .collection rfl rfl

/-- The entries of a mapping with its merges carried out have keys and values among its parts. -/
lemma yields_openEntries {isOpen : Bool} {tag : Tag} {entries : Entries}
    (htag : tag = .mapping ∨ tag = .set) :
    Decode.Yields (Remembers content opened) (fun es => spliced entries = .ok es ∧
      (isOpen = true ∨ mergesBack entries = false) ∧
      ∀ e ∈ es, e.1 ∈ (Node.mapping tag entries).parts ∧ e.2 ∈ (Node.mapping tag entries).parts)
      (Node.mapping tag entries).Blamed (.ofExcept (openEntries isOpen entries)) := by
  rcases openEntries_cases isOpen entries with ⟨-, -, heq⟩ | ⟨hback, heq⟩ <;> rw [heq]
  · exact yields_fail (.inl rfl)
  · exact yields_ofExcept (fun es hes => ⟨hes, hback, fun e he => mem_parts_of_spliced htag hes he⟩)
      fun fault hfault => .inl (spliced_fault hfault)

lemma yields_set {entries : Entries} (ih : DecodesAll content fuel)
    (hfollows : (Node.mapping .set entries).Follows content)
    (havoids : (Node.mapping .set entries).Avoids opened) :
    (Node.mapping .set entries).Yields opened content (do
      let entries ← .ofExcept (openEntries whole entries)
      let members ← entries.foldlM (fun members e => do
        let members ← .ofExcept (addMember members (← decodeNode .uniqueKeys fuel whole e.1))
        let _ ← decodeNode .uniqueKeys fuel whole e.2
        return members) []
      return .set members) := by
  have hmember : ∀ members member, Decode.Yields (Remembers content opened) (fun _ => True)
      (Node.mapping .set entries).Blamed (.ofExcept (addMember members member)) := by
    intro members member
    refine yields_ofExcept (fun _ _ => trivial) fun fault hfault => .inl ?_
    unfold addMember at hfault
    split at hfault
    · exact (Except.error.inj hfault).symm
    · cases hfault
  refine (yields_openEntries (.inr rfl)).bind fun es ⟨hspliced, _, hmem⟩ => ?_
  have hentry : ∀ e ∈ es, ∀ members, Decode.Yields (Remembers content opened)
      (fun _ : List Value => e.1.InOrder ∧ e.2.InOrder) (Node.mapping .set entries).Blamed (do
        let members ← .ofExcept (addMember members (← decodeNode .uniqueKeys fuel whole e.1))
        let _ ← decodeNode .uniqueKeys fuel whole e.2
        return members) := by
    intro e he members
    obtain ⟨hkey, hvalue⟩ := hmem e he
    refine (yields_part ih whole hfollows havoids hkey).bind fun k hk => ?_
    refine (hmember members k).bind fun members' _ => ?_
    refine (yields_part ih whole hfollows havoids hvalue).bind fun v hv => ?_
    exact yields_pure ⟨hk.1, hv.1⟩
  refine (yields_foldlM hentry []).bind fun members horder =>
    yields_pure ⟨inOrder_iff.2 ⟨?_, ?_⟩, .collection rfl rfl⟩
  · intro fault hbreaks
    cases hbreaks with
    | scalar hpoints hvalue hfault => exact hfault (Except.error.inj hvalue).symm
    | moment htag => cases htag
  · rw [parts_of_spliced (.inr rfl) hspliced]
    intro part hpart
    obtain ⟨e, he, rfl | rfl⟩ := mem_keysAndValues.1 hpart
    · exact (horder e he).1
    · exact (horder e he).2

lemma yields_mapping {entries : Entries} (ih : DecodesAll content fuel)
    (hfollows : (Node.mapping .mapping entries).Follows content)
    (havoids : (Node.mapping .mapping entries).Avoids opened) :
    (Node.mapping .mapping entries).Yields opened content (do
      let entries ← .ofExcept (openEntries false entries)
      let decoded ← entries.mapM fun e => do
        return (← decodeNode .uniqueKeys fuel false e.1,
          ← decodeNode .uniqueKeys fuel false e.2)
      .ofExcept (refuseDuplicates decoded)) := by
  refine (yields_openEntries (.inl rfl)).bind fun es ⟨hspliced, hback, hmem⟩ => ?_
  obtain hback : mergesBack entries = false := hback.resolve_left Bool.false_ne_true
  have hentry : ∀ e ∈ es, Decode.Yields (Remembers content opened)
      (fun d : Value × Value => (e.1.InOrder ∧ e.2.InOrder) ∧ e.1.Gives d.1)
      (Node.mapping .mapping entries).Blamed (do
        return (← decodeNode .uniqueKeys fuel false e.1,
          ← decodeNode .uniqueKeys fuel false e.2)) := by
    intro e he
    obtain ⟨hkey, hvalue⟩ := hmem e he
    refine (yields_part ih false hfollows havoids hkey).bind fun k hk => ?_
    refine (yields_part ih false hfollows havoids hvalue).bind fun v hv => ?_
    exact yields_pure ⟨⟨hk.1, hv.1⟩, hk.2⟩
  refine (yields_mapM hentry).bind fun decoded hdecoded => ?_
  obtain ⟨horder, hgives⟩ := (List.forall₂_and_left _ _).1 hdecoded
  cases hfirst : firstFault? [] decoded with
  | some fault =>
      have hrefused : refuseDuplicates decoded = .error fault := by simp [refuseDuplicates, hfirst]
      rw [hrefused]
      exact yields_fail (blamed_of_firstFault? hspliced hgives hfirst)
  | none =>
      have hclosed : refuseDuplicates decoded = .ok (.map decoded) := by
        simp [refuseDuplicates, hfirst]
      rw [hclosed]
      refine yields_pure ⟨inOrder_iff.2 ⟨?_, ?_⟩, .collection rfl rfl⟩
      · exact not_breaks_of_firstFault? hback hspliced hgives hfirst
      · rw [parts_of_spliced (.inl rfl) hspliced]
        intro part hpart
        obtain ⟨e, he, rfl | rfl⟩ := mem_keysAndValues.1 hpart
        · exact (horder e he).1
        · exact (horder e he).2

/-- What stands for a mapping without entries is in order. -/
lemma inOrder_noEntries {node : Node} (hparts : node.parts = [])
    (hnode : node = .scalar .mapping [] ∨ node = .sequence .mapping []) : node.InOrder := by
  refine inOrder_iff.2 ⟨fun fault hbreaks => ?_, by simp [hparts]⟩
  rcases hnode with rfl | rfl
  · cases hbreaks with
    | scalar _ hvalue hfault => exact hfault (Except.error.inj hvalue).symm
    | moment htag => cases htag
  · exact not_breaks_sequence (fun _ => rfl) hbreaks

end

/-! ## All nodes -/

/-- Whatever a node is like, and whatever is remembered of nodes before it. -/
theorem decodesAll (content : String → Node) (fuel : Nat) : DecodesAll content fuel := by
  induction fuel with
  | zero =>
      intro whole opened node _ _
      exact yields_fail (.inl rfl)
  | succ fuel ih =>
      intro whole opened node hfollows havoids
      cases node with
      | shared name node => exact yields_shared ih hfollows havoids
      | enclosing name kind => exact yields_enclosing
      | scalar tag points =>
          rw [decodeNode]
          · cases tag with
            | mapping =>
                cases points with
                | cons point points => exact yields_fail (Blamed.of_breaks .text)
                | nil => exact yields_pure ⟨inOrder_noEntries rfl (.inl rfl), .collection rfl rfl⟩
            | sequence => exact yields_fail (.inl rfl)
            | set => exact yields_fail (.inl rfl)
            | pairs => exact yields_fail (.inl rfl)
            | orderedMapping => exact yields_fail (.inl rfl)
            | _ => exact yields_text rfl rfl
          all_goals simp
      | sequence tag items =>
          rw [decodeNode]
          cases tag with
          | sequence => exact yields_sequence ih hfollows havoids
          | mapping =>
              cases items with
              | cons item items => exact yields_fail (Blamed.of_breaks .sequence)
              | nil => exact yields_pure ⟨inOrder_noEntries rfl (.inr rfl), .collection rfl rfl⟩
          | set => exact yields_fail (.inl rfl)
          | pairs => exact yields_pairs ih (.inl rfl) hfollows havoids
          | orderedMapping => exact yields_pairs ih (.inr rfl) hfollows havoids
          | _ => exact yields_text rfl rfl
      | mapping tag entries =>
          rw [decodeNode]
          cases tag with
          | sequence => exact yields_fail (.inl rfl)
          | mapping =>
              -- the parts of a mapping are never open here, whatever is around it
              cases whole with
              | true => exact yields_mapping ih hfollows havoids
              | false => exact yields_mapping ih hfollows havoids
          | set => exact yields_set ih hfollows havoids
          | pairs => exact yields_fail (.inl rfl)
          | orderedMapping => exact yields_fail (.inl rfl)
          | _ => exact yields_text rfl rfl

/-! ## Documents -/

/-- A node has a value of its own in what the document of a text is decoded to. -/
def IsBuilt (text : List Nat) (node : Node) : Prop :=
  ∃ root, Node.ofText? (text.map Char.ofNat) = .ok (some root) ∧ root.Builds node

/-- The contents of the names shared in the node of a document. -/
lemma follows_root {text : List Char} {root : Node} (hroot : Node.ofText? text = .ok (some root)) :
    ∃ content, root.Follows content := by
  obtain ⟨shared, hshared⟩ := Node.sharesOnce_of_ofText? hroot
  refine ⟨fun name => (shared name).asKey, ?_⟩
  rintro name _ ⟨node, hinside, rfl⟩
  exact congrArg Node.asKey (hshared name node hinside)

/-- At first nothing is open. -/
lemma avoids_nil (node : Node) : node.Avoids [] := fun _ hname => absurd hname List.not_mem_nil

/-- The node of a document is decoded like any node, with nothing remembered and nothing around
it. -/
lemma yields_root {text : List Char} {root : Node} (hroot : Node.ofText? text = .ok (some root))
    (fuel : Nat) : match decodeNode .uniqueKeys fuel true root [] with
      | .ok (v, _) => root.InOrder ∧ root.Gives v
      | .error fault => root.Blamed fault := by
  obtain ⟨content, hfollows⟩ := follows_root hroot
  have hempty : Remembers content [] [] := fun name v hnone => by cases hnone
  have hyields := decodesAll content fuel true [] root hfollows (avoids_nil root) [] hempty
  cases hdecode : decodeNode .uniqueKeys fuel true root [] with
  | error fault =>
      rw [hdecode] at hyields
      exact hyields
  | ok r =>
      rw [hdecode] at hyields
      exact hyields.2

section

variable {text : List Nat}

/-- What is decoded for a text, step by step. -/
lemma decodeWith_eq (loader : Loader) (text : List Nat) : decodeWith loader text =
    if text.all isPrintablePoint then
      match Node.ofText? (text.map Char.ofNat) with
      | .ok none => .ok .null
      | .ok (some root) =>
        (decodeNode loader (2 * (text.map Char.ofNat).length + 4) true root []).map Prod.fst
      | .error fault => .error fault
    else .error .malformed := by
  unfold decodeWith
  cases text.all isPrintablePoint with
  | false => rfl
  | true =>
      rw [if_pos rfl]
      show (Node.ofText? (text.map Char.ofNat) >>= _) = _
      cases Node.ofText? (text.map Char.ofNat) with
      | error fault => rfl
      | ok root? =>
          cases root? with
          | none => rfl
          | some root =>
              show (decodeNode loader _ true root [] >>= fun r => pure r.1) = Except.map Prod.fst _
              cases decodeNode loader _ true root [] <;> rfl

/-- A text has no node, or the node of its document is decoded, however mappings are built. -/
lemma decodeWith_cases (text : List Nat) :
    (∃ fault, (fault = .malformed ∨ Node.ofText? (text.map Char.ofNat) = .error fault) ∧
      ∀ loader, decodeWith loader text = .error fault) ∨
    (Node.ofText? (text.map Char.ofNat) = .ok none ∧ ∀ loader, decodeWith loader text = .ok .null) ∨
    ∃ root, Node.ofText? (text.map Char.ofNat) = .ok (some root) ∧ ∀ loader,
      decodeWith loader text =
        (decodeNode loader (2 * (text.map Char.ofNat).length + 4) true root []).map Prod.fst := by
  simp only [decodeWith_eq]
  cases text.all isPrintablePoint with
  | false => exact .inl ⟨.malformed, .inl rfl, fun _ => rfl⟩
  | true =>
      cases Node.ofText? (text.map Char.ofNat) with
      | error fault => exact .inl ⟨fault, .inr rfl, fun _ => rfl⟩
      | ok root? =>
          cases root? with
          | none => exact .inr (.inl ⟨rfl, fun _ => rfl⟩)
          | some root => exact .inr (.inr ⟨root, rfl, fun _ => rfl⟩)

/-- Where a text with a node has a value, it is that of the node. -/
lemma decodeNode_of_decodeWith {loader : Loader} {v : Value} {root : Node}
    (h : decodeWith loader text = .ok v)
    (hroot : Node.ofText? (text.map Char.ofNat) = .ok (some root)) :
    ∃ after, decodeNode loader (2 * (text.map Char.ofNat).length + 4) true root [] =
      .ok (v, after) := by
  rcases decodeWith_cases text with ⟨_, -, herror⟩ | ⟨hnone, -⟩ | ⟨_, hother, hnode⟩
  · cases h.symm.trans (herror _)
  · cases hroot.symm.trans hnone
  · obtain rfl := Option.some.inj (Except.ok.inj (hroot.symm.trans hother))
    rw [hnode] at h
    cases hdecode : decodeNode loader (2 * (text.map Char.ofNat).length + 4) true root [] with
    | error other =>
        rw [hdecode] at h
        cases h
    | ok r =>
        rw [hdecode] at h
        obtain rfl := Except.ok.inj h
        exact ⟨r.2, rfl⟩

/-- A text that has a value is in order throughout. -/
theorem not_breaks_of_decode {v : Value} {node : Node} {fault : Fault} (h : decode text = .ok v)
    (hbuilt : IsBuilt text node) : ¬ node.Breaks fault := by
  obtain ⟨root, hroot, hbuilds⟩ := hbuilt
  have hyields := yields_root hroot (2 * (text.map Char.ofNat).length + 4)
  obtain ⟨after, hdecode⟩ := decodeNode_of_decodeWith h hroot
  rw [hdecode] at hyields
  exact hyields.1 node hbuilds fault

/-- The fault of a text without a value is that of a token or of a node, or the text is malformed.
The exception is a mapping that has a node around it as key. -/
theorem cause_of_decode {fault : Fault} (h : decode text = .error fault) :
    fault = .malformed ∨ tokensOf (text.map Char.ofNat) = .error fault ∨
      ∃ node, IsBuilt text node ∧
        (node.Breaks fault ∨ node.HasCircularKey ∧ Node.OfKeys fault) := by
  rcases decodeWith_cases text with ⟨_, hcause, herror⟩ | ⟨-, hnull⟩ | ⟨root, hroot, hnode⟩
  · obtain rfl := Except.error.inj (h.symm.trans (herror _))
    rcases hcause with hmalformed | hroot
    · exact .inl hmalformed
    · exact (Node.fault_of_ofText? hroot).symm.imp id .inl
  · cases h.symm.trans (hnull _)
  · have hyields := yields_root hroot (2 * (text.map Char.ofNat).length + 4)
    rw [decode, hnode] at h
    cases hdecode :
        decodeNode .uniqueKeys (2 * (text.map Char.ofNat).length + 4) true root [] with
    | ok r =>
        rw [hdecode] at h
        cases h
    | error other =>
        rw [hdecode] at h hyields
        obtain rfl := Except.error.inj h
        rcases hyields with hmalformed | ⟨node, hbuilds, hcause⟩
        · exact .inl hmalformed
        · exact .inr (.inr ⟨node, ⟨root, hroot, hbuilds⟩, hcause⟩)

end

end FormEngine.Yaml
