import FormEngine.Proofs.Form.Reporting
import FormEngine.Proofs.Yaml.Circles

/-!
# Repeated keys and merged entries

Documents may be decoded so that a later entry wins over an earlier one with the same key, or so
that such entries are refused.  Merge keys make the difference between the two matter beyond
mistakes: an entry that overrides a merged one is meant to win.

Decoding that refuses is no less strict about it.  Wherever it does not give the same value as
decoding that lets later entries win, some mapping has a key twice once its merges are carried out,
and this is what is told (`decode_of_lastWins_decode`).  A key that is written twice is among these
cases, and so are an entry that overrides a merged one and two merged mappings with a common key.

There is one more difference, which has nothing to do with keys.  Decoding that lets later entries
win has a mapping before what is inside it, and so builds nodes that refer to a node around them;
decoding that refuses does not, and takes such a text for malformed.
-/

namespace FormEngine.Yaml

variable {α β : Type}

/-! ## Letting a later entry win, and refusing it -/

/-- An entry with a new key is put at the end. -/
lemma putEntry_of_new {entry : Value × Value} {entries : List (Value × Value)}
    (h : ∀ e ∈ entries, sameKey entry.1 e.1 = false) :
    putEntry entry entries = entries ++ [entry] := by
  induction entries with
  | nil => rfl
  | cons e entries ih =>
      obtain ⟨hfirst, hrest⟩ := List.forall_mem_cons.1 h
      simp [putEntry, hfirst, ih hrest]

/-- Entries with distinct keys are put as they stand. -/
lemma foldl_putEntry {entries before : List (Value × Value)}
    (hnew : ∀ e ∈ entries, ∀ b ∈ before, sameKey e.1 b.1 = false)
    (hdistinct : entries.Pairwise fun e f => sameKey f.1 e.1 = false) :
    entries.foldl (fun acc e => putEntry e acc) before = before ++ entries := by
  induction entries generalizing before with
  | nil => simp
  | cons e entries ih =>
      obtain ⟨hlater, hdistinct⟩ := List.pairwise_cons.1 hdistinct
      obtain ⟨hfirst, hrest⟩ := List.forall_mem_cons.1 hnew
      have hnew' : ∀ f ∈ entries, ∀ b ∈ before ++ [e], sameKey f.1 b.1 = false := by
        intro f hf b hb
        rcases List.mem_append.1 hb with hb | hb
        · exact hrest f hf b hb
        · rw [List.mem_singleton.1 hb]
          exact hlater f hf
      rw [List.foldl_cons, putEntry_of_new hfirst, ih hnew' hdistinct, List.append_assoc]
      rfl

/-- Where later entries win without a fault, refusing them gives the same mapping or finds a
repeated key. -/
lemma refuseDuplicates_of_keepLast {entries : List (Value × Value)} {v : Value}
    (h : keepLast entries = .ok v) : refuseDuplicates entries = .ok v ∨
      ∃ key, refuseDuplicates entries = .error (repetition key) := by
  unfold keepLast at h
  cases hall : entries.all fun e => e.1.unhashable?.isNone with
  | false =>
      rw [hall] at h
      cases h
  | true =>
      rw [hall] at h
      obtain rfl : .map (entries.foldl (fun acc e => putEntry e acc) []) = v := Except.ok.inj h
      have hhashable : ∀ e ∈ entries, e.1.unhashable? = none := by
        intro e he
        simpa using List.all_eq_true.1 hall e he
      unfold refuseDuplicates
      cases hfirst : firstFault? [] entries with
      | none =>
          obtain ⟨-, -, hdistinct⟩ := distinct_of_firstFault? hfirst
          have hput := @foldl_putEntry entries [] (by simp) hdistinct
          rw [hput]
          exact .inl rfl
      | some fault =>
          obtain ⟨before, e, after, rfl, -, hcause⟩ := cause_of_firstFault? hfirst
          rcases hcause with ⟨kind, hkind, -⟩ | ⟨-, rfl, -⟩
          · have he : e ∈ before ++ e :: after := List.mem_append_right _ List.mem_cons_self
            rw [hhashable e he] at hkind
            cases hkind
          · exact .inr ⟨e.1, rfl⟩

/-! ## Two loaders side by side -/

/-- What is remembered on two sides is the same, but that the second may know nothing of a node that
is open. -/
def Agree (opened : List String) (known known' : Known) : Prop :=
  ∀ name, known'.lookup name = known.lookup name ∨ name ∈ opened ∧ known'.lookup name = none

/-- Where one decoding succeeds, another one gives the same, or finds a repeated key, or meets a
node that turns back. -/
def Decode.Refines (opened : List String) (turns : Prop) (c d : Decode α) : Prop :=
  ∀ known known', Agree opened known known' → ∀ a after, c known = .ok (a, after) →
    (∃ after', d known' = .ok (a, after') ∧ Agree opened after after') ∨
    (∃ key, d known' = .error (repetition key)) ∨ d known' = .error .malformed ∧ turns

section

variable {opened : List String} {known known' : Known} {name : String} {v : Value}
  {content : String → Node} {turns turns' : Prop}

lemma Agree.refl (opened : List String) (known : Known) : Agree opened known known :=
  fun _ => .inl rfl

/-- A value that is remembered on both sides may be open on one of them until then. -/
lemma Agree.remember (h : Agree (name :: opened) known known') :
    Agree opened ((name, v) :: known) ((name, v) :: known') := by
  intro other
  simp only [lookup_cons_known]
  split_ifs with hsame
  · exact .inl rfl
  · rcases h other with heq | ⟨hopen, hnone⟩
    · exact .inl heq
    · exact .inr ⟨(List.mem_cons.1 hopen).resolve_left hsame, hnone⟩

/-- A node may be opened on one side only. -/
lemma Agree.opening (h : Agree opened known known') (whole : Bool) (node : Node)
    (hnone : known'.lookup name = none) :
    Agree (name :: opened) (opening true name node known) (opening whole name node known') := by
  have hkept : Agree (name :: opened) known known' := fun other =>
    (h other).imp_right fun ⟨hopen, hother⟩ => ⟨List.mem_cons_of_mem _ hopen, hother⟩
  unfold Yaml.opening
  cases hopening : node.tag.opening? with
  | none => cases whole <;> exact hkept
  | some opening =>
      intro other
      cases whole with
      | true =>
          simp only [if_true, lookup_cons_known]
          split_ifs
          · exact .inl rfl
          · exact hkept other
      | false =>
          simp only [if_true, Bool.false_eq_true, if_false, lookup_cons_known]
          split_ifs with hsame
          · exact .inr ⟨hsame ▸ List.mem_cons_self, hsame ▸ hnone⟩
          · exact hkept other

namespace Decode

/-- What does not depend on what is remembered is the same on both sides. -/
lemma refines_pure (a : α) : Refines opened turns (pure a) (pure a) := by
  rintro known known' hagree _ _ ⟨⟩
  exact .inl ⟨known', rfl, hagree⟩

lemma refines_of_fails {c d : Decode α} (h : ∀ known, ∃ fault, c known = .error fault) :
    Refines opened turns c d := by
  intro known known' _ a after hc
  obtain ⟨fault, herror⟩ := h known
  cases herror.symm.trans hc

lemma refines_ofExcept (c : Except Fault α) :
    Refines opened turns (.ofExcept c) (.ofExcept c) := by
  cases c with
  | error fault => exact refines_of_fails fun _ => ⟨fault, rfl⟩
  | ok a => exact refines_pure a

lemma ofExcept_ok_bind (a : α) (f : α → Decode β) : (.ofExcept (.ok a) >>= f) = f a := rfl

lemma Refines.imp {c d : Decode α} (h : Refines opened turns c d) (himp : turns → turns') :
    Refines opened turns' c d := fun known known' hagree a after hc =>
  (h known known' hagree a after hc).imp_right fun hfails =>
    hfails.imp_right fun ⟨herror, hturns⟩ => ⟨herror, himp hturns⟩

lemma Refines.bind {c d : Decode α} {f g : α → Decode β} (hcd : Refines opened turns c d)
    (hfg : ∀ a, Refines opened turns (f a) (g a)) :
    Refines opened turns (c >>= f) (d >>= g) := by
  intro known known' hagree b last h
  have hopen : ∀ (e : Decode α) (k : α → Decode β) (s : Known),
      (e >>= k) s = (e s >>= fun r => k r.1 r.2) := fun e k s => rfl
  rw [hopen] at h ⊢
  cases hc : c known with
  | error fault =>
      rw [hc] at h
      cases h
  | ok r =>
      rw [hc] at h
      rcases hcd known known' hagree r.1 r.2 hc with ⟨after', hd, hafter⟩ | ⟨key, hd⟩ | ⟨hd, hturns⟩
        <;> rw [hd]
      · exact hfg r.1 r.2 after' hafter b last h
      · exact .inr (.inl ⟨key, rfl⟩)
      · exact .inr (.inr ⟨rfl, hturns⟩)

lemma Refines.mapM {f g : α → Decode β} {items : List α}
    (h : ∀ item ∈ items, Refines opened turns (f item) (g item)) :
    Refines opened turns (items.mapM f) (items.mapM g) := by
  induction items with
  | nil => exact refines_pure []
  | cons item items ih =>
      obtain ⟨hitem, hitems⟩ := List.forall_mem_cons.1 h
      rw [List.mapM_cons, List.mapM_cons]
      exact hitem.bind fun b => (ih hitems).bind fun bs => refines_pure _

lemma Refines.foldlM {f g : β → α → Decode β} {items : List α}
    (h : ∀ item ∈ items, ∀ b, Refines opened turns (f b item) (g b item)) (b : β) :
    Refines opened turns (items.foldlM f b) (items.foldlM g b) := by
  induction items generalizing b with
  | nil => exact refines_pure b
  | cons item items ih =>
      obtain ⟨hitem, hitems⟩ := List.forall_mem_cons.1 h
      rw [List.foldlM_cons, List.foldlM_cons]
      exact (hitem b).bind fun b' => ih hitems b'

/-- The entries of a mapping are closed in the two ways. -/
lemma refines_close (decoded : List (Value × Value)) :
    Refines opened turns (.ofExcept (keepLast decoded)) (.ofExcept (refuseDuplicates decoded)) := by
  cases hkeep : keepLast decoded with
  | error fault => exact refines_of_fails fun _ => ⟨fault, rfl⟩
  | ok v =>
      rcases refuseDuplicates_of_keepLast hkeep with hrefuse | ⟨key, hrefuse⟩ <;> rw [hrefuse]
      · exact refines_pure v
      · exact fun _ _ _ _ _ _ => .inr (.inl ⟨key, rfl⟩)

end Decode

open Decode Node

/-! ## Nodes side by side -/

/-- Decoding that lets later entries win is refined with this fuel by decoding that refuses them,
even where the latter has no open collections. -/
def RefinesAll (content : String → Node) (fuel : Nat) : Prop :=
  ∀ whole opened (node : Node), node.Follows content → node.Avoids opened →
    Refines opened node.Turns (decodeNode .lastWins fuel true node)
      (decodeNode .uniqueKeys fuel whole node)

section

variable {fuel : Nat} {whole : Bool} {node part : Node} {entries : Entries} {items : List Node}

/-- The parts of a node are decoded like any node. -/
lemma refines_part (ih : RefinesAll content fuel) (whole : Bool) (hfollows : node.Follows content)
    (havoids : node.Avoids opened) (hpart : part ∈ node.parts) :
    Refines opened node.Turns (decodeNode .lastWins fuel true part)
      (decodeNode .uniqueKeys fuel whole part) :=
  (ih whole opened part (hfollows.part hpart) (havoids.part hpart)).imp (Turns.of_part hpart)

/-- A mapping that merges a node around it has entries on one side only. -/
lemma refines_openEntries {tag : Tag} {f g : Entries → Decode Value} (isOpen : Bool)
    (h : ∀ es, spliced entries = .ok es →
      Refines opened (Node.mapping tag entries).Turns (f es) (g es)) :
    Refines opened (Node.mapping tag entries).Turns
      (.ofExcept (openEntries true entries) >>= f)
      (.ofExcept (openEntries isOpen entries) >>= g) := by
  rcases openEntries_cases isOpen entries with ⟨-, hback, heq⟩ | ⟨-, heq⟩ <;> rw [heq]
  · exact fun _ _ _ _ _ _ => .inr (.inr ⟨rfl, Turns.of_turnsBack hback⟩)
  · have hopen : openEntries true entries = spliced entries := rfl
    rw [hopen]
    cases hspliced : spliced entries with
    | error fault => exact refines_of_fails fun _ => ⟨fault, rfl⟩
    | ok es => exact h es hspliced

lemma refines_shared (ih : RefinesAll content fuel)
    (hfollows : (Node.shared name node).Follows content)
    (havoids : (Node.shared name node).Avoids opened) :
    Refines opened (Node.shared name node).Turns
      (decodeNode .lastWins (fuel + 1) true (.shared name node))
      (decodeNode .uniqueKeys (fuel + 1) whole (.shared name node)) := by
  have hself : (Node.shared name node).Shares name node.asKey := ⟨node, .here, rfl⟩
  have hpart : node ∈ (Node.shared name node).parts := List.mem_singleton_self node
  have hclosed : name ∉ opened := fun hname => havoids name hname _ hself
  have hrun := (ih whole (name :: opened) node (hfollows.part hpart)
    (avoids_content hfollows havoids)).imp (Turns.of_part hpart)
  intro known known' hagree v after h
  have hsame : known'.lookup name = known.lookup name :=
    (hagree name).resolve_right fun hopen => hclosed hopen.1
  rw [decodeNode_shared] at h ⊢
  rw [hsame]
  cases hknown : known.lookup name with
  | some w =>
      rw [hknown] at h
      obtain ⟨rfl, rfl⟩ := Prod.mk.inj (Except.ok.inj h)
      exact .inl ⟨known', rfl, hagree⟩
  | none =>
      rw [hknown] at h
      dsimp only at h ⊢
      have hopened := hagree.opening whole node (hsame.trans hknown)
      cases hlast : decodeNode .lastWins fuel true node (opening true name node known) with
      | error fault =>
          rw [hlast] at h
          cases h
      | ok r =>
          rw [hlast] at h
          obtain ⟨rfl, rfl⟩ := Prod.mk.inj (Except.ok.inj h)
          rcases hrun _ _ hopened r.1 r.2 hlast with ⟨after', hunique, hafter⟩ | ⟨key, hunique⟩ |
            ⟨hunique, hturns⟩ <;> rw [hunique]
          · exact .inl ⟨_, rfl, hafter.remember⟩
          · exact .inr (.inl ⟨key, rfl⟩)
          · exact .inr (.inr ⟨rfl, hturns⟩)

/-- A reference to a node around it has a value on one side, and turns back on the other. -/
lemma refines_enclosing {kind : Kind} : Refines opened (Node.enclosing name kind).Turns
    (decodeNode .lastWins (fuel + 1) true (.enclosing name kind))
    (decodeNode .uniqueKeys (fuel + 1) whole (.enclosing name kind)) := by
  intro known known' hagree v after h
  have hturns : (Node.enclosing name kind).Turns := Turns.of_turnsBack rfl
  rw [decodeNode, known?_bind] at h ⊢
  cases hunique : known'.lookup name with
  | none => exact .inr (.inr ⟨rfl, hturns⟩)
  | some w =>
      have hsame : known.lookup name = some w := by
        rcases hagree name with heq | ⟨-, hnone⟩
        · exact heq.symm.trans hunique
        · cases hunique.symm.trans hnone
      rw [hsame] at h
      obtain ⟨rfl, rfl⟩ := Prod.mk.inj (Except.ok.inj h)
      exact .inl ⟨known', rfl, hagree⟩

lemma refines_mapping (ih : RefinesAll content fuel)
    (hfollows : (Node.mapping .mapping entries).Follows content)
    (havoids : (Node.mapping .mapping entries).Avoids opened) :
    Refines opened (Node.mapping .mapping entries).Turns (do
      let entries ← .ofExcept (openEntries true entries)
      let decoded ← entries.mapM fun e => do
        return (← decodeNode .lastWins fuel true e.1, ← decodeNode .lastWins fuel true e.2)
      .ofExcept (keepLast decoded)) (do
      let entries ← .ofExcept (openEntries false entries)
      let decoded ← entries.mapM fun e => do
        return (← decodeNode .uniqueKeys fuel false e.1, ← decodeNode .uniqueKeys fuel false e.2)
      .ofExcept (refuseDuplicates decoded)) := by
  refine refines_openEntries false fun es hspliced => ?_
  refine (Refines.mapM fun e he => ?_).bind fun decoded => refines_close decoded
  obtain ⟨hkey, hvalue⟩ := mem_parts_of_spliced (.inl rfl) hspliced he
  exact (refines_part ih false hfollows havoids hkey).bind fun k =>
    (refines_part ih false hfollows havoids hvalue).bind fun v => refines_pure _

lemma refines_set (ih : RefinesAll content fuel)
    (hfollows : (Node.mapping .set entries).Follows content)
    (havoids : (Node.mapping .set entries).Avoids opened) :
    Refines opened (Node.mapping .set entries).Turns (do
      let entries ← .ofExcept (openEntries true entries)
      let members ← entries.foldlM (fun members e => do
        let members ← .ofExcept (addMember members (← decodeNode .lastWins fuel true e.1))
        let _ ← decodeNode .lastWins fuel true e.2
        return members) []
      return Value.set members) (do
      let entries ← .ofExcept (openEntries whole entries)
      let members ← entries.foldlM (fun members e => do
        let members ← .ofExcept (addMember members (← decodeNode .uniqueKeys fuel whole e.1))
        let _ ← decodeNode .uniqueKeys fuel whole e.2
        return members) []
      return Value.set members) := by
  refine refines_openEntries whole fun es hspliced => ?_
  refine (Refines.foldlM (fun e he members => ?_) []).bind fun members => refines_pure _
  obtain ⟨hkey, hvalue⟩ := mem_parts_of_spliced (.inr rfl) hspliced he
  exact (refines_part ih whole hfollows havoids hkey).bind fun k =>
    (refines_ofExcept _).bind fun members =>
      (refines_part ih whole hfollows havoids hvalue).bind fun v => refines_pure _

lemma refines_pairs {tag : Tag} (ih : RefinesAll content fuel)
    (htag : tag = .pairs ∨ tag = .orderedMapping)
    (hfollows : (Node.sequence tag items).Follows content)
    (havoids : (Node.sequence tag items).Avoids opened) :
    Refines opened (Node.sequence tag items).Turns (do
      return Value.list (← items.mapM fun item => do
        let entry ← .ofExcept (onlyEntry item)
        let key ← decodeNode .lastWins fuel true entry.1
        return Value.tuple [key, ← decodeNode .lastWins fuel true entry.2])) (do
      return Value.list (← items.mapM fun item => do
        let entry ← .ofExcept (onlyEntry item)
        let key ← decodeNode .uniqueKeys fuel whole entry.1
        return Value.tuple [key, ← decodeNode .uniqueKeys fuel whole entry.2])) := by
  refine (Refines.mapM fun item hitem => ?_).bind fun vs => refines_pure _
  cases hentry : onlyEntry item with
  | error fault => exact refines_of_fails fun _ => ⟨fault, rfl⟩
  | ok e =>
      obtain ⟨hkey, hvalue⟩ := mem_parts_of_onlyEntry htag hitem hentry
      rw [ofExcept_ok_bind, ofExcept_ok_bind]
      exact (refines_part ih whole hfollows havoids hkey).bind fun k =>
        (refines_part ih whole hfollows havoids hvalue).bind fun v => refines_pure _

/-- A node whose text is wanted is the same on both sides. -/
lemma refines_text (node : Node) : Refines opened turns (match node.scalarText with
      | some points =>
        if node.tag = .moment ∧ node.kind = .mapping then .fail .entriesForMoment
        else .ofExcept (scalarValue node.tag points)
      | none => .fail .malformed) (match node.scalarText with
      | some points =>
        if node.tag = .moment ∧ node.kind = .mapping then .fail .entriesForMoment
        else .ofExcept (scalarValue node.tag points)
      | none => .fail .malformed) := by
  split
  · split
    · exact refines_ofExcept (.error .entriesForMoment)
    · exact refines_ofExcept _
  · exact refines_ofExcept (.error .malformed)

end

/-- Wherever a node stands and whatever is remembered. -/
theorem refinesAll (content : String → Node) (fuel : Nat) : RefinesAll content fuel := by
  induction fuel with
  | zero => exact fun _ _ _ _ _ => refines_of_fails fun _ => ⟨.malformed, rfl⟩
  | succ fuel ih =>
      intro whole opened node hfollows havoids
      have hfails : ∀ d : Decode Value, Refines opened node.Turns (.fail .malformed) d :=
        fun _ => refines_of_fails fun _ => ⟨.malformed, rfl⟩
      cases node with
      | shared name node => exact refines_shared ih hfollows havoids
      | enclosing name kind => exact refines_enclosing
      | scalar tag points =>
          rw [decodeNode, decodeNode]
          · cases tag with
            | mapping => exact refines_of_fails fun _ => ⟨.malformed, rfl⟩
            | sequence => exact hfails _
            | set => exact hfails _
            | pairs => exact hfails _
            | orderedMapping => exact hfails _
            | _ => exact refines_text (.scalar _ points)
          all_goals simp
      | sequence tag items =>
          rw [decodeNode, decodeNode]
          cases tag with
          | sequence =>
              refine (Refines.mapM fun item hitem => ?_).bind fun vs => refines_pure _
              exact refines_part ih whole hfollows havoids hitem
          | mapping => exact refines_of_fails fun _ => ⟨.malformed, rfl⟩
          | set => exact hfails _
          | pairs => exact refines_pairs ih (.inl rfl) hfollows havoids
          | orderedMapping => exact refines_pairs ih (.inr rfl) hfollows havoids
          | _ => exact hfails _
      | mapping tag entries =>
          rw [decodeNode, decodeNode]
          cases tag with
          | sequence => exact hfails _
          | mapping =>
              -- what is inside a mapping is never open on the second side
              cases whole with
              | true => exact refines_mapping ih hfollows havoids
              | false => exact refines_mapping ih hfollows havoids
          | set => exact refines_set ih hfollows havoids
          | pairs => exact hfails _
          | orderedMapping => exact hfails _
          | _ => exact refines_text (.mapping _ entries)

end

/-! ## Documents -/

section

variable {text : List Nat} {v key : Value} {entries es merged : Entries}

/-- Where later entries win and a text has a value, refusing them gives the same value, or finds a
repeated key, or meets a node that turns back. -/
lemma decode_cases (h : decodeWith .lastWins text = .ok v) : decode text = .ok v ∨
    (∃ key, decode text = .error (repetition key)) ∨
    decode text = .error .malformed ∧ ∃ node, IsBuilt text node ∧ node.turnsBack = true := by
  rcases decodeWith_cases text with ⟨_, -, herror⟩ | ⟨-, hnull⟩ | ⟨root, hroot, hnode⟩
  · cases h.symm.trans (herror _)
  · exact .inl ((hnull _).trans ((hnull _).symm.trans h))
  · obtain ⟨content, hfollows⟩ := follows_root hroot
    obtain ⟨after, hlast⟩ := decodeNode_of_decodeWith h hroot
    have hrefines := refinesAll content _ true [] root hfollows (avoids_nil root) [] []
      (Agree.refl [] []) v after hlast
    rw [decode, hnode]
    rcases hrefines with
      ⟨after', hunique, -⟩ | ⟨key, hunique⟩ | ⟨hunique, inner, hbuilds, hback⟩ <;> rw [hunique]
    · exact .inl rfl
    · exact .inr (.inl ⟨key, rfl⟩)
    · exact .inr (.inr ⟨rfl, inner, ⟨root, hroot, hbuilds⟩, hback⟩)

lemma repetition_cases (key : Value) :
    repetition key = .duplicateKey key ∨ repetition key = .untellableKey := by
  unfold repetition
  split
  · exact .inl rfl
  · exact .inr rfl

/-- A repeated key is told only where a key is repeated. -/
lemma repeats_of_decode (hkeys : ∀ node, IsBuilt text node → ¬ node.HasCircularKey)
    (h : decode text = .error (repetition key)) :
    ∃ entries es k, IsBuilt text (.mapping .mapping entries) ∧ Node.spliced entries = .ok es ∧
      Node.Repeats es k ∧ repetition k = repetition key := by
  generalize hfault : repetition key = fault at h ⊢
  have hshape : fault = .duplicateKey key ∨ fault = .untellableKey :=
    hfault ▸ repetition_cases key
  rcases cause_of_decode h with hmalformed | htokens | ⟨node, hbuilt, hbreaks | ⟨hcircular, -⟩⟩
  · rcases hshape with hshape | hshape <;> cases hshape.symm.trans hmalformed
  · rcases hshape with rfl | rfl <;> cases failsOnly_tokensOf _ _ htokens
  · cases hbreaks with
    | scalar _ hvalue =>
        have hscalar := failsOnly_scalarValue _ _ _ hvalue
        rcases hshape with rfl | rfl <;> cases hscalar with
          | moment hmoment => cases hmoment
    | unmerged hspliced =>
        rcases hshape with rfl | rfl <;> cases Node.spliced_fault hspliced
    | repeated hspliced hrepeats => exact ⟨_, _, _, hbuilt, hspliced, hrepeats, rfl⟩
    | _ => rcases hshape with hshape | hshape <;> cases hshape
  · exact absurd hcircular (hkeys node hbuilt)

/-- A mapping of a text that has a value can be merged, and no key is repeated then. -/
lemma distinct_of_decode (h : decode text = .ok v)
    (hbuilt : IsBuilt text (.mapping .mapping entries)) :
    ∃ es, Node.spliced entries = .ok es ∧ Node.Distinct es := by
  cases hspliced : Node.spliced entries with
  | error fault => exact absurd (.unmerged hspliced) (not_breaks_of_decode h hbuilt)
  | ok es =>
      refine ⟨es, rfl, Node.distinct_iff.2 fun key hrepeats => ?_⟩
      exact not_breaks_of_decode h hbuilt (.repeated hspliced hrepeats)

lemma spliced_eq_ok : Node.spliced entries = .ok es ↔
    ∃ merged, Node.mergedEntries entries = .ok merged ∧ es = merged ++ Node.ownEntries entries := by
  unfold Node.spliced
  cases Node.mergedEntries entries with
  | error fault => simp [bind, Except.bind]
  | ok merged => simp [bind, Except.bind, pure, Except.pure, eq_comm]

/-- Keys are distinct exactly if the merged ones are, the mapping's own ones are, and no own one
overrides a merged one. -/
lemma distinct_append {own : Entries} : Node.Distinct (merged ++ own) ↔
    Node.Distinct merged ∧ Node.Distinct own ∧ ∀ e ∈ merged, ∀ f ∈ own,
      ∀ k l, e.1.atom? = some k → f.1.atom? = some l → sameKey l k = false :=
  List.pairwise_append

/-- Some mapping of a text has a key twice once its merges are carried out, and this is told. -/
def TellsRepetition (text : List Nat) : Prop :=
  ∃ entries es key, IsBuilt text (.mapping .mapping entries) ∧ Node.spliced entries = .ok es ∧
    Node.Repeats es key ∧ Form.ofText .yaml text = .error (.yaml (repetition key))

/-- Some node of a text refers to a node around it or merges one, and the text is malformed. -/
def TellsCircle (text : List Nat) : Prop :=
  (∃ node, IsBuilt text node ∧ node.turnsBack = true) ∧
    Form.ofText .yaml text = .error (.yaml .malformed)

/-- Where refusing repeated keys makes a difference, a repeated key or a circle is told. -/
lemma tells_of_decode_ne (h : decodeWith .lastWins text = .ok v)
    (hkeys : ∀ node, IsBuilt text node → ¬ node.HasCircularKey) (hdiffers : decode text ≠ .ok v) :
    TellsRepetition text ∨ TellsCircle text := by
  rcases decode_cases h with hsame | ⟨key, herror⟩ | ⟨herror, hcircle⟩
  · exact absurd hsame hdiffers
  · obtain ⟨entries, es, k, hbuilt, hspliced, hrepeats, hkey⟩ := repeats_of_decode hkeys herror
    exact .inl ⟨entries, es, k, hbuilt, hspliced, hrepeats, hkey ▸ Form.ofText_yaml_of_fault herror⟩
  · exact .inr ⟨hcircle, Form.ofText_yaml_of_fault herror⟩

/-- Decoding that refuses repeated keys beside decoding that lets later entries win, for a text that
has a value then and in which no mapping has a node around it as key.

* Where no node refers to a node around it or merges one, the two agree exactly if no mapping has a
  key twice once its merges are carried out.
* Wherever they do not agree, the text declares no form, and what is told is a key that some mapping
  has twice, or, where a node does refer back or merges back, that the text is malformed.
* This is so in particular wherever a key is written twice in a mapping.
* Where none is, and no node refers back or merges back, the two agree exactly if no two merged
  entries have the same key and no entry overrides a merged one.
* Where the whole is a mapping they agree only if no node is built from itself and no mapping merges
  a node around it. -/
theorem decode_of_lastWins_decode (h : decodeWith .lastWins text = .ok v)
    (hkeys : ∀ node, IsBuilt text node → ¬ node.HasCircularKey) :
    ((∀ node, IsBuilt text node → node.turnsBack = false) →
      (decode text = .ok v ↔ ∀ entries es, IsBuilt text (.mapping .mapping entries) →
        Node.spliced entries = .ok es → Node.Distinct es)) ∧
    (decode text ≠ .ok v → TellsRepetition text ∨ TellsCircle text) ∧
    (∀ entries, IsBuilt text (.mapping .mapping entries) →
      ¬ Node.Distinct (Node.ownEntries entries) → TellsRepetition text ∨ TellsCircle text) ∧
    ((∀ node, IsBuilt text node → node.turnsBack = false) →
      (∀ entries, IsBuilt text (.mapping .mapping entries) →
        Node.Distinct (Node.ownEntries entries)) →
      (decode text = .ok v ↔ ∀ entries merged, IsBuilt text (.mapping .mapping entries) →
        Node.mergedEntries entries = .ok merged → Node.Distinct merged ∧
          ∀ e ∈ merged, ∀ f ∈ Node.ownEntries entries, ∀ k l, e.1.atom? = some k →
            f.1.atom? = some l → sameKey l k = false)) ∧
    ((∃ members, v = .map members) → decode text = .ok v →
      (∀ name node kind, IsBuilt text (.shared name node) →
        ¬ node.Builds (.enclosing name kind)) ∧
      ∀ entries, IsBuilt text (.mapping .mapping entries) → Node.mergesBack entries = false) := by
  have hrefused := tells_of_decode_ne h hkeys
  have hdistinct : decode text = .ok v → ∀ entries es, IsBuilt text (.mapping .mapping entries) →
      Node.spliced entries = .ok es → Node.Distinct es := by
    intro hsame entries es hbuilt hspliced
    obtain ⟨_, hother, hdistinct⟩ := distinct_of_decode hsame hbuilt
    obtain rfl := Except.ok.inj (hspliced.symm.trans hother)
    exact hdistinct
  have hagree : (∀ node, IsBuilt text node → node.turnsBack = false) → (decode text = .ok v ↔
      ∀ entries es, IsBuilt text (.mapping .mapping entries) →
        Node.spliced entries = .ok es → Node.Distinct es) := by
    refine fun hstraight => ⟨hdistinct, fun hall => ?_⟩
    by_contra hdiffers
    rcases hrefused hdiffers with
      ⟨entries, es, key, hbuilt, hspliced, hrepeats, -⟩ | ⟨⟨node, hbuilt, hback⟩, -⟩
    · exact Node.distinct_iff.1 (hall entries es hbuilt hspliced) key hrepeats
    · cases hback.symm.trans (hstraight node hbuilt)
  refine ⟨hagree, hrefused, fun entries hbuilt hwritten => hrefused fun hsame => ?_,
    fun hstraight hown => ?_, ?_⟩
  · obtain ⟨es, hspliced, hdistinct⟩ := distinct_of_decode hsame hbuilt
    obtain ⟨merged, -, rfl⟩ := spliced_eq_ok.1 hspliced
    exact hwritten (distinct_append.1 hdistinct).2.1
  · rw [hagree hstraight]
    constructor
    · intro hdistinct entries merged hbuilt hmerged
      have hspliced := spliced_eq_ok.2 ⟨merged, hmerged, rfl⟩
      obtain ⟨hfirst, -, hoverrides⟩ := distinct_append.1 (hdistinct _ _ hbuilt hspliced)
      exact ⟨hfirst, hoverrides⟩
    · intro hmerges entries es hbuilt hspliced
      obtain ⟨merged, hmerged, rfl⟩ := spliced_eq_ok.1 hspliced
      obtain ⟨hfirst, hoverrides⟩ := hmerges entries merged hbuilt hmerged
      exact distinct_append.2 ⟨hfirst, hown entries hbuilt, hoverrides⟩
  · rintro ⟨members, rfl⟩ hsame
    refine ⟨fun name node kind => not_builds_itself_of_decode hsame, fun entries hbuilt => ?_⟩
    by_contra hback
    exact not_breaks_of_decode hsame hbuilt (.mergesBack (Bool.not_eq_false _ ▸ hback))

end

/-- A mapping that overrides an entry which it merges. -/
def overriding : List Nat := "{<<: {b}, b}".toList.map Char.toNat

/-- Its node. -/
def overridingNode : Node := .mapping .mapping
  [(.scalar .merge [0x3C, 0x3C], .mapping .mapping [(.scalar .text [0x62], .blank)]),
    (.scalar .text [0x62], .blank)]

lemma ofText?_overriding :
    Node.ofText? (overriding.map Char.ofNat) = .ok (some overridingNode) := by
  have htokens : tokensOf (overriding.map Char.ofNat) = .ok [.flowMappingStart, .key,
      .scalar true [0x3C, 0x3C], .value, .flowMappingStart, .scalar true [0x62], .flowMappingEnd,
      .flowEntry, .scalar true [0x62], .flowMappingEnd] := by rfl
  rw [Node.ofText?, htokens]
  rfl

lemma not_hasCircularKey_overriding {node : Node} (h : IsBuilt overriding node) :
    ¬ node.HasCircularKey := by
  obtain ⟨root, hroot, hbuilds⟩ := h
  obtain rfl := Option.some.inj (Except.ok.inj (ofText?_overriding.symm.trans hroot))
  have hspliced : Node.spliced [(.scalar .merge [0x3C, 0x3C],
      .mapping .mapping [(.scalar .text [0x62], .blank)]), (.scalar .text [0x62], .blank)] =
      .ok [(.scalar .text [0x62], .blank), (.scalar .text [0x62], .blank)] := by rfl
  have hparts : overridingNode.parts =
      [.scalar .text [0x62], .blank, .scalar .text [0x62], .blank] := by rfl
  have hscalars : ∀ part ∈ overridingNode.parts, ∃ tag points, part = .scalar tag points := by
    simp [hparts, Node.blank]
  rintro ⟨entries, es, e, rfl, hes, he, hback⟩
  cases hbuilds with
  | here =>
      obtain rfl := Except.ok.inj (hspliced.symm.trans hes)
      have hkey : e.1 = .scalar .text [0x62] := by simp at he; simp [he]
      rw [hkey] at hback
      cases hback
  | part hpart hbelow =>
      obtain ⟨tag, points, rfl⟩ := hscalars _ hpart
      cases hbelow with
      | part hpart => cases hpart

/-- The overriding entry is refused, though it would win otherwise. -/
theorem refuses_overriding :
    decodeWith .lastWins overriding = .ok (.map [(.text "b", .null)]) ∧
      TellsRepetition overriding := by
  have hprintable : overriding.all isPrintablePoint = true := by decide +kernel
  have hlast : decodeWith .lastWins overriding = .ok (.map [(.text "b", .null)]) := by
    rw [decodeWith_eq, hprintable, ofText?_overriding]
    rfl
  have hunique : decode overriding = .error (.duplicateKey (.text "b")) := by
    rw [decode, decodeWith_eq, hprintable, ofText?_overriding]
    rfl
  have hdiffers : decode overriding ≠ .ok (.map [(.text "b", .null)]) := by
    rw [hunique]
    rintro ⟨⟩
  have houtcome := decode_of_lastWins_decode hlast fun _ => not_hasCircularKey_overriding
  refine ⟨hlast, (houtcome.2.1 hdiffers).resolve_right fun hcircle => ?_⟩
  cases (Form.ofText_yaml_of_fault hunique).symm.trans hcircle.2

end FormEngine.Yaml
