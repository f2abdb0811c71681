import Mathlib.Data.Option.Basic
import FormEngine.Form.Visibility
import FormEngine.Proofs.Value.Sameness

/-!
# Where booleans and numbers are kept apart

Conditions compare values strictly: a boolean is not the same as a number.  That guard is put before
the two values that are compared and not before what they contain.  So the values of two places
agree in being booleans at the top, and below it they only mean the same: a boolean may stand
against a number of its value.

Places are named by the way that leads to them (`Branch`), through items of lists and tuples and
through keys of mappings.  Two values that are the same have the same places, with the same values
in them (`same_at?`).  Conversely a boolean below the top can be replaced by any number of its value
without a condition noticing it; `booleans_of_strictlySame` states both.
-/

namespace FormEngine

namespace Value

/-! ## Places -/

/-- A step from a value into it. -/
inductive Branch where
  /-- To an item of a list or a tuple. -/
  | item (i : Nat)
  /-- To the value under a key. -/
  | entry (key : Value) (proper : key.Proper)

/-- The value one step inside. -/
def child? : Value → Branch → Option Value
  | .list items, .item i => items[i]?
  | .tuple items, .item i => items[i]?
  | .map es, .entry key _ => lookup key es
  | _, _ => none

/-- The value at a place. -/
def at? (v : Value) : List Branch → Option Value
  | [] => some v
  | branch :: place => (v.child? branch).bind (·.at? place)

/-- A value with another one step inside. -/
def withChild (v : Value) (branch : Branch) (new : Value) : Value :=
  match v, branch with
  | .list items, .item i => .list (items.set i new)
  | .tuple items, .item i => .tuple (items.set i new)
  | .map es, .entry key _ => .map (insertEntry key new es)
  | v, _ => v

/-- A value with another at a place. -/
def replace (v new : Value) : List Branch → Value
  | [] => new
  | branch :: place =>
    match v.child? branch with
    | some child => v.withChild branch (child.replace new place)
    | none => v

variable {v w child new : Value} {branch : Branch}

/-! ## One step -/

lemma exists_of_lookup {key : Value} {es : List (Value × Value)} (h : lookup key es = some v) :
    ∃ e ∈ es, key.same e.1 = true ∧ e.2 = v := by
  obtain ⟨e, he, rfl⟩ := Option.map_eq_some_iff.1 h
  have hsame := List.find?_some (p := fun e : Value × Value => key.same e.1) he
  exact ⟨e, List.mem_of_find?_eq_some he, hsame, rfl⟩

/-- In a mapping that repeats no key, an entry whose key is the same as a given one is found. -/
lemma lookup_eq_some {key : Value} {es : List (Value × Value)} (hes : (Value.map es).Proper)
    (hkey : key.Proper) {e : Value × Value} (he : e ∈ es) (hsame : key.same e.1 = true) :
    lookup key es = some e.2 := by
  have hdistinct : es.Pairwise fun e f => e.1.same f.1 = false := hes.here
  have hproper : ∀ f ∈ es, f.1.Proper := fun f hf => hes.part (key_mem_parts hf)
  obtain ⟨before, after, rfl⟩ := List.append_of_mem he
  have hbefore : ∀ f ∈ before, ¬ key.same f.1 = true := by
    intro f hf hkf
    have hne : f.1.same e.1 = false :=
      (List.pairwise_append.1 hdistinct).2.2 f hf e List.mem_cons_self
    have hback := hkey.same_symm (hproper f (List.mem_append_left _ hf)) hkf
    exact Bool.false_ne_true (hne.symm.trans (same_trans hback hsame))
  have hfind : (before ++ e :: after).find? (fun f => key.same f.1) = some e :=
    List.find?_eq_some_iff_append.2 ⟨hsame, before, after, rfl, by simpa using hbefore⟩
  rw [lookup, hfind]
  rfl

lemma child_mem_parts (h : v.child? branch = some child) : child ∈ v.parts := by
  unfold child? at h
  split at h
  · exact List.mem_of_getElem? h
  · exact List.mem_of_getElem? h
  · obtain ⟨e, he, -, rfl⟩ := exists_of_lookup h
    exact value_mem_parts he
  · cases h

/-- What is found under a key in one of two mappings is found in the other. -/
lemma lookup_of_same {key : Value} {es fs : List (Value × Value)} (hfs : (Value.map fs).Proper)
    (hkey : key.Proper) (h : same (.map es) (.map fs) = true) (hv : lookup key es = some v) :
    ∃ w, lookup key fs = some w ∧ v.same w = true := by
  obtain ⟨_, heq, -, hef⟩ := same_map_iff.1 h
  obtain rfl := Value.map.inj heq
  obtain ⟨e, he, hsame, rfl⟩ := exists_of_lookup hv
  obtain ⟨f, hf, hkeys, hvalues⟩ := hef e he
  exact ⟨f.2, lookup_eq_some hfs hkey hf (same_trans hsame hkeys), hvalues⟩

lemma getElem?_of_forall₂ {R : Value → Value → Prop} {xs ys : List Value}
    (h : List.Forall₂ R xs ys) (i : Nat) : Option.Rel R xs[i]? ys[i]? := by
  induction h generalizing i with
  | nil => exact .none
  | cons hxy _ ih =>
      cases i with
      | zero => exact .some hxy
      | succ i => exact ih i

/-- Values that are the same have the same one step inside. -/
lemma same_child? (hv : v.Proper) (hw : w.Proper) (h : v.same w = true) (branch : Branch) :
    Option.Rel (fun v w => v.same w = true) (v.child? branch) (w.child? branch) := by
  cases v with
  | list xs =>
      obtain ⟨ys, rfl, hxy⟩ := same_list_iff.1 h
      cases branch with
      | item i => exact getElem?_of_forall₂ hxy i
      | entry => exact .none
  | tuple xs =>
      obtain ⟨ys, rfl, hxy⟩ := same_tuple_iff.1 h
      cases branch with
      | item i => exact getElem?_of_forall₂ hxy i
      | entry => exact .none
  | map es =>
      obtain ⟨fs, rfl, -, -⟩ := same_map_iff.1 h
      cases branch with
      | item => exact .none
      | entry key hkey =>
          show Option.Rel _ (lookup key es) (lookup key fs)
          cases hes : lookup key es with
          | some x =>
              obtain ⟨y, hy, hxy⟩ := lookup_of_same hw hkey h hes
              rw [hy]
              exact .some hxy
          | none =>
              cases hfs : lookup key fs with
              | none => exact .none
              | some y =>
                  obtain ⟨x, hx, -⟩ := lookup_of_same hv hkey (hv.same_symm hw h) hfs
                  rw [hes] at hx
                  cases hx
  | _ =>
      -- nothing else has a place inside, nor has what is the same as it
      have hback := hv.same_symm hw h
      cases w with
      | list _ =>
          obtain ⟨_, heq, -⟩ := same_list_iff.1 hback
          cases heq
      | tuple _ =>
          obtain ⟨_, heq, -⟩ := same_tuple_iff.1 hback
          cases heq
      | map _ =>
          obtain ⟨_, heq, -⟩ := same_map_iff.1 hback
          cases heq
      | _ => cases branch <;> exact .none

/-! ## Replacing one step inside -/

lemma lookup_insertEntry {key : Value} {es : List (Value × Value)} (h : lookup key es = some v) :
    lookup key (insertEntry key new es) = some new := by
  induction es with
  | nil => cases h
  | cons e es ih =>
      obtain ⟨k, x⟩ := e
      unfold insertEntry
      by_cases hk : key.same k = true
      · simp [lookup, hk]
      · rw [Bool.not_eq_true] at hk
        simp only [lookup, List.find?_cons, hk, Bool.false_eq_true, if_false] at h ih ⊢
        exact ih h

lemma getElem?_set_of_some {items : List Value} {i : Nat} (h : items[i]? = some child) :
    (items.set i new)[i]? = some new := by
  obtain ⟨hi, -⟩ := List.getElem?_eq_some_iff.1 h
  simp [hi]

lemma child?_withChild (h : v.child? branch = some child) :
    (v.withChild branch new).child? branch = some new := by
  unfold child? at h
  split at h
  · exact getElem?_set_of_some h
  · exact getElem?_set_of_some h
  · exact lookup_insertEntry h
  · cases h

/-- Replacing an item by one that is the same makes the same list. -/
lemma forall₂_set {items : List Value} (hitems : ∀ x ∈ items, x.NanFree) {i : Nat}
    (h : items[i]? = some child) (hsame : child.same new = true) :
    List.Forall₂ (fun x y => x.same y = true) items (items.set i new) := by
  induction items generalizing i with
  | nil => exact .nil
  | cons x items ih =>
      obtain ⟨hx, hitems⟩ := List.forall_mem_cons.1 hitems
      cases i with
      | zero =>
          obtain rfl := Option.some.inj h
          exact .cons hsame (List.forall₂_same.2 fun y hy => same_self (hitems y hy))
      | succ i => exact .cons (same_self hx) (ih hitems h)

lemma sameEntry_insertEntry {key : Value} {es : List (Value × Value)}
    (hes : ∀ e ∈ es, e.1.NanFree ∧ e.2.NanFree) (h : lookup key es = some child)
    (hsame : child.same new = true) :
    List.Forall₂ SameEntry es (insertEntry key new es) := by
  have hself : ∀ es : List (Value × Value), (∀ e ∈ es, e.1.NanFree ∧ e.2.NanFree) →
      List.Forall₂ SameEntry es es := fun es hes =>
    List.forall₂_same.2 fun e he => ⟨same_self (hes e he).1, same_self (hes e he).2⟩
  induction es with
  | nil => cases h
  | cons e es ih =>
      obtain ⟨k, x⟩ := e
      obtain ⟨⟨hk, hx⟩, hrest⟩ := List.forall_mem_cons.1 hes
      unfold insertEntry
      by_cases hkey : key.same k = true
      · simp only [lookup, List.find?_cons, hkey] at h
        obtain rfl := Option.some.inj h
        rw [if_pos hkey]
        exact .cons ⟨same_self hk, hsame⟩ (hself es hrest)
      · rw [if_neg hkey]
        rw [Bool.not_eq_true] at hkey
        simp only [lookup, List.find?_cons, hkey] at h ih
        exact .cons ⟨same_self hk, same_self hx⟩ (ih hrest h)

lemma same_withChild (hv : v.NanFree) (h : v.child? branch = some child)
    (hsame : child.same new = true) : v.same (v.withChild branch new) = true := by
  unfold child? at h
  split at h
  · exact same_list_iff.2 ⟨_, rfl, forall₂_set (fun x hx => hv.part hx) h hsame⟩
  · exact same_tuple_iff.2 ⟨_, rfl, forall₂_set (fun x hx => hv.part hx) h hsame⟩
  next es key _ =>
    have hentries := sameEntry_insertEntry
      (fun e he => ⟨hv.part (key_mem_parts he), hv.part (value_mem_parts he)⟩) h hsame
    exact same_map_iff.2 ⟨_, rfl, hentries.length_eq, exists_mem_of_forall₂ hentries⟩
  · cases h

lemma keys_insertEntry {key : Value} {es : List (Value × Value)} (h : lookup key es = some child) :
    (insertEntry key new es).map (·.1) = es.map (·.1) := by
  induction es with
  | nil => cases h
  | cons e es ih =>
      obtain ⟨k, x⟩ := e
      unfold insertEntry
      by_cases hkey : key.same k = true
      · simp [hkey]
      · rw [Bool.not_eq_true] at hkey
        simp only [lookup, List.find?_cons, hkey] at h ih
        simpa [hkey] using ih h

lemma value_of_mem_insertEntry {key : Value} {es : List (Value × Value)} :
    ∀ e ∈ insertEntry key new es, e.2 = new ∨ e.2 ∈ es.map (·.2) := by
  induction es with
  | nil => simp [insertEntry]
  | cons e es ih =>
      obtain ⟨k, x⟩ := e
      unfold insertEntry
      by_cases hkey : key.same k = true
      · rw [if_pos hkey]
        exact List.forall_mem_cons.2
          ⟨.inl rfl, fun e he => .inr (List.mem_cons_of_mem x (List.mem_map_of_mem he))⟩
      · rw [if_neg hkey]
        exact List.forall_mem_cons.2
          ⟨.inr List.mem_cons_self, fun e he => (ih e he).imp_right (List.mem_cons_of_mem x)⟩

lemma proper_withChild (hv : v.Proper) (hnew : new.Proper) (h : v.child? branch = some child) :
    (v.withChild branch new).Proper := by
  have hset : ∀ {items : List Value} {i : Nat}, (∀ x ∈ items, x.Proper) →
      ∀ x ∈ items.set i new, x.Proper := by
    intro items i hitems x hx
    rcases List.mem_or_eq_of_mem_set hx with hx | rfl
    · exact hitems x hx
    · exact hnew
  unfold child? at h
  split at h
  · exact .intro trivial (hset fun x hx => hv.part hx)
  · exact .intro trivial (hset fun x hx => hv.part hx)
  next es key _ =>
    have hkeys : (insertEntry key new es).map (·.1) = es.map (·.1) := keys_insertEntry h
    have hdistinct : (es.map (·.1)).Pairwise fun k l => k.same l = false :=
      List.pairwise_map.2 hv.here
    have hafter : (insertEntry key new es).Pairwise fun e f => e.1.same f.1 = false :=
      List.pairwise_map.1 (hkeys ▸ hdistinct)
    refine .intro hafter fun w hw => ?_
    rcases List.mem_append.1 hw with hw | hw
    · exact hv.part (List.mem_append_left _ (hkeys ▸ hw))
    · obtain ⟨e, he, rfl⟩ := List.mem_map.1 hw
      rcases value_of_mem_insertEntry e he with heq | hvalue
      · exact heq ▸ hnew
      · exact hv.part (List.mem_append_right _ hvalue)
  · cases h

/-! ## Whole places -/

/-- Values that are the same have the same at every place, or both nothing. -/
lemma same_at? (hv : v.Proper) (hw : w.Proper) (h : v.same w = true) (place : List Branch) :
    Option.Rel (fun v w => v.same w = true) (v.at? place) (w.at? place) := by
  induction place generalizing v w with
  | nil => exact .some h
  | cons branch place ih =>
      have hchild := same_child? hv hw h branch
      rw [at?, at?]
      cases hx : v.child? branch <;> cases hy : w.child? branch <;> rw [hx, hy] at hchild
      case none.none => exact .none
      case some.some x y =>
        cases hchild with
        | some hxy => exact ih (hv.part (child_mem_parts hx)) (hw.part (child_mem_parts hy)) hxy
      all_goals cases hchild

/-- Replacing what is at a place by something that is the same makes the same value. -/
lemma replace_spec {place : List Branch} (hv : v.Proper) (hnan : v.NanFree)
    (h : v.at? place = some child) (hnew : new.Proper) (hsame : child.same new = true) :
    (v.replace new place).Proper ∧ (v.replace new place).at? place = some new ∧
      v.same (v.replace new place) = true := by
  induction place generalizing v with
  | nil =>
      obtain rfl := Option.some.inj h
      exact ⟨hnew, rfl, hsame⟩
  | cons branch place ih =>
      obtain ⟨x, hx, hat⟩ := Option.bind_eq_some_iff.1 h
      have hmem := child_mem_parts hx
      obtain ⟨hproper, hthere, hxnew⟩ := ih (hv.part hmem) (hnan.part hmem) hat
      have hreplace : v.replace new (branch :: place) =
          v.withChild branch (x.replace new place) := by rw [replace, hx]
      rw [hreplace]
      refine ⟨proper_withChild hv hproper hx, ?_, same_withChild hnan hx hxnew⟩
      rw [at?, child?_withChild hx]
      exact hthere

/-! ## Strict comparison -/

/-- Values are strictly the same if they mean the same and neither or both are a boolean. -/
lemma strictlySame_iff :
    v.strictlySame w = true ↔ v.same w = true ∧ ∀ b, v = .bool b ↔ w = .bool b := by
  unfold strictlySame
  split
  next b c =>
    rw [decide_eq_true_eq]
    constructor
    · rintro rfl
      exact ⟨(same_of_number? rfl).2 ⟨_, rfl, number?_same_self (v := .bool b) rfl rfl⟩,
        fun _ => Iff.rfl⟩
    · exact fun h => (Value.bool.inj ((h.2 b).1 rfl)).symm
  next b hw => exact iff_of_false Bool.false_ne_true fun h => hw b ((h.2 b).1 rfl)
  next b hv => exact iff_of_false Bool.false_ne_true fun h => hv b ((h.2 b).2 rfl)
  next hv hw _ => exact ⟨fun h => ⟨h, fun b => iff_of_false (hv b) (hw b)⟩, And.left⟩

/-- What is the same as a boolean is a number, and its value is that of the boolean. -/
lemma same_bool_iff {b : Bool} :
    same (.bool b) w = true ↔
      ∃ x, w.number? = some x ∧ x.extent? = some (.at (if b then 1 else 0)) := by
  rw [same_of_number? rfl]
  refine exists_congr fun x => and_congr_right fun _ => ?_
  rw [Number.same_iff]
  cases b <;> simp [Number.extent?, eq_comm]

lemma proper_of_number? {x : Number} (hx : v.number? = some x) : v.Proper := by
  cases v with
  | bool _ | int _ | float _ => exact .intro trivial fun w hw => absurd hw List.not_mem_nil
  | _ => cases hx

/-- A boolean has nothing below the top. -/
lemma ne_bool_of_at? {place : List Branch} (hplace : place ≠ []) (h : v.at? place = some child)
    (b : Bool) : v ≠ .bool b := by
  rintro rfl
  cases place with
  | nil => exact hplace rfl
  | cons branch place => cases branch <;> cases h

/-- Strictly the same are values that agree in being booleans and have, at every place, values that
mean the same: so a boolean stands against the same boolean at the top, and below it against
something whose value it has.  In a value without anything that is not a number nothing more can be
said: whatever has the value of a boolean below the top can be put in its place, and no condition
tells the two apart. -/
theorem booleans_of_strictlySame {l : Value} (hl : l.Proper) :
    (∀ r : Value, r.Proper → l.strictlySame r = true →
      (∀ b, l = .bool b ↔ r = .bool b) ∧
      ∀ place, Option.Rel (fun v w => v.same w = true) (l.at? place) (r.at? place) ∧
        ∀ b, l.at? place = some (.bool b) → ∃ w x, r.at? place = some w ∧
          (place = [] → w = .bool b) ∧ w.number? = some x ∧
          x.extent? = some (.at (if b then 1 else 0))) ∧
    (l.NanFree → ∀ (place : List Branch) (b : Bool) (n : Value) (x : Number), place ≠ [] →
      l.at? place = some (.bool b) → n.number? = some x →
      x.extent? = some (.at (if b then 1 else 0)) →
      (l.replace n place).Proper ∧ (l.replace n place).at? place = some n ∧
      Operator.equals.holds l (l.replace n place) = true ∧
      Operator.notEquals.holds l (l.replace n place) = false ∧
      ∀ items, l.replace n place ∈ items → Operator.isIn.holds l (.list items) = true) := by
  constructor
  · intro r hr h
    obtain ⟨hsame, htop⟩ := strictlySame_iff.1 h
    refine ⟨htop, fun place => ⟨same_at? hl hr hsame place, fun b hb => ?_⟩⟩
    have hplace := same_at? hl hr hsame place
    rw [hb] at hplace
    generalize hw : r.at? place = there at hplace
    cases hplace with
    | @some _ w hbw =>
        obtain ⟨x, hx, hextent⟩ := same_bool_iff.1 hbw
        refine ⟨w, x, rfl, ?_, hx, hextent⟩
        rintro rfl
        obtain rfl := Option.some.inj hw
        exact (htop b).1 (Option.some.inj hb)
  · intro hnan place b n x hplace hb hx hextent
    have hproper : n.Proper := proper_of_number? hx
    obtain ⟨hreplaced, hthere, hsame⟩ :=
      replace_spec hl hnan hb hproper (same_bool_iff.2 ⟨x, hx, hextent⟩)
    have hstrict : l.strictlySame (l.replace n place) = true := by
      refine strictlySame_iff.2 ⟨hsame, fun c => ?_⟩
      exact iff_of_false (ne_bool_of_at? hplace hb c) (ne_bool_of_at? hplace hthere c)
    refine ⟨hreplaced, hthere, hstrict, ?_, fun items hitem => ?_⟩
    · simp [Operator.holds, hstrict]
    · exact List.any_eq_true.2 ⟨_, hitem, hstrict⟩

/-- An answer in a list in a tuple under a key. -/
def nestedAnswer (answer : Value) : Value := .map [(.text "tour", .tuple [.list [answer]])]

lemma each_nestedAnswer {p : Value → Prop} {answer : Value} (hanswer : Each p answer)
    (hkey : p (.text "tour")) (hmap : p (nestedAnswer answer))
    (htuple : p (.tuple [.list [answer]])) (hlist : p (.list [answer])) :
    Each p (nestedAnswer answer) := by
  have htext : Each p (.text "tour") := .intro hkey fun w hw => absurd hw List.not_mem_nil
  have hinner : Each p (.list [answer]) := .intro hlist (List.forall_mem_singleton.2 hanswer)
  have houter : Each p (.tuple [.list [answer]]) :=
    .intro htuple (List.forall_mem_singleton.2 hinner)
  exact .intro hmap (List.forall_mem_cons.2 ⟨htext, List.forall_mem_singleton.2 houter⟩)

/-- The number one in the place of a boolean deep inside a mapping goes unnoticed, though at the top
the two are kept apart. -/
theorem booleans_of_nestedAnswer :
    (nestedAnswer (.bool true)).Proper ∧ (nestedAnswer (.bool true)).NanFree ∧
    Operator.equals.holds (nestedAnswer (.bool true)) (nestedAnswer (.float (.ofInt 1))) = true ∧
    Operator.equals.holds (.bool true) (.float (.ofInt 1)) = false := by
  have hproper : (nestedAnswer (.bool true)).Proper :=
    each_nestedAnswer (proper_of_number? rfl) trivial (List.pairwise_singleton ..) trivial trivial
  have hnan : (nestedAnswer (.bool true)).NanFree :=
    each_nestedAnswer (.intro rfl fun w hw => absurd hw List.not_mem_nil) rfl rfl rfl rfl
  have hkey : (Value.text "tour").Proper := .intro trivial fun w hw => absurd hw List.not_mem_nil
  obtain ⟨-, -, hequals, -⟩ := (booleans_of_strictlySame hproper).2 hnan
    [.entry (.text "tour") hkey, .item 0, .item 0] true (.float (.ofInt 1)) (.float (.ofInt 1))
    (List.cons_ne_nil _ _) rfl rfl rfl
  exact ⟨hproper, hnan, hequals, rfl⟩

end Value

end FormEngine
