import Mathlib.Data.List.Forall2
import Mathlib.Tactic.Lemma
import FormEngine.Value.Equality

/-!
# Values that mean the same

`Value.same` is a partial equivalence.  It is transitive for all values (`Value.same_trans`), and
symmetric for those that a program can hold (`Value.Proper.same_symm`): mappings and sets are
compared by looking for the entries of the first in the second, which is enough only because both
are equally long and nothing occurs in them twice.  It is reflexive for a value in which no part is
a number that is not a number (`Value.same_self`).

Values are trees, and all of this goes by induction on the parts that they are made of
(`Value.induction_on_parts`).
-/

namespace FormEngine

/-! ## Numbers and moments -/

namespace Number

variable {x y z : Number}

/-- Two numbers are the same if they stand at the same place of the extended line. -/
lemma same_iff : x.same y = true ↔ ∃ p, x.extent? = some p ∧ y.extent? = some p := by
  unfold same
  cases x.extent? with
  | none => simp
  | some p => cases y.extent? <;> simp [eq_comm]

lemma same_symm (h : x.same y = true) : y.same x = true :=
  let ⟨p, hx, hy⟩ := same_iff.1 h
  same_iff.2 ⟨p, hy, hx⟩

lemma same_trans (hxy : x.same y = true) (hyz : y.same z = true) : x.same z = true := by
  obtain ⟨p, hx, hy⟩ := same_iff.1 hxy
  obtain ⟨q, hy', hz⟩ := same_iff.1 hyz
  obtain rfl := Option.some.inj (hy.symm.trans hy')
  exact same_iff.2 ⟨p, hx, hz⟩

end Number

lemma DateTime.same_iff {t u : DateTime} :
    t.same u = true ↔ t.offset.isSome = u.offset.isSome ∧ t.instant = u.instant := by
  simp [same]

/-! ## Lists -/

section

variable {α β : Type} {R : α → β → Prop} {S : α → α → Prop}

/-- If each of some things has its own counterpart among as many others, each of these is the
counterpart of one. -/
lemma exists_mem_of_length_eq {xs : List α} {ys : List β} (hlength : xs.length = ys.length)
    (hxs : ∀ x ∈ xs, ∃ y ∈ ys, R x y)
    (hown : xs.Pairwise fun x x' => ∀ y ∈ ys, R x y → ¬ R x' y) :
    ∀ y ∈ ys, ∃ x ∈ xs, R x y := by
  induction xs generalizing ys with
  | nil =>
      obtain rfl := List.eq_nil_of_length_eq_zero hlength.symm
      exact fun y hy => absurd hy List.not_mem_nil
  | cons x xs ih =>
      obtain ⟨⟨y, hy, hxy⟩, hxs⟩ := List.forall_mem_cons.1 hxs
      obtain ⟨hx, hown⟩ := List.pairwise_cons.1 hown
      obtain ⟨before, after, rfl⟩ := List.append_of_mem hy
      -- the others have their counterparts among what is left when `y` is taken away
      have hsubset : ∀ z ∈ before ++ after, z ∈ before ++ y :: after := by
        intro z hz
        rw [List.mem_append, List.mem_cons]
        exact (List.mem_append.1 hz).imp_right .inr
      have hleft : ∀ z ∈ before ++ after, ∃ x ∈ xs, R x z := ih
        (by simpa [← Nat.add_assoc] using hlength)
        (fun x' hx' => by
          obtain ⟨y', hy', hxy'⟩ := hxs x' hx'
          have hother : y' ≠ y := fun heq => hx x' hx' y hy hxy (heq ▸ hxy')
          refine ⟨y', ?_, hxy'⟩
          simpa [hother] using hy')
        (hown.imp fun h z hz => h z (hsubset z hz))
      intro z hz
      by_cases hzy : z = y
      · exact ⟨x, List.mem_cons_self, hzy ▸ hxy⟩
      · obtain ⟨x', hx', hxz⟩ := hleft z (by simpa [hzy] using hz)
        exact ⟨x', List.mem_cons_of_mem x hx', hxz⟩

lemma forall₂_symm_of {xs ys : List α} (h : ∀ x ∈ xs, ∀ y ∈ ys, S x y → S y x)
    (hxy : List.Forall₂ S xs ys) : List.Forall₂ S ys xs := by
  induction hxy with
  | nil => exact .nil
  | @cons x y xs ys hxy _ ih =>
      exact .cons (h x List.mem_cons_self y List.mem_cons_self hxy)
        (ih fun x' hx' y' hy' => h x' (List.mem_cons_of_mem x hx') y' (List.mem_cons_of_mem y hy'))

lemma forall₂_trans_of {xs ys zs : List α} (h : ∀ x ∈ xs, ∀ y z, S x y → S y z → S x z)
    (hxy : List.Forall₂ S xs ys) (hyz : List.Forall₂ S ys zs) : List.Forall₂ S xs zs := by
  induction hxy generalizing zs with
  | nil => exact hyz
  | @cons x y xs ys hxy _ ih =>
      cases hyz with
      | @cons _ z _ zs hyz hrest =>
          exact .cons (h x List.mem_cons_self y z hxy hyz)
            (ih (fun x' hx' => h x' (List.mem_cons_of_mem x hx')) hrest)

lemma exists_mem_of_forall₂ {xs : List α} {ys : List β} (h : List.Forall₂ R xs ys) :
    ∀ x ∈ xs, ∃ y ∈ ys, R x y := by
  induction h with
  | nil => exact fun x hx => absurd hx List.not_mem_nil
  | @cons x y xs ys hxy _ ih =>
      refine List.forall_mem_cons.2 ⟨⟨y, List.mem_cons_self, hxy⟩, fun x' hx' => ?_⟩
      obtain ⟨y', hy', hxy'⟩ := ih x' hx'
      exact ⟨y', List.mem_cons_of_mem y hy', hxy'⟩

end

namespace Value

/-! ## Parts -/

/-- What a value is made of. -/
def parts : Value → List Value
  | .list items => items
  | .tuple items => items
  | .set items => items
  | .map es => es.map (·.1) ++ es.map (·.2)
  | .prepared _ description => [description]
  | _ => []

lemma key_mem_parts {es : List (Value × Value)} {e : Value × Value} (he : e ∈ es) :
    e.1 ∈ parts (.map es) :=
  List.mem_append_left _ (List.mem_map_of_mem he)

lemma value_mem_parts {es : List (Value × Value)} {e : Value × Value} (he : e ∈ es) :
    e.2 ∈ parts (.map es) :=
  List.mem_append_right _ (List.mem_map_of_mem he)

lemma sizeOf_lt_of_mem_parts {v w : Value} (h : w ∈ v.parts) : sizeOf w < sizeOf v := by
  cases v with
  | list items | tuple items | set items =>
      have hlt : sizeOf w < sizeOf items := List.sizeOf_lt_of_mem h
      simp only [list.sizeOf_spec, tuple.sizeOf_spec, set.sizeOf_spec]
      omega
  | map es =>
      rcases List.mem_append.1 h with h | h
      all_goals
        obtain ⟨e, he, rfl⟩ := List.mem_map.1 h
        have hlt : sizeOf e < sizeOf es := List.sizeOf_lt_of_mem he
        obtain ⟨key, value⟩ := e
        simp only [map.sizeOf_spec, Prod.mk.sizeOf_spec] at hlt ⊢
        omega
  | prepared kind description =>
      obtain rfl := List.mem_singleton.1 h
      rw [prepared.sizeOf_spec]
      omega
  | _ => exact absurd h List.not_mem_nil

/-- What holds of a value whenever it holds of its parts holds of all values. -/
@[elab_as_elim]
theorem induction_on_parts {motive : Value → Prop}
    (step : ∀ v : Value, (∀ w ∈ v.parts, motive w) → motive v) (v : Value) : motive v :=
  step v fun w _ => induction_on_parts step w
termination_by sizeOf v
decreasing_by exact sizeOf_lt_of_mem_parts ‹_›

/-- Something holds of a value and of everything in it. -/
inductive Each (p : Value → Prop) : Value → Prop
  | intro {v : Value} : p v → (∀ w ∈ v.parts, Each p w) → Each p v

namespace Each

variable {p : Value → Prop} {v : Value}

lemma here (h : Each p v) : p v := by
  cases h
  assumption

lemma part (h : Each p v) {w : Value} (hw : w ∈ v.parts) : Each p w := by
  cases h with
  | intro _ hparts => exact hparts w hw

end Each

/-! ## What is the same as what -/

/-- Values that are the same as nothing but themselves. -/
def isLiteral : Value → Bool
  | .null => true
  | .text _ => true
  | .bytes _ => true
  | .date _ => true
  | _ => false

variable {u v w : Value}

lemma same_of_isLiteral (h : v.isLiteral = true) : v.same w = true ↔ w = v := by
  cases v with
  | null | text _ | bytes _ | date _ => cases w <;> simp [same, eq_comm]
  | _ => cases h

lemma same_text_iff {text : Text} : same (.text text) v = true ↔ v = .text text :=
  same_of_isLiteral rfl

lemma sameNumber_iff {x : Number} :
    sameNumber x w = true ↔ ∃ y, w.number? = some y ∧ x.same y = true := by
  cases w <;> simp [sameNumber, number?]

/-- A number is the same as the numbers of its value. -/
lemma same_of_number? {x : Number} (hx : v.number? = some x) :
    v.same w = true ↔ ∃ y, w.number? = some y ∧ x.same y = true := by
  cases v with
  | bool _ | int _ | float _ =>
      obtain rfl := Option.some.inj hx
      rw [same, sameNumber_iff]
  | _ => cases hx

lemma same_dateTime_iff {t : DateTime} :
    same (.dateTime t) w = true ↔ ∃ t', w = .dateTime t' ∧ t.same t' = true := by
  cases w <;> simp [same]

lemma sameItems_iff {xs ys : List Value} :
    sameItems xs ys = true ↔ List.Forall₂ (fun x y => x.same y = true) xs ys := by
  induction xs generalizing ys with
  | nil => cases ys <;> simp [sameItems]
  | cons x xs ih => cases ys <;> simp [sameItems, ih]

lemma same_list_iff {xs : List Value} :
    same (.list xs) w = true ↔
      ∃ ys, w = .list ys ∧ List.Forall₂ (fun x y => x.same y = true) xs ys := by
  cases w <;> simp [same, sameItems_iff]

lemma same_tuple_iff {xs : List Value} :
    same (.tuple xs) w = true ↔
      ∃ ys, w = .tuple ys ∧ List.Forall₂ (fun x y => x.same y = true) xs ys := by
  cases w <;> simp [same, sameItems_iff]

lemma allWithin_iff {xs ys : List Value} :
    allWithin xs ys = true ↔ ∀ x ∈ xs, ∃ y ∈ ys, x.same y = true := by
  induction xs with
  | nil => simp [allWithin]
  | cons x xs ih => simp [allWithin, ih]

lemma same_set_iff {xs : List Value} :
    same (.set xs) w = true ↔ ∃ ys, w = .set ys ∧ xs.length = ys.length ∧
      ∀ x ∈ xs, ∃ y ∈ ys, x.same y = true := by
  cases w <;> simp [same, allWithin_iff]

/-- Whether an entry is the same as another, key and value. -/
def SameEntry (e f : Value × Value) : Prop := e.1.same f.1 = true ∧ e.2.same f.2 = true

lemma entriesWithin_iff {es fs : List (Value × Value)} :
    entriesWithin es fs = true ↔ ∀ e ∈ es, ∃ f ∈ fs, SameEntry e f := by
  induction es with
  | nil => simp [entriesWithin]
  | cons e es ih => simp [entriesWithin, ih, SameEntry]

lemma same_map_iff {es : List (Value × Value)} :
    same (.map es) w = true ↔ ∃ fs, w = .map fs ∧ es.length = fs.length ∧
      ∀ e ∈ es, ∃ f ∈ fs, SameEntry e f := by
  cases w <;> simp [same, entriesWithin_iff]

lemma same_prepared_iff {kind : Prepared} {description : Value} :
    same (.prepared kind description) w = true ↔
      ∃ other, w = .prepared kind other ∧ description.same other = true := by
  cases w <;> simp [same]
  grind

/-! ## Transitivity -/

/-- What is the same as the same is the same. -/
theorem same_trans (huv : u.same v = true) (hvw : v.same w = true) : u.same w = true := by
  induction u using induction_on_parts generalizing v w with
  | step u ih =>
      cases u with
      | null | text _ | bytes _ | date _ =>
          obtain rfl := (same_of_isLiteral rfl).1 huv
          exact hvw
      | bool _ | int _ | float _ =>
          obtain ⟨y, hy, hxy⟩ := (same_of_number? rfl).1 huv
          obtain ⟨z, hz, hyz⟩ := (same_of_number? hy).1 hvw
          exact (same_of_number? rfl).2 ⟨z, hz, Number.same_trans hxy hyz⟩
      | dateTime t =>
          obtain ⟨t', rfl, ht⟩ := same_dateTime_iff.1 huv
          obtain ⟨t'', rfl, ht'⟩ := same_dateTime_iff.1 hvw
          rw [DateTime.same_iff] at ht ht'
          exact same_dateTime_iff.2
            ⟨t'', rfl, DateTime.same_iff.2 ⟨ht.1.trans ht'.1, ht.2.trans ht'.2⟩⟩
      | list xs =>
          obtain ⟨ys, rfl, hxy⟩ := same_list_iff.1 huv
          obtain ⟨zs, rfl, hyz⟩ := same_list_iff.1 hvw
          exact same_list_iff.2 ⟨zs, rfl, forall₂_trans_of (fun x hx _ _ => ih x hx) hxy hyz⟩
      | tuple xs =>
          obtain ⟨ys, rfl, hxy⟩ := same_tuple_iff.1 huv
          obtain ⟨zs, rfl, hyz⟩ := same_tuple_iff.1 hvw
          exact same_tuple_iff.2 ⟨zs, rfl, forall₂_trans_of (fun x hx _ _ => ih x hx) hxy hyz⟩
      | set xs =>
          obtain ⟨ys, rfl, hlength, hxy⟩ := same_set_iff.1 huv
          obtain ⟨zs, rfl, hlength', hyz⟩ := same_set_iff.1 hvw
          refine same_set_iff.2 ⟨zs, rfl, hlength.trans hlength', fun x hx => ?_⟩
          obtain ⟨y, hy, hxy⟩ := hxy x hx
          obtain ⟨z, hz, hyz⟩ := hyz y hy
          exact ⟨z, hz, ih x hx hxy hyz⟩
      | map es =>
          obtain ⟨fs, rfl, hlength, hef⟩ := same_map_iff.1 huv
          obtain ⟨gs, rfl, hlength', hfg⟩ := same_map_iff.1 hvw
          refine same_map_iff.2 ⟨gs, rfl, hlength.trans hlength', fun e he => ?_⟩
          obtain ⟨f, hf, hkey, hvalue⟩ := hef e he
          obtain ⟨g, hg, hkey', hvalue'⟩ := hfg f hf
          exact ⟨g, hg, ih e.1 (key_mem_parts he) hkey hkey',
            ih e.2 (value_mem_parts he) hvalue hvalue'⟩
      | prepared kind description =>
          obtain ⟨other, rfl, h⟩ := same_prepared_iff.1 huv
          obtain ⟨other', rfl, h'⟩ := same_prepared_iff.1 hvw
          exact same_prepared_iff.2 ⟨other', rfl, ih description (List.mem_singleton_self _) h h'⟩

/-! ## Symmetry -/

/-- No member of a set and no key of a mapping occurs twice. -/
def RepeatsNothing : Value → Prop
  | .set items => items.Pairwise fun v w => v.same w = false
  | .map es => es.Pairwise fun e f => e.1.same f.1 = false
  | _ => True

/-- Values that a program can hold: sets and mappings, wherever they occur, repeat nothing. -/
abbrev Proper : Value → Prop := Each RepeatsNothing

namespace Proper

/-- Of two values in which nothing is repeated, the second is the same as the first if the first is
the same as the second. -/
theorem same_symm (hv : v.Proper) (hw : w.Proper) (h : v.same w = true) : w.same v = true := by
  induction hv generalizing w with
  | @intro v hdistinct _ ih =>
      cases v with
      | null | text _ | bytes _ | date _ =>
          obtain rfl := (same_of_isLiteral rfl).1 h
          exact h
      | bool _ | int _ | float _ =>
          obtain ⟨y, hy, hxy⟩ := (same_of_number? rfl).1 h
          exact (same_of_number? hy).2 ⟨_, rfl, Number.same_symm hxy⟩
      | dateTime t =>
          obtain ⟨t', rfl, ht⟩ := same_dateTime_iff.1 h
          rw [DateTime.same_iff] at ht
          exact same_dateTime_iff.2 ⟨t, rfl, DateTime.same_iff.2 ⟨ht.1.symm, ht.2.symm⟩⟩
      | list xs =>
          obtain ⟨ys, rfl, hxy⟩ := same_list_iff.1 h
          exact same_list_iff.2
            ⟨xs, rfl, forall₂_symm_of (fun x hx y hy => ih x hx (hw.part hy)) hxy⟩
      | tuple xs =>
          obtain ⟨ys, rfl, hxy⟩ := same_tuple_iff.1 h
          exact same_tuple_iff.2
            ⟨xs, rfl, forall₂_symm_of (fun x hx y hy => ih x hx (hw.part hy)) hxy⟩
      | set xs =>
          obtain ⟨ys, rfl, hlength, hxy⟩ := same_set_iff.1 h
          refine same_set_iff.2 ⟨xs, rfl, hlength.symm, fun y hy => ?_⟩
          have hown : xs.Pairwise fun x x' => ∀ y ∈ ys, x.same y = true → ¬ x'.same y = true := by
            refine List.Pairwise.imp_of_mem (fun {x x'} _ hx' hne y hy hxy hxy' => ?_) hdistinct
            exact Bool.false_ne_true (hne.symm.trans (same_trans hxy (ih x' hx' (hw.part hy) hxy')))
          obtain ⟨x, hx, hxy⟩ := exists_mem_of_length_eq hlength hxy hown y hy
          exact ⟨x, hx, ih x hx (hw.part hy) hxy⟩
      | map es =>
          obtain ⟨fs, rfl, hlength, hef⟩ := same_map_iff.1 h
          refine same_map_iff.2 ⟨es, rfl, hlength.symm, fun f hf => ?_⟩
          have hown : es.Pairwise fun e e' => ∀ f ∈ fs, SameEntry e f → ¬ SameEntry e' f := by
            refine List.Pairwise.imp_of_mem (fun {e e'} _ he' hne f hf hef hef' => ?_) hdistinct
            have hback := ih e'.1 (key_mem_parts he') (hw.part (key_mem_parts hf)) hef'.1
            exact Bool.false_ne_true (hne.symm.trans (same_trans hef.1 hback))
          obtain ⟨e, he, hkey, hvalue⟩ := exists_mem_of_length_eq hlength hef hown f hf
          exact ⟨e, he, ih e.1 (key_mem_parts he) (hw.part (key_mem_parts hf)) hkey,
            ih e.2 (value_mem_parts he) (hw.part (value_mem_parts hf)) hvalue⟩
      | prepared kind description =>
          obtain ⟨other, rfl, hsame⟩ := same_prepared_iff.1 h
          exact same_prepared_iff.2 ⟨description, rfl, ih description (List.mem_singleton_self _)
            (hw.part (List.mem_singleton_self other)) hsame⟩

end Proper

/-! ## Reflexivity -/

/-- A value in which everything that is a number is one. -/
abbrev NanFree : Value → Prop := Each fun v => v.isNan = false

lemma number?_same_self {x : Number} (hx : v.number? = some x) (hnan : v.isNan = false) :
    x.same x = true := by
  have hextent : ∃ p, x.extent? = some p := by
    cases v with
    | bool _ | int _ =>
        obtain rfl := Option.some.inj hx
        exact ⟨_, rfl⟩
    | float d =>
        obtain rfl := Option.some.inj hx
        cases d with
        | nan => cases hnan
        | _ => exact ⟨_, rfl⟩
    | _ => cases hx
  exact Number.same_iff.2 (hextent.imp fun _ hp => ⟨hp, hp⟩)

/-- A value without anything that is not a number is the same as itself. -/
theorem same_self (h : v.NanFree) : v.same v = true := by
  induction h with
  | @intro v hnan _ ih =>
      cases v with
      | null | text _ | bytes _ | date _ => exact (same_of_isLiteral rfl).2 rfl
      | bool _ | int _ | float _ =>
          exact (same_of_number? rfl).2 ⟨_, rfl, number?_same_self rfl hnan⟩
      | dateTime t => exact same_dateTime_iff.2 ⟨t, rfl, DateTime.same_iff.2 ⟨rfl, rfl⟩⟩
      | list xs => exact same_list_iff.2 ⟨xs, rfl, List.forall₂_same.2 ih⟩
      | tuple xs => exact same_tuple_iff.2 ⟨xs, rfl, List.forall₂_same.2 ih⟩
      | set xs => exact same_set_iff.2 ⟨xs, rfl, rfl, fun x hx => ⟨x, hx, ih x hx⟩⟩
      | map es =>
          exact same_map_iff.2 ⟨es, rfl, rfl, fun e he =>
            ⟨e, he, ih e.1 (key_mem_parts he), ih e.2 (value_mem_parts he)⟩⟩
      | prepared kind description =>
          exact same_prepared_iff.2 ⟨description, rfl, ih description (List.mem_singleton_self _)⟩

end Value

end FormEngine
