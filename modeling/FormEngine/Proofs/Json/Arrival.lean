import Mathlib.Data.List.TakeWhile
import FormEngine.Proofs.Json.Fuel

/-!
# Where the decoder arrives

From the place where a value begins the decoder arrives at the places where the values inside it
begin (`Arrives`), at each of them if all that stands before it has been read.  What is wrong with a
value inside is found by the decoder exactly at these places; `valueAt_eq_tooManyDigits_iff` says so
for an integer that is too long.
-/

namespace FormEngine.Json

open Cursor (Behind)

variable {fault : SyntaxCause → Nat → Fault} {close : CloseObject}

/-! ## Arriving at a value -/

section

variable (fault close)

mutual

/-- From the beginning of a value the decoder arrives at the beginning of a value, the same or one
inside. -/
inductive Arrives : Cursor → Cursor → Prop
  | here (c : Cursor) : Arrives c c
  | inArray {c d : Cursor} : c.rest.head? = some 0x5B →
      (c.advance 1).skip.rest.head? ≠ some 0x5D → ArrivesInItems (c.advance 1).skip d →
      Arrives c d
  | inObject {c d : Cursor} : c.rest.head? = some 0x7B →
      (c.advance 1).skip.rest.head? ≠ some 0x7D → ArrivesInMembers (c.advance 1).skip d →
      Arrives c d

/-- From the beginning of an item it arrives inside that item, or inside a later one if that item
and a comma have been read. -/
inductive ArrivesInItems : Cursor → Cursor → Prop
  | first {c d : Cursor} : Arrives c d → ArrivesInItems c d
  | later {c d after : Cursor} {v : Value} : valueAt fault close c = .ok (v, after) →
      after.skip.rest.head? = some 0x2C → ArrivesInItems (after.skip.advance 1).skip d →
      ArrivesInItems c d

/-- From the beginning of a member it arrives inside its value if the name and a colon have been
read, or inside a later one if that value and a comma have been read as well. -/
inductive ArrivesInMembers : Cursor → Cursor → Prop
  | first {c d colon : Cursor} {name : Value} : c.rest.head? = some 0x22 →
      string fault c = .ok (name, colon) → colon.skip.rest.head? = some 0x3A →
      Arrives (colon.skip.advance 1).skip d → ArrivesInMembers c d
  | later {c d colon after : Cursor} {name v : Value} : c.rest.head? = some 0x22 →
      string fault c = .ok (name, colon) → colon.skip.rest.head? = some 0x3A →
      valueAt fault close (colon.skip.advance 1).skip = .ok (v, after) →
      after.skip.rest.head? = some 0x2C → ArrivesInMembers (after.skip.advance 1).skip d →
      ArrivesInMembers c d

end

end

/-! ### What is left at the places where it arrives -/

mutual

/-- Where the decoder arrives, a part of the text is left. -/
theorem Arrives.suffix : ∀ {c d : Cursor}, Arrives fault close c d → d.rest <:+ c.rest
  | _, _, .here _ => List.suffix_refl _
  | _, _, .inArray _ _ h => h.suffix.trans (Cursor.suffix_skip.trans (Cursor.suffix_advance 1))
  | _, _, .inObject _ _ h => h.suffix.trans (Cursor.suffix_skip.trans (Cursor.suffix_advance 1))

/-- The same of items. -/
theorem ArrivesInItems.suffix :
    ∀ {c d : Cursor}, ArrivesInItems fault close c d → d.rest <:+ c.rest
  | _, _, .first h => h.suffix
  | _, _, .later hv _ h =>
      (h.suffix.trans Cursor.suffix_skip_advance_skip).trans ((behind_of_read _).1 _ _ hv).suffix

/-- The same of members. -/
theorem ArrivesInMembers.suffix :
    ∀ {c d : Cursor}, ArrivesInMembers fault close c d → d.rest <:+ c.rest
  | _, _, .first _ hname _ h =>
      (h.suffix.trans Cursor.suffix_skip_advance_skip).trans (behind_of_string hname).suffix
  | _, _, .later _ hname _ hv _ h =>
      ((h.suffix.trans Cursor.suffix_skip_advance_skip).trans
        ((behind_of_read _).1 _ _ hv).suffix).trans
        (Cursor.suffix_skip_advance_skip.trans (behind_of_string hname).suffix)

end

/-! ### One step at a time -/

variable {P : Cursor → Prop}

lemma exists_arrives_iff {c : Cursor} :
    (∃ d, Arrives fault close c d ∧ P d) ↔
      P c ∨
      (c.rest.head? = some 0x5B ∧ (c.advance 1).skip.rest.head? ≠ some 0x5D ∧
        ∃ d, ArrivesInItems fault close (c.advance 1).skip d ∧ P d) ∨
      (c.rest.head? = some 0x7B ∧ (c.advance 1).skip.rest.head? ≠ some 0x7D ∧
        ∃ d, ArrivesInMembers fault close (c.advance 1).skip d ∧ P d) := by
  constructor
  · rintro ⟨d, h, hd⟩
    cases h with
    | here => exact .inl hd
    | inArray hopen hclose h => exact .inr (.inl ⟨hopen, hclose, d, h, hd⟩)
    | inObject hopen hclose h => exact .inr (.inr ⟨hopen, hclose, d, h, hd⟩)
  · rintro (hc | ⟨hopen, hclose, d, h, hd⟩ | ⟨hopen, hclose, d, h, hd⟩)
    · exact ⟨c, .here c, hc⟩
    · exact ⟨d, .inArray hopen hclose h, hd⟩
    · exact ⟨d, .inObject hopen hclose h, hd⟩

lemma exists_arrivesInItems_iff {c : Cursor} :
    (∃ d, ArrivesInItems fault close c d ∧ P d) ↔
      (∃ d, Arrives fault close c d ∧ P d) ∨
      ∃ v after, valueAt fault close c = .ok (v, after) ∧ after.skip.rest.head? = some 0x2C ∧
        ∃ d, ArrivesInItems fault close (after.skip.advance 1).skip d ∧ P d := by
  constructor
  · rintro ⟨d, h, hd⟩
    cases h with
    | first h => exact .inl ⟨d, h, hd⟩
    | later hv hcomma h => exact .inr ⟨_, _, hv, hcomma, d, h, hd⟩
  · rintro (⟨d, h, hd⟩ | ⟨v, after, hv, hcomma, d, h, hd⟩)
    · exact ⟨d, .first h, hd⟩
    · exact ⟨d, .later hv hcomma h, hd⟩

lemma exists_arrivesInMembers_iff {c : Cursor} :
    (∃ d, ArrivesInMembers fault close c d ∧ P d) ↔
      ∃ name colon, c.rest.head? = some 0x22 ∧ string fault c = .ok (name, colon) ∧
        colon.skip.rest.head? = some 0x3A ∧
        ((∃ d, Arrives fault close (colon.skip.advance 1).skip d ∧ P d) ∨
        ∃ v after, valueAt fault close (colon.skip.advance 1).skip = .ok (v, after) ∧
          after.skip.rest.head? = some 0x2C ∧
          ∃ d, ArrivesInMembers fault close (after.skip.advance 1).skip d ∧ P d) := by
  constructor
  · rintro ⟨d, h, hd⟩
    cases h with
    | first hquote hname hcolon h => exact ⟨_, _, hquote, hname, hcolon, .inl ⟨d, h, hd⟩⟩
    | later hquote hname hcolon hv hcomma h =>
        exact ⟨_, _, hquote, hname, hcolon, .inr ⟨_, _, hv, hcomma, d, h, hd⟩⟩
  · rintro ⟨name, colon, hquote, hname, hcolon, ⟨d, h, hd⟩ | ⟨v, after, hv, hcomma, d, h, hd⟩⟩
    · exact ⟨d, .first hquote hname hcolon h, hd⟩
    · exact ⟨d, .later hquote hname hcolon hv hcomma h, hd⟩

/-! ## Integers that are too long -/

/-- The longest number that a text opens with is an integer with so many digits. -/
def OpensWithInteger (points : List Nat) (digits : Nat) : Prop :=
  ∃ shape, numberShape? points = some shape ∧ shape.fraction = none ∧ shape.exponent = none ∧
    shape.whole.length = digits

/-- At a place there is an integer with so many digits, which are too many. -/
def TooLongAt (digits : Nat) (c : Cursor) : Prop :=
  digitLimit < digits ∧ OpensWithInteger c.rest digits

/-- The digits of a number stand next to each other in the text that it opens. -/
lemma exists_digits_of_numberShape? {points : List Nat} {shape : NumberShape}
    (h : numberShape? points = some shape) :
    ∃ digits, digits <:+: points ∧ digits.length = shape.whole.length ∧
      ∀ p ∈ digits, isDigitPoint p = true := by
  unfold numberShape? at h
  dsimp only at h
  split_ifs at h
  obtain rfl := Option.some.inj h
  dsimp only
  -- what follows the sign
  generalize hunsigned : points.drop _ = unsigned
  have hsuffix : unsigned <:+ points := hunsigned ▸ List.drop_suffix _ _
  split
  next rest =>
    have hprefix : [0x30] <+: 0x30 :: rest := ⟨rest, rfl⟩
    exact ⟨[0x30], hprefix.isInfix.trans hsuffix.isInfix, rfl, List.forall_mem_singleton.2 rfl⟩
  next =>
    have hprefix := List.takeWhile_prefix (l := unsigned) isDigitPoint
    exact ⟨_, hprefix.isInfix.trans hsuffix.isInfix, by simp [digitsOf],
      fun p hp => List.mem_takeWhile_imp hp⟩

lemma TooLongAt.exists_digits {n : Nat} {c : Cursor} (h : TooLongAt n c) :
    ∃ digits, digits <:+: c.rest ∧ digits.length = n ∧ ∀ p ∈ digits, isDigitPoint p = true := by
  obtain ⟨-, shape, hshape, -, -, rfl⟩ := h
  exact exists_digits_of_numberShape? hshape

lemma value_eq_tooManyDigits_iff {shape : NumberShape} {n : Nat} :
    shape.value = .error (.tooManyDigits n) ↔
      digitLimit < n ∧ shape.fraction = none ∧ shape.exponent = none ∧ shape.whole.length = n := by
  unfold NumberShape.value
  by_cases hfloat : (shape.fraction.isSome || shape.exponent.isSome) = true
  · rw [if_pos hfloat]
    refine iff_of_false nofun ?_
    rintro ⟨-, hfraction, hexponent, -⟩
    simp [hfraction, hexponent] at hfloat
  · rw [if_neg hfloat]
    have hinteger : shape.fraction = none ∧ shape.exponent = none := by simpa using hfloat
    by_cases hlong : digitLimit < shape.whole.length
    · rw [if_pos hlong]
      simp only [Except.error.injEq, Fault.tooManyDigits.injEq, hinteger, true_and]
      exact ⟨fun h => ⟨h ▸ hlong, h⟩, And.right⟩
    · rw [if_neg hlong]
      refine iff_of_false nofun ?_
      rintro ⟨hn, -, -, rfl⟩
      exact hlong hn

/-- Words are no numbers. -/
lemma numberShape?_of_startsWith {c : Cursor} {w : String × Value} (hw : w ∈ words)
    (h : c.startsWith w.1 = true) : numberShape? c.rest = none := by
  rw [Cursor.startsWith, List.isPrefixOf_iff_prefix] at h
  obtain ⟨after, hafter⟩ := h
  rw [← hafter]
  simp only [words, List.mem_cons, List.not_mem_nil, or_false] at hw
  rcases hw with rfl | rfl | rfl | rfl | rfl | rfl
  iterate 5 exact numberShape?_eq_none (by decide) rfl
  exact numberShape?_minus rfl

lemma scalar_eq_tooManyDigits_iff {c : Cursor} {n : Nat}
    (hfault : ∀ cause i n, fault cause i ≠ .tooManyDigits n) :
    scalar fault c = .error (.tooManyDigits n) ↔ TooLongAt n c := by
  unfold scalar
  split
  next word v hfind =>
    have hstarts : c.startsWith word = true :=
      List.find?_some (p := fun w : String × Value => c.startsWith w.1) hfind
    have hnone := numberShape?_of_startsWith (List.mem_of_find?_eq_some hfind) hstarts
    refine iff_of_false nofun ?_
    rintro ⟨-, shape, hshape, -⟩
    rw [hnone] at hshape
    cases hshape
  next =>
    split
    next hnone =>
      refine iff_of_false (fun h => hfault _ _ _ (Except.error.inj h)) ?_
      rintro ⟨-, shape, hshape, -⟩
      rw [hnone] at hshape
      cases hshape
    next shape hshape =>
      have hvalue : shape.value.map (fun v => (v, c.advance shape.size)) =
          .error (.tooManyDigits n) ↔ shape.value = .error (.tooManyDigits n) := by
        cases shape.value <;> simp [Except.map]
      simp only [hvalue, value_eq_tooManyDigits_iff, TooLongAt, OpensWithInteger, hshape,
        Option.some.injEq, exists_eq_left']

lemma string_ne_tooManyDigits {c : Cursor} {n : Nat}
    (hfault : ∀ cause i n, fault cause i ≠ .tooManyDigits n) :
    string fault c ≠ .error (.tooManyDigits n) := by
  have hescape : ∀ {d : Cursor} {e : Fault}, unicodeEscape fault d = .error e →
      e ≠ .tooManyDigits n := by
    intro d e h
    unfold unicodeEscape at h
    split at h
    · exact Except.error.inj h ▸ hfault _ _ _
    split at h
    · exact Except.error.inj h ▸ hfault _ _ _
    dsimp only at h
    split at h
    · split at h
      · exact Except.error.inj h ▸ hfault _ _ _
      · split at h <;> cases h
    · cases h
  have hrest : ∀ (fuel : Nat) (acc : List Nat) (d : Cursor),
      stringRest fault c.index fuel acc d ≠ .error (.tooManyDigits n) := by
    intro fuel
    induction fuel with
    | zero => exact fun acc d h => hfault _ _ _ (Except.error.inj h)
    | succ fuel ih =>
        intro acc d h
        unfold stringRest at h
        split at h
        · exact hfault _ _ _ (Except.error.inj h)
        · cases h
        · exact hfault _ _ _ (Except.error.inj h)
        · split at h
          next he => exact hescape he (Except.error.inj h)
          next => exact ih _ _ h
        · split at h
          · exact hfault _ _ _ (Except.error.inj h)
          · exact ih _ _ h
        · split at h
          · exact hfault _ _ _ (Except.error.inj h)
          · exact ih _ _ h
  intro h
  unfold string at h
  cases hread : stringRest fault c.index (c.rest.length + 1) [] (c.advance 1) with
  | error e =>
      rw [hread] at h
      exact hrest _ _ _ (hread.trans (congrArg _ (Except.error.inj h)))
  | ok r => simp [hread, Except.map] at h

lemma not_tooLongAt {c : Cursor} {n p : Nat} {points : List Nat} (hrest : c.rest = p :: points)
    (hsign : p ≠ 0x2D) (hdigit : isDigitPoint p = false) : ¬ TooLongAt n c := by
  rintro ⟨-, shape, hshape, -⟩
  rw [hrest, numberShape?_eq_none hsign hdigit] at hshape
  cases hshape

lemma head?_ne_of_forall {a : Nat} {points : List Nat}
    (h : ∀ tail, points = a :: tail → False) : points.head? ≠ some a := by
  cases points with
  | nil => nofun
  | cons p points =>
      intro heq
      obtain rfl := Option.some.inj heq
      exact h points rfl

section

variable {n : Nat} (hfault : ∀ cause i n, fault cause i ≠ .tooManyDigits n)
  (hclose : ∀ ms, close ms ≠ .error (.tooManyDigits n))

include hclose in
lemma map_close_ne {ms : Members} {after : Cursor} :
    (close ms).map (fun v => (v, after)) ≠ .error (.tooManyDigits n) := by
  intro h
  cases hms : close ms with
  | error e =>
      rw [hms] at h
      exact hclose ms (hms.trans (congrArg _ (Except.error.inj h)))
  | ok v => simp [hms, Except.map] at h

section

variable {fuel : Nat}
  (ihvalue : ∀ c : Cursor, 2 * c.rest.length + 1 ≤ fuel →
    (value fault close fuel c = .error (.tooManyDigits n) ↔
      ∃ d, Arrives fault close c d ∧ TooLongAt n d))
  (ihitems : ∀ (c : Cursor) before, 2 * c.rest.length + 2 ≤ fuel →
    (items fault close fuel before c = .error (.tooManyDigits n) ↔
      ∃ d, ArrivesInItems fault close c d ∧ TooLongAt n d))
  (ihmembers : ∀ (c : Cursor) before, 2 * c.rest.length + 2 ≤ fuel →
    (members fault close fuel before c = .error (.tooManyDigits n) ↔
      ∃ d, ArrivesInMembers fault close c d ∧ TooLongAt n d))

include hfault hclose ihitems ihmembers in
lemma value_step (c : Cursor) (h : 2 * c.rest.length + 1 ≤ fuel + 1) :
    value fault close (fuel + 1) c = .error (.tooManyDigits n) ↔
      ∃ d, Arrives fault close c d ∧ TooLongAt n d := by
  rw [value, exists_arrives_iff]
  split
  next hrest =>
    refine iff_of_false (fun h => hfault _ _ _ (Except.error.inj h)) ?_
    rintro (⟨-, shape, hshape, -⟩ | ⟨hhead, -⟩ | ⟨hhead, -⟩)
    · rw [hrest, numberShape?_nil] at hshape
      cases hshape
    · simp [hrest] at hhead
    · simp [hrest] at hhead
  next hrest =>
    refine iff_of_false (string_ne_tooManyDigits hfault) ?_
    rintro (hlong | ⟨hhead, -⟩ | ⟨hhead, -⟩)
    · exact not_tooLongAt hrest (by decide) rfl hlong
    · simp [hrest] at hhead
    · simp [hrest] at hhead
  next hrest =>
    have hlt := (Behind.inside (c := c) (by simp [hrest])).shorter
    have hnumber : ¬ TooLongAt n c := not_tooLongAt hrest (by decide) rfl
    simp only [hnumber, hrest, List.head?_cons, Option.some.injEq, Nat.reduceEqDiff, false_and,
      false_or, true_and]
    split
    next hend => simpa [hend] using map_close_ne hclose
    next hend =>
      rw [← ihmembers _ [] (by omega), and_iff_right (head?_ne_of_forall hend)]
      cases members fault close fuel [] (c.advance 1).skip with
      | error e => simp
      | ok read => simpa using map_close_ne hclose
  next hrest =>
    have hlt := (Behind.inside (c := c) (by simp [hrest])).shorter
    have hnumber : ¬ TooLongAt n c := not_tooLongAt hrest (by decide) rfl
    simp only [hnumber, hrest, List.head?_cons, Option.some.injEq, Nat.reduceEqDiff, false_and,
      false_or, or_false, true_and]
    split
    next hend => simp [hend]
    next hend =>
      rw [← ihitems _ [] (by omega), and_iff_right (head?_ne_of_forall hend)]
      cases items fault close fuel [] (c.advance 1).skip <;> simp [Except.map]
  next hobject harray =>
    rw [scalar_eq_tooManyDigits_iff hfault]
    have hnoArray : c.rest.head? ≠ some 0x5B := head?_ne_of_forall harray
    have hnoObject : c.rest.head? ≠ some 0x7B := head?_ne_of_forall hobject
    simp [hnoArray, hnoObject]

include hfault ihvalue ihitems in
lemma items_step (c : Cursor) (before : List Value) (h : 2 * c.rest.length + 2 ≤ fuel + 1) :
    items fault close (fuel + 1) before c = .error (.tooManyDigits n) ↔
      ∃ d, ArrivesInItems fault close c d ∧ TooLongAt n d := by
  have hfuel : 2 * c.rest.length + 1 ≤ fuel := by omega
  rw [items, exists_arrivesInItems_iff, ← ihvalue c hfuel, ← value_fuel c hfuel]
  cases hv : value fault close fuel c with
  | error e => simp
  | ok read =>
      obtain ⟨v, after⟩ := read
      have hlater := (((behind_of_read fuel).1 c _ hv).of_suffix
        (after.suffix_skip_advance_skip)).shorter
      simp only [reduceCtorEq, false_or, Except.ok.injEq, Prod.mk.injEq, and_assoc, exists_and_left,
        exists_eq_left']
      split
      next hend => simp [hend]
      next hcomma => simpa [hcomma] using ihitems _ (v :: before) (by omega)
      next hend hcomma =>
        refine iff_of_false (fun h => hfault _ _ _ (Except.error.inj h)) ?_
        rintro ⟨hhead, -⟩
        exact head?_ne_of_forall hcomma hhead

include hfault ihvalue ihmembers in
lemma members_step (c : Cursor) (before : Members) (h : 2 * c.rest.length + 2 ≤ fuel + 1) :
    members fault close (fuel + 1) before c = .error (.tooManyDigits n) ↔
      ∃ d, ArrivesInMembers fault close c d ∧ TooLongAt n d := by
  rw [members, exists_arrivesInMembers_iff]
  split
  next hquote =>
    simp only [hquote, List.head?_cons, true_and]
    cases hname : string fault c with
    | error e => simpa [hname] using string_ne_tooManyDigits (c := c) hfault
    | ok name =>
        obtain ⟨name, colon⟩ := name
        have hlater := (behind_of_string hname).of_suffix colon.suffix_skip_advance_skip
        have hshorter := hlater.shorter
        simp only [Except.ok.injEq, Prod.mk.injEq, and_assoc, exists_and_left, exists_eq_left']
        split
        next hcolon =>
          have hfuel : 2 * (colon.skip.advance 1).skip.rest.length + 1 ≤ fuel := by omega
          rw [← ihvalue _ hfuel, ← value_fuel _ hfuel]
          simp only [hcolon, List.head?_cons, true_and]
          cases hv : value fault close fuel (colon.skip.advance 1).skip with
          | error e => simp
          | ok read =>
              obtain ⟨v, after⟩ := read
              have hlater' := ((((behind_of_read fuel).1 _ _ hv).trans hlater).of_suffix
                after.suffix_skip_advance_skip).shorter
              simp only [reduceCtorEq, false_or, Except.ok.injEq, Prod.mk.injEq, and_assoc,
                exists_and_left, exists_eq_left']
              split
              next hend => simp [hend]
              next hcomma => simpa [hcomma] using ihmembers _ ((name, v) :: before) (by omega)
              next hend hcomma =>
                refine iff_of_false (fun h => hfault _ _ _ (Except.error.inj h)) ?_
                rintro ⟨hhead, -⟩
                exact head?_ne_of_forall hcomma hhead
        next hcolon =>
          refine iff_of_false (fun h => hfault _ _ _ (Except.error.inj h)) ?_
          rintro ⟨hhead, -⟩
          exact head?_ne_of_forall hcolon hhead
  next hquote =>
    refine iff_of_false (fun h => hfault _ _ _ (Except.error.inj h)) ?_
    rintro ⟨-, -, hhead, -⟩
    exact head?_ne_of_forall hquote hhead

end

include hfault hclose in
/-- Reading a value ends with an integer that is too long exactly if the decoder arrives at one. -/
theorem valueAt_eq_tooManyDigits_iff (c : Cursor) :
    valueAt fault close c = .error (.tooManyDigits n) ↔
      ∃ d, Arrives fault close c d ∧ TooLongAt n d := by
  have hread : ∀ fuel : Nat,
      (∀ c : Cursor, 2 * c.rest.length + 1 ≤ fuel →
        (value fault close fuel c = .error (.tooManyDigits n) ↔
          ∃ d, Arrives fault close c d ∧ TooLongAt n d)) ∧
      (∀ (c : Cursor) before, 2 * c.rest.length + 2 ≤ fuel →
        (items fault close fuel before c = .error (.tooManyDigits n) ↔
          ∃ d, ArrivesInItems fault close c d ∧ TooLongAt n d)) ∧
      ∀ (c : Cursor) before, 2 * c.rest.length + 2 ≤ fuel →
        (members fault close fuel before c = .error (.tooManyDigits n) ↔
          ∃ d, ArrivesInMembers fault close c d ∧ TooLongAt n d) := by
    intro fuel
    induction fuel with
    | zero => exact ⟨fun c h => by omega, fun c before h => by omega, fun c before h => by omega⟩
    | succ fuel ih =>
        obtain ⟨ihvalue, ihitems, ihmembers⟩ := ih
        exact ⟨value_step hfault hclose ihitems ihmembers, items_step hfault ihvalue ihitems,
          members_step hfault ihvalue ihmembers⟩
  exact (hread _).1 c (Nat.le_refl _)

end

end FormEngine.Json
