import Mathlib.Tactic.Common
import FormEngine.Json.Decoder

/-!
# Enough fuel for the decoder

Fuel bounds the nesting and the number of items that are read.  Whatever is read takes code points
of the text, so that the place after it lies behind the one where it begins (`Cursor.Behind`), and
the fuel that a text is given never runs out: with enough of it, more makes no difference
(`value_fuel`).  `valueAt` reads a value with enough fuel.
-/

namespace FormEngine.Json

variable {fault : SyntaxCause → Nat → Fault} {close : CloseObject}

/-! ## Places behind others -/

namespace Cursor

variable {c d e : Cursor}

/-- A place lies behind another: what is left there ends what is left at the other, and is less. -/
structure Behind (d c : Cursor) : Prop where
  suffix : d.rest <:+ c.rest
  shorter : d.rest.length < c.rest.length

lemma suffix_advance (n : Nat) : (c.advance n).rest <:+ c.rest := List.drop_suffix n c.rest

lemma suffix_skipSpace (points : List Nat) (index : Nat) :
    (skipSpace points index).rest <:+ points := by
  induction points generalizing index with
  | nil => exact List.suffix_refl []
  | cons p points ih =>
      unfold skipSpace
      split
      · exact (ih _).trans (List.suffix_cons p points)
      · exact List.suffix_refl _

lemma suffix_skip : c.skip.rest <:+ c.rest := suffix_skipSpace c.rest c.index

/-- The place after a code point that follows white space. -/
lemma suffix_skip_advance : (c.skip.advance 1).rest <:+ c.rest :=
  (suffix_advance 1).trans suffix_skip

lemma suffix_skip_advance_skip : (c.skip.advance 1).skip.rest <:+ c.rest :=
  suffix_skip.trans suffix_skip_advance

namespace Behind

lemma of_suffix (h : e.rest <:+ d.rest) (hd : d.Behind c) : e.Behind c :=
  ⟨h.trans hd.suffix, Nat.lt_of_le_of_lt h.length_le hd.shorter⟩

lemma behind_suffix (h : e.Behind d) (hd : d.rest <:+ c.rest) : e.Behind c :=
  ⟨h.suffix.trans hd, Nat.lt_of_lt_of_le h.shorter hd.length_le⟩

lemma trans (h : e.Behind d) (hd : d.Behind c) : e.Behind c := hd.of_suffix h.suffix

lemma advance {n : Nat} (hn : 0 < n) (hc : c.rest ≠ []) : (c.advance n).Behind c := by
  refine ⟨suffix_advance n, ?_⟩
  have hlength : (c.advance n).rest.length = c.rest.length - n := List.length_drop
  have hpos := List.length_pos_iff.2 hc
  omega

/-- What is inside a bracket or a brace lies behind it. -/
lemma inside (hc : c.rest ≠ []) : (c.advance 1).skip.Behind c :=
  (advance Nat.one_pos hc).of_suffix suffix_skip

end Behind

end Cursor

open Cursor (Behind)

/-! ## What is read takes code points -/

lemma behind_of_stringRest {start fuel : Nat} {acc : List Nat} {c : Cursor} {r : List Nat × Cursor}
    (h : stringRest fault start fuel acc c = .ok r) : r.2.Behind c := by
  induction fuel generalizing acc c with
  | zero => cases h
  | succ fuel ih =>
      unfold stringRest at h
      split at h
      · cases h
      next hrest =>
        obtain rfl := Except.ok.inj h
        exact .advance Nat.one_pos (by simp [hrest])
      · cases h
      next hrest =>
        split at h
        · cases h
        · exact (ih h).trans (.advance (by omega) (by simp [hrest]))
      next hrest =>
        split at h
        · cases h
        · exact (ih h).trans (.advance (by omega) (by simp [hrest]))
      next hrest =>
        split at h
        · cases h
        · exact (ih h).trans (.advance Nat.one_pos (by simp [hrest]))

lemma behind_of_string {c : Cursor} {r : Value × Cursor} (h : string fault c = .ok r) :
    r.2.Behind c := by
  unfold string at h
  cases hrest : stringRest fault c.index (c.rest.length + 1) [] (c.advance 1) with
  | error e => simp [hrest, Except.map] at h
  | ok read =>
      rw [hrest] at h
      obtain rfl := Except.ok.inj h
      exact (behind_of_stringRest hrest).behind_suffix (Cursor.suffix_advance 1)

/-! ### Scalars -/

lemma ne_nil_of_startsWith {c : Cursor} {word : String} (hword : word.toList ≠ [])
    (h : c.startsWith word = true) : c.rest ≠ [] := by
  intro hrest
  rw [Cursor.startsWith, hrest, List.isPrefixOf_iff_prefix, List.prefix_nil] at h
  exact hword (List.map_eq_nil_iff.1 h)

lemma toList_ne_nil_of_mem_words {w : String × Value} (h : w ∈ words) :
    w.1.toList ≠ [] ∧ 0 < w.1.length := by
  simp only [words, List.mem_cons, List.not_mem_nil, or_false] at h
  rcases h with rfl | rfl | rfl | rfl | rfl | rfl <;> decide

/-- A number takes at least one code point. -/
lemma size_pos_of_numberShape? {points : List Nat} {shape : NumberShape}
    (h : numberShape? points = some shape) : 0 < shape.size := by
  unfold numberShape? at h
  dsimp only at h
  split_ifs at h with hwhole
  obtain rfl := Option.some.inj h
  have hpos := List.length_pos_iff.2 hwhole
  dsimp only at hpos ⊢
  omega

/-- A number begins with a digit or with a minus sign and a digit. -/
lemma numberShape?_eq_none {p : Nat} {points : List Nat} (hsign : p ≠ 0x2D)
    (hdigit : isDigitPoint p = false) : numberShape? (p :: points) = none := by
  have hdigits : digitsOf (p :: points) = [] := by simp [digitsOf, hdigit]
  have hzero : p ≠ 0x30 := by
    rintro rfl
    cases hdigit
  simp [numberShape?, hsign, hzero, hdigits]

lemma numberShape?_minus {p : Nat} {points : List Nat} (hdigit : isDigitPoint p = false) :
    numberShape? (0x2D :: p :: points) = none := by
  have hdigits : digitsOf (p :: points) = [] := by simp [digitsOf, hdigit]
  have hzero : p ≠ 0x30 := by
    rintro rfl
    cases hdigit
  simp [numberShape?, hzero, hdigits]

lemma numberShape?_nil : numberShape? [] = none := rfl

lemma behind_of_scalar {c : Cursor} {r : Value × Cursor} (h : scalar fault c = .ok r) :
    r.2.Behind c := by
  unfold scalar at h
  split at h
  next word v hfind =>
    obtain rfl := Except.ok.inj h
    obtain ⟨hword, hpos⟩ := toList_ne_nil_of_mem_words (List.mem_of_find?_eq_some hfind)
    have hstarts : c.startsWith word = true :=
      List.find?_some (p := fun w : String × Value => c.startsWith w.1) hfind
    exact .advance hpos (ne_nil_of_startsWith hword hstarts)
  next =>
    split at h
    · cases h
    next shape hshape =>
      cases hvalue : shape.value with
      | error e => simp [hvalue, Except.map] at h
      | ok v =>
          rw [hvalue] at h
          obtain rfl := Except.ok.inj h
          refine .advance (size_pos_of_numberShape? hshape) fun hrest => ?_
          rw [hrest, numberShape?_nil] at hshape
          cases hshape

/-! ### Arrays and objects -/

/-- The place after whatever is read lies behind the one before it. -/
lemma behind_of_read (fuel : Nat) :
    (∀ c r, value fault close fuel c = .ok r → r.2.Behind c) ∧
    (∀ c before r, items fault close fuel before c = .ok r → r.2.Behind c) ∧
    ∀ c before r, members fault close fuel before c = .ok r → r.2.Behind c := by
  induction fuel with
  | zero => exact ⟨nofun, nofun, nofun⟩
  | succ fuel ih =>
      obtain ⟨ihvalue, ihitems, ihmembers⟩ := ih
      refine ⟨fun c r h => ?_, fun c before r h => ?_, fun c before r h => ?_⟩
      · rw [value] at h
        split at h
        · cases h
        · exact behind_of_string h
        next hrest =>
          have hinside : (c.advance 1).skip.Behind c := .inside (by simp [hrest])
          dsimp only at h
          split at h
          · cases hclose : close [] with
            | error e => simp [hclose, Except.map] at h
            | ok v =>
                rw [hclose] at h
                obtain rfl := Except.ok.inj h
                exact hinside.of_suffix (Cursor.suffix_advance 1)
          · cases hms : members fault close fuel [] (c.advance 1).skip with
            | error e => simp [hms] at h
            | ok read =>
                have hread := ihmembers _ _ _ hms
                rw [hms] at h
                obtain ⟨found, after⟩ := read
                cases hclose : close found with
                | error e => simp [hclose, Except.map] at h
                | ok v =>
                    simp only [hclose, Except.map] at h
                    obtain rfl := Except.ok.inj h
                    exact hread.trans hinside
        next hrest =>
          have hinside : (c.advance 1).skip.Behind c := .inside (by simp [hrest])
          dsimp only at h
          split at h
          · obtain rfl := Except.ok.inj h
            exact hinside.of_suffix (Cursor.suffix_advance 1)
          · cases hvs : items fault close fuel [] (c.advance 1).skip with
            | error e => simp [hvs, Except.map] at h
            | ok read =>
                have hread := ihitems _ _ _ hvs
                rw [hvs] at h
                obtain rfl := Except.ok.inj h
                exact hread.trans hinside
        · exact behind_of_scalar h
      · rw [items] at h
        cases hv : value fault close fuel c with
        | error e => simp [hv] at h
        | ok read =>
            have hread := ihvalue c read hv
            rw [hv] at h
            dsimp only at h
            split at h
            · obtain rfl := Except.ok.inj h
              exact hread.of_suffix Cursor.suffix_skip_advance
            · exact (ihitems _ _ _ h).trans (hread.of_suffix Cursor.suffix_skip_advance_skip)
            · cases h
      · rw [members] at h
        split at h
        · cases hkey : string fault c with
          | error e => simp [hkey] at h
          | ok read =>
              have hread := behind_of_string hkey
              rw [hkey] at h
              dsimp only at h
              split at h
              · cases hv : value fault close fuel (read.2.skip.advance 1).skip with
                | error e => simp [hv] at h
                | ok found =>
                    have hfound := (ihvalue _ found hv).trans
                      (hread.of_suffix Cursor.suffix_skip_advance_skip)
                    rw [hv] at h
                    dsimp only at h
                    split at h
                    · obtain rfl := Except.ok.inj h
                      exact hfound.of_suffix Cursor.suffix_skip_advance
                    · exact (ihmembers _ _ _ h).trans
                        (hfound.of_suffix Cursor.suffix_skip_advance_skip)
                    · cases h
              · cases h
        · cases h

/-! ## Enough fuel -/

/-- With fuel for the text that is left, more fuel makes no difference. -/
lemma fuel_succ (fuel : Nat) :
    (∀ c : Cursor, 2 * c.rest.length + 1 ≤ fuel →
      value fault close fuel c = value fault close (fuel + 1) c) ∧
    (∀ (c : Cursor) before, 2 * c.rest.length + 2 ≤ fuel →
      items fault close fuel before c = items fault close (fuel + 1) before c) ∧
    ∀ (c : Cursor) before, 2 * c.rest.length + 2 ≤ fuel →
      members fault close fuel before c = members fault close (fuel + 1) before c := by
  induction fuel with
  | zero => exact ⟨fun c h => by omega, fun c before h => by omega, fun c before h => by omega⟩
  | succ fuel ih =>
      obtain ⟨ihvalue, ihitems, ihmembers⟩ := ih
      refine ⟨fun c h => ?_, fun c before h => ?_, fun c before h => ?_⟩
      · rw [value, value]
        split
        · rfl
        · rfl
        next hrest =>
          have hlt := (Behind.inside (c := c) (by simp [hrest])).shorter
          have hsame := ihmembers (c.advance 1).skip [] (by omega)
          dsimp only
          rw [hsame]
        next hrest =>
          have hlt := (Behind.inside (c := c) (by simp [hrest])).shorter
          have hsame := ihitems (c.advance 1).skip [] (by omega)
          dsimp only
          rw [hsame]
        · rfl
      · rw [items, items, ← ihvalue c (by omega)]
        cases hv : value fault close fuel c with
        | error e => rfl
        | ok read =>
            have hlater := (((behind_of_read fuel).1 c read hv).of_suffix
              Cursor.suffix_skip_advance_skip).shorter
            dsimp only
            rw [ihitems _ _ (by omega)]
      · rw [members, members]
        split
        · cases hkey : string fault c with
          | error e => rfl
          | ok read =>
              have hlater := (behind_of_string hkey).of_suffix Cursor.suffix_skip_advance_skip
              have hshorter := hlater.shorter
              dsimp only
              rw [← ihvalue _ (by omega)]
              cases hv : value fault close fuel (read.2.skip.advance 1).skip with
              | error e => rfl
              | ok found =>
                  have hfound := (((behind_of_read fuel).1 _ found hv).trans hlater).of_suffix
                    Cursor.suffix_skip_advance_skip
                  have hshorter' := hfound.shorter
                  dsimp only
                  rw [ihmembers _ _ (by omega)]
        · rfl

/-- Reads a value with enough fuel. -/
def valueAt (fault : SyntaxCause → Nat → Fault) (close : CloseObject) (c : Cursor) : Step Value :=
  value fault close (2 * c.rest.length + 1) c

/-- With enough fuel a value is read as with any other fuel that is enough. -/
lemma value_fuel (c : Cursor) {fuel : Nat} (h : 2 * c.rest.length + 1 ≤ fuel) :
    value fault close fuel c = valueAt fault close c := by
  induction h with
  | refl => rfl
  | @step fuel h ih => rw [← (fuel_succ fuel).1 c h, ih]

end FormEngine.Json
