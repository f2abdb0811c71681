import FormEngine.Json.Decoder
import Mathlib.Tactic.Common

/-!
# JSON documents with nothing lost

What an object becomes is decided as it closes, while the rest of the document has yet to be read.
`keepAll` decides nothing: it keeps the members as they are written, and decoding with it gives the
whole document.  Decoding with any other choice is the same as going over that document afterwards,
objects inside others first (`rebuild`, `Source.decode_of_whole`), so that what a choice does can be
told without the decoder.

`objects` lists the objects of a document in the order in which they close.
-/

namespace FormEngine.Json

variable {fault : SyntaxCause → Nat → Fault} {close : CloseObject}

/-- The members of an object as they are written, repeated keys included. -/
def keepAll : CloseObject := fun members => .ok (.map members)

/-! ## Closing the objects of a document afterwards -/

mutual

/-- Closes the objects in a document, those inside others first. -/
def rebuild (close : CloseObject) : Value → Except Fault Value
  | .list items => (rebuildItems close items).map .list
  | .map members => (rebuildMembers close members).bind close
  | v => .ok v

/-- Closes the objects in the items of an array. -/
def rebuildItems (close : CloseObject) : List Value → Except Fault (List Value)
  | [] => .ok []
  | v :: vs => (rebuild close v).bind fun w => (rebuildItems close vs).map (w :: ·)

/-- Closes the objects in the members of an object. -/
def rebuildMembers (close : CloseObject) : Members → Except Fault Members
  | [] => .ok []
  | m :: ms => (rebuild close m.2).bind fun w => (rebuildMembers close ms).map ((m.1, w) :: ·)

end

/-! ## The decoder without what it has read before -/

/-- What has been read before only stands in front of the items that follow. -/
lemma items_before (fuel : Nat) (before : List Value) (c : Cursor) :
    items fault close fuel before c =
      (items fault close fuel [] c).map fun r => (before.reverse ++ r.1, r.2) := by
  induction fuel generalizing before c with
  | zero => rfl
  | succ fuel ih =>
      rw [items, items]
      cases value fault close fuel c with
      | error e => rfl
      | ok r =>
          obtain ⟨item, after⟩ := r
          dsimp only
          split
          · simp [Except.map]
          · rw [ih (item :: before), ih [item]]
            cases items fault close fuel [] (after.skip.advance 1).skip <;> simp [Except.map]
          · rfl

lemma members_before (fuel : Nat) (before : Members) (c : Cursor) :
    members fault close fuel before c =
      (members fault close fuel [] c).map fun r => (before.reverse ++ r.1, r.2) := by
  induction fuel generalizing before c with
  | zero => rfl
  | succ fuel ih =>
      rw [members, members]
      split
      · cases string fault c with
        | error e => rfl
        | ok r =>
            obtain ⟨key, after⟩ := r
            dsimp only
            split
            · cases value fault close fuel (after.skip.advance 1).skip with
              | error e => rfl
              | ok r =>
                  obtain ⟨v, after⟩ := r
                  dsimp only
                  split
                  · simp [Except.map]
                  · rw [ih ((key, v) :: before), ih [(key, v)]]
                    cases members fault close fuel [] (after.skip.advance 1).skip <;>
                      simp [Except.map]
                  · rfl
            · rfl
      · rfl

/-- What has been read before comes first. -/
lemma exists_items {fuel : Nat} {v : Value} {c : Cursor} {r : List Value × Cursor}
    (h : items fault close fuel [v] c = .ok r) : ∃ vs, r.1 = v :: vs := by
  rw [items_before] at h
  cases hrest : items fault close fuel [] c with
  | error e => simp [hrest, Except.map] at h
  | ok rest =>
      rw [hrest] at h
      obtain rfl := Except.ok.inj h
      exact ⟨rest.1, rfl⟩

lemma exists_members {fuel : Nat} {m : Value × Value} {c : Cursor} {r : Members × Cursor}
    (h : members fault close fuel [m] c = .ok r) : ∃ ms, r.1 = m :: ms := by
  rw [members_before] at h
  cases hrest : members fault close fuel [] c with
  | error e => simp [hrest, Except.map] at h
  | ok rest =>
      rw [hrest] at h
      obtain rfl := Except.ok.inj h
      exact ⟨rest.1, rfl⟩

/-! ## Following the whole document -/

/-- One way to decode follows another if it ends at the same place with what has been built from
the result, and fails where the other fails. -/
def Follows {α β : Type} (build : α → Except Fault β) (whole : Step α) (step : Step β) : Prop :=
  match whole with
  | .ok (a, after) => step = (build a).map fun b => (b, after)
  | .error _ => ∃ e, step = .error e

lemma Follows.cases {α β : Type} {build : α → Except Fault β} {whole : Step α} {step : Step β}
    (h : Follows build whole step) :
    (∃ e e', whole = .error e ∧ step = .error e') ∨
      ∃ a after, whole = .ok (a, after) ∧ step = (build a).map fun b => (b, after) := by
  cases whole with
  | error e =>
      obtain ⟨e', he'⟩ := h
      exact .inl ⟨e, e', rfl, he'⟩
  | ok r => exact .inr ⟨r.1, r.2, rfl, h⟩

/-- A fault may come before the end of what it is found in. -/
lemma follows_error {α β : Type} {build : α → Except Fault β} {whole : Step α} {e : Fault}
    (h : ∀ r, whole = .ok r → build r.1 = .error e) : Follows build whole (.error e) := by
  cases whole with
  | error e' => exact ⟨e, rfl⟩
  | ok r => simp [Follows, h r rfl, Except.map]

lemma follows_same {step : Step Value} (h : ∀ r, step = .ok r → rebuild close r.1 = .ok r.1) :
    Follows (rebuild close) step step := by
  cases step with
  | error e => exact ⟨e, rfl⟩
  | ok r => simp [Follows, h r rfl, Except.map]

/-! ### Values without objects -/

/-- A value that is no array and no object. -/
def IsAtom : Value → Prop
  | .list _ => False
  | .map _ => False
  | _ => True

lemma IsAtom.rebuild_eq {v : Value} (h : IsAtom v) : rebuild close v = .ok v := by
  cases v <;> first | rfl | cases h

lemma isAtom_of_mem_words {word : String} {v : Value} (h : (word, v) ∈ words) : IsAtom v := by
  simp only [words, List.mem_cons, Prod.mk.injEq, List.not_mem_nil, or_false] at h
  rcases h with ⟨-, rfl⟩ | ⟨-, rfl⟩ | ⟨-, rfl⟩ | ⟨-, rfl⟩ | ⟨-, rfl⟩ | ⟨-, rfl⟩ <;> trivial

lemma isAtom_of_number {shape : NumberShape} {v : Value} (h : shape.value = .ok v) :
    IsAtom v := by
  unfold NumberShape.value at h
  by_cases hfloat : (shape.fraction.isSome || shape.exponent.isSome) = true
  · rw [if_pos hfloat] at h
    obtain rfl := Except.ok.inj h
    trivial
  · rw [if_neg hfloat] at h
    by_cases hlong : digitLimit < shape.whole.length
    · rw [if_pos hlong] at h
      cases h
    · rw [if_neg hlong] at h
      obtain rfl := Except.ok.inj h
      trivial

lemma isAtom_of_scalar {c : Cursor} {r : Value × Cursor} (h : scalar fault c = .ok r) :
    IsAtom r.1 := by
  unfold scalar at h
  split at h
  next word v hfind =>
    obtain rfl := Except.ok.inj h
    exact isAtom_of_mem_words (List.mem_of_find?_eq_some hfind)
  next =>
    split at h
    · cases h
    next shape hshape =>
      cases hvalue : shape.value with
      | error e => simp [hvalue, Except.map] at h
      | ok v =>
          rw [hvalue] at h
          obtain rfl := Except.ok.inj h
          exact isAtom_of_number hvalue

/-- What stands between quotes is a text. -/
lemma exists_points_of_string {c : Cursor} {r : Value × Cursor} (h : string fault c = .ok r) :
    ∃ points, r.1 = .ofPoints points := by
  unfold string at h
  cases hrest : stringRest fault c.index (c.rest.length + 1) [] (c.advance 1) with
  | error e => simp [hrest, Except.map] at h
  | ok read =>
      rw [hrest] at h
      obtain rfl := Except.ok.inj h
      exact ⟨read.1, rfl⟩

lemma isAtom_ofPoints (points : List Nat) : IsAtom (.ofPoints points) := trivial

lemma points?_ofPoints (points : List Nat) : (Value.ofPoints points).points?.isSome := rfl

lemma isAtom_of_string {c : Cursor} {r : Value × Cursor} (h : string fault c = .ok r) :
    IsAtom r.1 := by
  obtain ⟨points, hpoints⟩ := exists_points_of_string h
  exact hpoints ▸ isAtom_ofPoints points

/-! ### Arrays and objects -/

section

variable {fuel : Nat}
  (ihvalue : ∀ c, Follows (rebuild close) (value fault keepAll fuel c) (value fault close fuel c))
  (ihitems : ∀ c, Follows (rebuildItems close) (items fault keepAll fuel [] c)
    (items fault close fuel [] c))
  (ihmembers : ∀ c, Follows (rebuildMembers close) (members fault keepAll fuel [] c)
    (members fault close fuel [] c))

include ihitems ihmembers in
lemma value_follows (c : Cursor) :
    Follows (rebuild close) (value fault keepAll (fuel + 1) c)
      (value fault close (fuel + 1) c) := by
  rw [value, value]
  split
  · exact ⟨_, rfl⟩
  · exact follows_same fun r hr => (isAtom_of_string hr).rebuild_eq
  · dsimp only
    split
    · simp [Follows, keepAll, rebuild, rebuildMembers, Except.map, Except.bind]
    · obtain ⟨e, e', hwhole, hstep⟩ | ⟨ms, after, hwhole, hstep⟩ :=
        (ihmembers (c.advance 1).skip).cases
      · rw [hwhole, hstep]
        exact ⟨e', rfl⟩
      · rw [hwhole, hstep]
        cases hms : rebuildMembers close ms <;>
          simp [Follows, keepAll, rebuild, hms, Except.map, Except.bind]
  · dsimp only
    split
    · simp [Follows, rebuild, rebuildItems, Except.map]
    · obtain ⟨e, e', hwhole, hstep⟩ | ⟨vs, after, hwhole, hstep⟩ :=
        (ihitems (c.advance 1).skip).cases
      · rw [hwhole, hstep]
        exact ⟨e', rfl⟩
      · rw [hwhole, hstep]
        cases hvs : rebuildItems close vs <;> simp [Follows, rebuild, hvs, Except.map]
  · exact follows_same fun r hr => (isAtom_of_scalar hr).rebuild_eq

include ihvalue ihitems in
lemma items_follows (c : Cursor) :
    Follows (rebuildItems close) (items fault keepAll (fuel + 1) [] c)
      (items fault close (fuel + 1) [] c) := by
  rw [items, items]
  obtain ⟨e, e', hwhole, hstep⟩ | ⟨v, after, hwhole, hstep⟩ := (ihvalue c).cases
  · rw [hwhole, hstep]
    exact ⟨e', rfl⟩
  · rw [hwhole, hstep]
    cases hv : rebuild close v with
    | error e =>
        refine follows_error fun r hr => ?_
        have hfirst : ∃ vs, r.1 = v :: vs := by
          dsimp only at hr
          split at hr
          · obtain rfl := Except.ok.inj hr
            exact ⟨[], rfl⟩
          · exact exists_items hr
          · cases hr
        obtain ⟨vs, hvs⟩ := hfirst
        simp [hvs, rebuildItems, hv, Except.bind]
    | ok w =>
        simp only [Except.map]
        split
        · simp [Follows, rebuildItems, hv, Except.bind, Except.map]
        · rw [items_before, items_before fuel [w]]
          obtain ⟨e, e', hwhole, hstep⟩ | ⟨vs, after, hwhole, hstep⟩ :=
            (ihitems (after.skip.advance 1).skip).cases
          · rw [hwhole, hstep]
            exact ⟨e', rfl⟩
          · rw [hwhole, hstep]
            cases hvs : rebuildItems close vs <;>
              simp [Follows, rebuildItems, hv, hvs, Except.bind, Except.map]
        · exact ⟨_, rfl⟩

include ihvalue ihmembers in
lemma members_follows (c : Cursor) :
    Follows (rebuildMembers close) (members fault keepAll (fuel + 1) [] c)
      (members fault close (fuel + 1) [] c) := by
  rw [members, members]
  split
  · cases string fault c with
    | error e => exact ⟨e, rfl⟩
    | ok r =>
        obtain ⟨key, colon⟩ := r
        dsimp only
        split
        · obtain ⟨e, e', hwhole, hstep⟩ | ⟨v, after, hwhole, hstep⟩ :=
            (ihvalue (colon.skip.advance 1).skip).cases
          · rw [hwhole, hstep]
            exact ⟨e', rfl⟩
          · rw [hwhole, hstep]
            cases hv : rebuild close v with
            | error e =>
                refine follows_error fun r hr => ?_
                have hfirst : ∃ ms, r.1 = (key, v) :: ms := by
                  dsimp only at hr
                  split at hr
                  · obtain rfl := Except.ok.inj hr
                    exact ⟨[], rfl⟩
                  · exact exists_members hr
                  · cases hr
                obtain ⟨ms, hms⟩ := hfirst
                simp [hms, rebuildMembers, hv, Except.bind]
            | ok w =>
                simp only [Except.map]
                split
                · simp [Follows, rebuildMembers, hv, Except.bind, Except.map]
                · rw [members_before, members_before fuel [(key, w)]]
                  obtain ⟨e, e', hwhole, hstep⟩ | ⟨ms, after, hwhole, hstep⟩ :=
                    (ihmembers (after.skip.advance 1).skip).cases
                  · rw [hwhole, hstep]
                    exact ⟨e', rfl⟩
                  · rw [hwhole, hstep]
                    cases hms : rebuildMembers close ms <;>
                      simp [Follows, rebuildMembers, hv, hms, Except.bind, Except.map]
                · exact ⟨_, rfl⟩
        · exact ⟨_, rfl⟩
  · exact ⟨_, rfl⟩

end

/-- Decoding with any choice follows the document with nothing lost: its values, the items of its
arrays and the members of its objects. -/
lemma follows (close : CloseObject) (fuel : Nat) :
    (∀ c, Follows (rebuild close) (value fault keepAll fuel c) (value fault close fuel c)) ∧
    (∀ c, Follows (rebuildItems close) (items fault keepAll fuel [] c)
      (items fault close fuel [] c)) ∧
    ∀ c, Follows (rebuildMembers close) (members fault keepAll fuel [] c)
      (members fault close fuel [] c) := by
  induction fuel with
  | zero => exact ⟨fun _ => ⟨_, rfl⟩, fun _ => ⟨_, rfl⟩, fun _ => ⟨_, rfl⟩⟩
  | succ fuel ih =>
      obtain ⟨ihvalue, ihitems, ihmembers⟩ := ih
      exact ⟨value_follows ihitems ihmembers, items_follows ihvalue ihitems,
        members_follows ihvalue ihmembers⟩

/-! ## The objects of a document -/

mutual

/-- The members of each object in a document, in the order in which the objects close. -/
def objects : Value → List Members
  | .list items => objectsOf items
  | .map members => objectsAmong members ++ [members]
  | _ => []

/-- The objects in the items of an array. -/
def objectsOf : List Value → List Members
  | [] => []
  | v :: vs => objects v ++ objectsOf vs

/-- The objects in the members of an object. -/
def objectsAmong : Members → List Members
  | [] => []
  | m :: ms => objects m.2 ++ objectsAmong ms

end

/-! ### Keys are texts -/

/-- The keys of all objects in a document are texts. -/
def Keyed (document : Value) : Prop := ∀ ms ∈ objects document, ∀ m ∈ ms, m.1.points?.isSome

lemma keyed_list {vs : List Value} (h : ∀ v ∈ vs, Keyed v) : Keyed (.list vs) := by
  intro ms hms
  have hobjects : ms ∈ objectsOf vs := hms
  induction vs with
  | nil => cases hobjects
  | cons v vs ih =>
      obtain ⟨hv, hvs⟩ := List.forall_mem_cons.1 h
      rcases List.mem_append.1 hobjects with hfirst | hrest
      · exact hv ms hfirst
      · exact ih hvs hrest hrest

lemma keyed_map {ms : Members} (h : ∀ m ∈ ms, m.1.points?.isSome ∧ Keyed m.2) :
    Keyed (.map ms) := by
  have hinside : ∀ inner ∈ objectsAmong ms, ∀ m ∈ inner, m.1.points?.isSome := by
    induction ms with
    | nil => exact fun _ hinner => by cases hinner
    | cons m ms ih =>
        obtain ⟨hm, hms⟩ := List.forall_mem_cons.1 h
        intro inner hinner
        rcases List.mem_append.1 hinner with hfirst | hrest
        · exact hm.2 inner hfirst
        · exact ih hms inner hrest
  intro inner hinner
  rcases List.mem_append.1 hinner with hinner | hinner
  · exact hinside inner hinner
  · obtain rfl := List.mem_singleton.1 hinner
    exact fun m hm => (h m hm).1

lemma IsAtom.keyed {v : Value} (h : IsAtom v) : Keyed v := by
  intro ms hms
  cases v with
  | list items => cases h
  | map members => cases h
  | _ => cases hms

/-- Whatever is decoded with nothing lost is keyed. -/
lemma keyed_of_decoded (fuel : Nat) :
    (∀ c r, value fault keepAll fuel c = .ok r → Keyed r.1) ∧
    (∀ c r, items fault keepAll fuel [] c = .ok r → ∀ v ∈ r.1, Keyed v) ∧
    ∀ c r, members fault keepAll fuel [] c = .ok r →
      ∀ m ∈ r.1, m.1.points?.isSome ∧ Keyed m.2 := by
  induction fuel with
  | zero => exact ⟨nofun, nofun, nofun⟩
  | succ fuel ih =>
      obtain ⟨ihvalue, ihitems, ihmembers⟩ := ih
      refine ⟨fun c r h => ?_, fun c r h => ?_, fun c r h => ?_⟩
      · rw [value] at h
        split at h
        · cases h
        · exact (isAtom_of_string h).keyed
        · dsimp only at h
          split at h
          · obtain rfl := Except.ok.inj h
            exact keyed_map (by simp)
          · cases hms : members fault keepAll fuel [] (c.advance 1).skip with
            | error e => simp [hms] at h
            | ok read =>
                rw [hms] at h
                obtain rfl := Except.ok.inj h
                exact keyed_map (ihmembers _ _ hms)
        · dsimp only at h
          split at h
          · obtain rfl := Except.ok.inj h
            exact keyed_list (by simp)
          · cases hvs : items fault keepAll fuel [] (c.advance 1).skip with
            | error e => simp [hvs, Except.map] at h
            | ok read =>
                rw [hvs] at h
                obtain rfl := Except.ok.inj h
                exact keyed_list (ihitems _ _ hvs)
        · exact (isAtom_of_scalar h).keyed
      · rw [items] at h
        cases hv : value fault keepAll fuel c with
        | error e => simp [hv] at h
        | ok read =>
            have hfirst : Keyed read.1 := ihvalue c read hv
            rw [hv] at h
            dsimp only at h
            split at h
            · obtain rfl := Except.ok.inj h
              simpa using hfirst
            · rw [items_before] at h
              cases hvs : items fault keepAll fuel [] (read.2.skip.advance 1).skip with
              | error e => simp [hvs, Except.map] at h
              | ok rest =>
                  rw [hvs] at h
                  obtain rfl := Except.ok.inj h
                  exact List.forall_mem_cons.2 ⟨hfirst, ihitems _ _ hvs⟩
            · cases h
      · rw [members] at h
        split at h
        · cases hkey : string fault c with
          | error e => simp [hkey] at h
          | ok read =>
              obtain ⟨points, hpoints⟩ := exists_points_of_string hkey
              have htext : read.1.points?.isSome := hpoints ▸ points?_ofPoints points
              rw [hkey] at h
              dsimp only at h
              split at h
              · cases hv : value fault keepAll fuel (read.2.skip.advance 1).skip with
                | error e => simp [hv] at h
                | ok found =>
                    have hfirst : Keyed found.1 := ihvalue _ found hv
                    rw [hv] at h
                    dsimp only at h
                    split at h
                    · obtain rfl := Except.ok.inj h
                      simpa using ⟨htext, hfirst⟩
                    · rw [members_before] at h
                      cases hms : members fault keepAll fuel [] (found.2.skip.advance 1).skip with
                      | error e => simp [hms, Except.map] at h
                      | ok rest =>
                          rw [hms] at h
                          obtain rfl := Except.ok.inj h
                          exact List.forall_mem_cons.2 ⟨⟨htext, hfirst⟩, ihmembers _ _ hms⟩
                    · cases h
              · cases h
        · cases h

/-! ## Whole documents -/

lemma decodePoints_of_whole (close : CloseObject) {points : List Nat} {document : Value}
    (h : decodePoints keepAll points = .ok document) :
    decodePoints close points = rebuild close document ∧ Keyed document := by
  unfold decodePoints at h ⊢
  dsimp only at h ⊢
  by_cases hmark : points.head? = some 0xFEFF
  · rw [if_pos hmark] at h
    cases h
  · rw [if_neg hmark] at h ⊢
    obtain ⟨e, e', hwhole, -⟩ | ⟨found, after, hwhole, hstep⟩ :=
      ((follows close (2 * points.length + 2)).1 (Cursor.skip ⟨points, 0⟩)).cases
    · rw [hwhole] at h
      cases h
    · have hkeyed : Keyed found := (keyed_of_decoded _).1 _ _ hwhole
      rw [hwhole] at h
      rw [hstep]
      dsimp only at h
      by_cases hend : after.skip.rest = []
      · rw [if_pos hend] at h
        obtain rfl := Except.ok.inj h
        refine ⟨?_, hkeyed⟩
        cases rebuild close found with
        | error e => rfl
        | ok v => simp [Except.map, hend]
      · rw [if_neg hend] at h
        cases h

lemma exists_whole_of_decodePoints {points : List Nat} {v : Value}
    (h : decodePoints close points = .ok v) :
    ∃ document, decodePoints keepAll points = .ok document := by
  unfold decodePoints at h ⊢
  dsimp only at h ⊢
  by_cases hmark : points.head? = some 0xFEFF
  · rw [if_pos hmark] at h
    cases h
  · rw [if_neg hmark] at h ⊢
    obtain ⟨e, e', -, hstep⟩ | ⟨found, after, hwhole, hstep⟩ :=
      ((follows close (2 * points.length + 2)).1 (Cursor.skip ⟨points, 0⟩)).cases
    · rw [hstep] at h
      cases h
    · rw [hstep] at h
      rw [hwhole]
      cases hv : rebuild close found with
      | error e => simp [hv, Except.map] at h
      | ok w =>
          by_cases hend : after.skip.rest = []
          · exact ⟨found, by simp [hend]⟩
          · simp [hv, Except.map, hend] at h

/-- A document as it arrives: as text, given by its code points, or in octets. -/
inductive Source where
  | text (points : List Nat)
  | inOctets (octets : List UInt8)

namespace Source

/-- Decodes a document, closing objects in a given way. -/
def decode (close : CloseObject) : Source → Except Fault Value
  | .text points => decodePoints close points
  | .inOctets octets => decodeOctetsWith close octets

variable {source : Source}

lemma decode_of_whole (close : CloseObject) {document : Value}
    (h : source.decode keepAll = .ok document) :
    source.decode close = rebuild close document ∧ Keyed document := by
  cases source with
  | text points => exact decodePoints_of_whole close h
  | inOctets octets =>
      rw [decode, decodeOctetsWith] at h ⊢
      cases hpoints : decodeDocument octets with
      | error e => simp [hpoints] at h
      | ok points =>
          rw [hpoints] at h
          exact decodePoints_of_whole close h

lemma exists_whole {v : Value} (h : source.decode close = .ok v) :
    ∃ document, source.decode keepAll = .ok document := by
  cases source with
  | text points => exact exists_whole_of_decodePoints h
  | inOctets octets =>
      rw [decode, decodeOctetsWith] at h ⊢
      cases hpoints : decodeDocument octets with
      | error e => simp [hpoints] at h
      | ok points =>
          rw [hpoints] at h
          exact exists_whole_of_decodePoints h

end Source

end FormEngine.Json
