import Mathlib.Data.List.Perm.Basic
import FormEngine.Mapping

/-!
# Mappings through their keys and their view

`Mapping.mem_entries_iff` makes `get?` the view of a mapping.  This file says what the operations
that write or choose several entries at once do to that view and to the keys.

Writing only present keys leaves the keys and their order (`keys_setAll`), and what is read
afterwards is the last value written under a key, if there is one (`get?_setAll`); the order of
the writes does not matter if their keys are distinct (`setAll_perm`).  Choosing entries by a test
commutes with reading (`get?_filter`), and so does replacing values (`get?_mapValues`).  What holds
of all values goes on holding when only such values are written (`Holds.setAll`).
-/

namespace FormEngine

namespace Mapping

variable {α β : Type}

/-! ## Keys and reading -/

/-- Two mappings with the same entries are the same. -/
lemma eq_of_entries_eq {m n : Mapping α} (h : m.entries = n.entries) : m = n := by
  cases m
  cases n
  simpa using h

lemma mem_keys_of_get? {m : Mapping α} {key : Text} {value : α}
    (h : m.get? key = some value) : key ∈ m.keys :=
  List.mem_map.2 ⟨(key, value), (mem_entries_iff m).2 h, rfl⟩

/-- A key is present exactly if something is read under it. -/
lemma mem_keys_iff {m : Mapping α} {key : Text} :
    key ∈ m.keys ↔ ∃ value, m.get? key = some value := by
  refine ⟨fun h => ?_, fun ⟨_, h⟩ => mem_keys_of_get? h⟩
  obtain ⟨⟨k, value⟩, hmem, hk⟩ := List.mem_map.1 h
  obtain rfl : k = key := hk
  exact ⟨value, (mem_entries_iff m).1 hmem⟩

lemma contains_iff {m : Mapping α} {key : Text} : m.contains key = true ↔ key ∈ m.keys := by
  rw [mem_keys_iff, contains, Option.isSome_iff_exists]

lemma get?_eq_none_iff {m : Mapping α} {key : Text} : m.get? key = none ↔ key ∉ m.keys := by
  rw [mem_keys_iff, Option.eq_none_iff_forall_ne_some, not_exists]

lemma isEmpty_iff {m : Mapping α} : m.isEmpty = true ↔ m.entries = [] := List.isEmpty_iff

/-- The entries are what is read under the keys, in their order. -/
lemma entries_eq_filterMap (m : Mapping α) :
    m.entries = m.keys.filterMap fun key => (m.get? key).map (key, ·) := by
  have hread : ∀ e ∈ m.entries, some e = (m.get? e.1).map (e.1, ·) := fun e he => by
    rw [(mem_entries_iff m).1 he, Option.map_some]
  calc m.entries
      = m.entries.filterMap some := List.filterMap_some.symm
    _ = m.entries.filterMap fun e => (m.get? e.1).map (e.1, ·) := List.filterMap_congr hread
    _ = m.keys.filterMap fun key => (m.get? key).map (key, ·) := by
      rw [keys, List.filterMap_map]
      rfl

/-- Two mappings with the same keys in the same order are the same if the same is read from them. -/
lemma eq_of_get?_eq {m n : Mapping α} (hkeys : m.keys = n.keys)
    (hget : ∀ key ∈ m.keys, m.get? key = n.get? key) : m = n := by
  refine eq_of_entries_eq ?_
  rw [entries_eq_filterMap m, entries_eq_filterMap n, ← hkeys]
  exact List.filterMap_congr fun key hkey => by rw [hget key hkey]

/-- Two mappings whose keys stand in the order of one list are the same if the same is read from
them. -/
lemma eq_of_sublist {m n : Mapping α} {keys : List Text} (distinct : keys.Nodup)
    (hm : m.keys.Sublist keys) (hn : n.keys.Sublist keys)
    (hget : ∀ key, m.get? key = n.get? key) : m = n := by
  have hmem : ∀ key, key ∈ m.keys ↔ key ∈ n.keys := by
    intro key
    rw [mem_keys_iff, mem_keys_iff, hget]
  have hperm : m.keys.Perm n.keys := (List.perm_ext_iff_of_nodup m.nodup n.nodup).2 hmem
  have hkeys : m.keys = n.keys := (List.Nodup.perm_iff_eq_of_sublist distinct hm hn).1 hperm
  exact eq_of_get?_eq hkeys fun key _ => hget key

/-! ## Writing several entries -/

@[simp] lemma setAll_nil (m : Mapping α) : m.setAll [] = m := rfl

@[simp] lemma setAll_cons (m : Mapping α) (e : Text × α) (es : List (Text × α)) :
    m.setAll (e :: es) = (m.set e.1 e.2).setAll es := rfl

lemma keys_set_of_mem (m : Mapping α) {key : Text} (value : α) (h : key ∈ m.keys) :
    (m.set key value).keys = m.keys := by
  rw [keys_set, if_pos h]

/-- Writing under present keys leaves the keys and their order. -/
lemma keys_setAll (m : Mapping α) {es : List (Text × α)} (h : ∀ e ∈ es, e.1 ∈ m.keys) :
    (m.setAll es).keys = m.keys := by
  induction es generalizing m with
  | nil => rfl
  | cons e es ih =>
      have hkeys : (m.set e.1 e.2).keys = m.keys := keys_set_of_mem m e.2 (h e (by simp))
      rw [setAll_cons, ih _ (fun e' he' => by rw [hkeys]; exact h e' (by simp [he'])), hkeys]

lemma get?_set (m : Mapping α) (key other : Text) (value : α) :
    (m.set key value).get? other = if key = other then some value else m.get? other := by
  by_cases h : key = other
  · subst h
    simp
  · rw [if_neg h, get?_set_of_ne m value (fun e => h e.symm)]

/-- What is read after several writes: the value written last under the key, else what was there. -/
lemma get?_setAll (m : Mapping α) (es : List (Text × α)) (key : Text) :
    (m.setAll es).get? key =
      ((es.reverse.find? fun e => e.1 = key).map (·.2)).or (m.get? key) := by
  induction es generalizing m with
  | nil => rfl
  | cons e es ih =>
      rw [setAll_cons, ih, get?_set, List.reverse_cons, List.find?_append]
      cases es.reverse.find? fun e => e.1 = key with
      | some found => simp
      | none => by_cases h : e.1 = key <;> simp [h]

/-- Writes under two present keys can be exchanged. -/
lemma set_comm {m : Mapping α} {key other : Text} (hne : key ≠ other) (hkey : key ∈ m.keys)
    (hother : other ∈ m.keys) (value value' : α) :
    (m.set key value).set other value' = (m.set other value').set key value := by
  have hkeys : ((m.set key value).set other value').keys = m.keys := by
    rw [keys_set_of_mem _ _ (by rwa [keys_set_of_mem _ _ hkey]), keys_set_of_mem _ _ hkey]
  have hkeys' : ((m.set other value').set key value).keys = m.keys := by
    rw [keys_set_of_mem _ _ (by rwa [keys_set_of_mem _ _ hother]), keys_set_of_mem _ _ hother]
  refine eq_of_get?_eq (hkeys.trans hkeys'.symm) fun id _ => ?_
  simp only [get?_set]
  by_cases h : other = id
  · have h' : key ≠ id := by
      rw [← h]
      exact hne
    simp [h, h']
  · simp [h]

/-- Entries under distinct keys that are present can be written in any order. -/
lemma setAll_perm {m : Mapping α} {es fs : List (Text × α)} (hperm : es.Perm fs)
    (distinct : (es.map (·.1)).Nodup) (present : ∀ e ∈ es, e.1 ∈ m.keys) :
    m.setAll es = m.setAll fs := by
  induction hperm generalizing m with
  | nil => rfl
  | cons e _ ih =>
      obtain ⟨he, hes⟩ := List.forall_mem_cons.1 present
      apply ih (List.nodup_cons.1 distinct).2
      intro e' he'
      rw [keys_set_of_mem _ _ he]
      exact hes e' he'
  | swap e e' es =>
      have hne : e'.1 ≠ e.1 := fun h => (List.nodup_cons.1 distinct).1 (by simp [h])
      simp only [setAll_cons]
      rw [set_comm hne (present e' (by simp)) (present e (by simp))]
  | trans first _ ih ih' =>
      rw [ih distinct present]
      apply ih' ((first.map _).nodup_iff.1 distinct)
      intro e he
      exact present e (first.mem_iff.2 he)

/-- Writing all entries of a mapping over another one. -/
lemma get?_setAll_entries (m n : Mapping α) (key : Text) :
    (m.setAll n.entries).get? key = (n.get? key).or (m.get? key) := by
  rw [get?_setAll]
  congr 1
  cases h : n.entries.reverse.find? fun e => e.1 = key with
  | none =>
      have hkey : key ∉ n.keys := by
        intro hkey
        obtain ⟨e, he, hkey⟩ := List.mem_map.1 hkey
        have hne := List.find?_eq_none.1 h e (List.mem_reverse.2 he)
        exact hne (by simpa using hkey)
      exact (get?_eq_none_iff.2 hkey).symm
  | some e =>
      have he : e ∈ n.entries := List.mem_reverse.1 (List.mem_of_find?_eq_some h)
      have hkey : e.1 = key := by simpa using List.find?_some h
      rw [← hkey]
      exact ((mem_entries_iff n).1 he).symm

/-! ## Choosing and replacing -/

lemma keys_filter (p : Text → α → Bool) (m : Mapping α) :
    (m.filter p).keys = (m.entries.filter fun e => p e.1 e.2).map (·.1) := rfl

/-- Choosing by key chooses among the keys. -/
lemma keys_filter_key (p : Text → Bool) (m : Mapping α) :
    (m.filter fun key _ => p key).keys = m.keys.filter p := by
  rw [keys_filter, keys, List.filter_map]
  rfl

/-- Reading from the chosen entries. -/
lemma get?_filter (p : Text → α → Bool) (m : Mapping α) (key : Text) :
    (m.filter p).get? key = (m.get? key).filter (p key) := by
  apply Option.ext
  intro value
  rw [← mem_entries_iff, Option.filter_eq_some_iff, ← mem_entries_iff]
  exact List.mem_filter

/-- Reading from entries that are chosen by their keys. -/
lemma get?_filter_key (p : Text → Bool) (m : Mapping α) (key : Text) :
    (m.filter fun k _ => p k).get? key = if p key then m.get? key else none := by
  rw [get?_filter]
  by_cases h : p key = true
  · cases m.get? key <;> simp [h, Option.filter]
  · cases m.get? key <;> simp [h, Option.filter]

/-- A removed key is not read, and the others are read as before. -/
lemma get?_erase (m : Mapping α) (key other : Text) :
    (m.erase key).get? other = if other = key then none else m.get? other := by
  rw [erase, get?_filter]
  by_cases h : other = key
  · simp [h]
  · cases hother : m.get? other <;> simp [h, Option.filter]

/-- Reading from replaced values. -/
lemma get?_mapValues (f : Text → α → β) (m : Mapping α) (key : Text) :
    (m.mapValues f).get? key = (m.get? key).map (f key) := by
  apply Option.ext
  intro value
  rw [← mem_entries_iff, Option.map_eq_some_iff]
  constructor
  · intro h
    obtain ⟨⟨k, v⟩, hmem, heq⟩ := List.mem_map.1 h
    obtain ⟨rfl, rfl⟩ := Prod.mk.injEq .. ▸ heq
    exact ⟨v, (mem_entries_iff m).1 hmem, rfl⟩
  · rintro ⟨v, hv, rfl⟩
    exact List.mem_map.2 ⟨(key, v), (mem_entries_iff m).2 hv, rfl⟩

/-! ## What holds of all values -/

/-- Something holds of every value of a mapping. -/
def Holds (P : α → Prop) (m : Mapping α) : Prop := ∀ key value, m.get? key = some value → P value

namespace Holds

variable {P : α → Prop} {m : Mapping α}

lemma of_mem (h : m.Holds P) {e : Text × α} (he : e ∈ m.entries) : P e.2 :=
  h e.1 e.2 ((mem_entries_iff m).1 he)

lemma empty : (Mapping.empty : Mapping α).Holds P := fun _ _ h => by cases h

lemma set (h : m.Holds P) (key : Text) {value : α} (hvalue : P value) :
    (m.set key value).Holds P := by
  intro other v hv
  rw [get?_set] at hv
  split at hv
  · obtain rfl := Option.some.inj hv
    exact hvalue
  · exact h other v hv

lemma setAll (h : m.Holds P) {es : List (Text × α)} (hes : ∀ e ∈ es, P e.2) :
    (m.setAll es).Holds P := by
  induction es generalizing m with
  | nil => exact h
  | cons e es ih =>
      obtain ⟨he, hes⟩ := List.forall_mem_cons.1 hes
      exact ih (h.set e.1 he) hes

lemma ofList {es : List (Text × α)} (hes : ∀ e ∈ es, P e.2) : (Mapping.ofList es).Holds P :=
  empty.setAll hes

lemma mapValues {Q : β → Prop} {f : Text → α → β} (h : m.Holds P)
    (hf : ∀ key value, P value → Q (f key value)) : (m.mapValues f).Holds Q := by
  intro key value hvalue
  rw [get?_mapValues, Option.map_eq_some_iff] at hvalue
  obtain ⟨v, hv, rfl⟩ := hvalue
  exact hf key v (h key v hv)

end Holds

end Mapping

end FormEngine
