import FormEngine.Text.Basic

/-!
# Ordered mappings

A `Mapping α` assigns values to text keys and remembers the order in which the keys first arrived:
writing a new key puts it last, writing a present key leaves it where it is.  No key occurs twice,
so `Mapping.get?` is a view in which nothing of the entries is lost: a pair is an entry exactly if
the value is read under the key (`mem_entries_iff`).
-/

namespace FormEngine

/-- Entries with text keys, in the order of arrival, no key twice. -/
structure Mapping (α : Type) where
  entries : List (Text × α)
  nodup : (entries.map (·.1)).Nodup := by simp
deriving Repr

namespace Mapping

variable {α β : Type}

/-! ## Lists of entries -/

/-- Writes a list of entries: in place if the key is present, else at the end. -/
def setEntries (key : Text) (value : α) : List (Text × α) → List (Text × α)
  | [] => [(key, value)]
  | (k, v) :: rest => if k = key then (key, value) :: rest else (k, v) :: setEntries key value rest

/-- The keys after a write: those before it, and the written one at the end if it is new. -/
theorem keys_setEntries (key : Text) (value : α) (es : List (Text × α)) :
    (setEntries key value es).map (·.1) =
      if key ∈ es.map (·.1) then es.map (·.1) else es.map (·.1) ++ [key] := by
  induction es with
  | nil => rfl
  | cons e es ih =>
    obtain ⟨k, v⟩ := e
    by_cases h : k = key
    · subst h
      simp [setEntries]
    · have h' : ¬ key = k := fun e => h e.symm
      simp only [setEntries, if_neg h, List.map_cons, ih, List.mem_cons, h', false_or]
      split <;> rfl

theorem nodup_setEntries (key : Text) (value : α) {es : List (Text × α)}
    (h : (es.map (·.1)).Nodup) : ((setEntries key value es).map (·.1)).Nodup := by
  rw [keys_setEntries]
  split
  · exact h
  · rename_i hk
    refine List.nodup_append.2 ⟨h, by simp, ?_⟩
    intro a ha b hb hab
    rw [List.mem_singleton] at hb
    exact hk (hb ▸ hab ▸ ha)

theorem setEntries_of_notMem {key : Text} (value : α) {es : List (Text × α)}
    (h : key ∉ es.map (·.1)) : setEntries key value es = es ++ [(key, value)] := by
  induction es with
  | nil => rfl
  | cons e es ih =>
    obtain ⟨k, v⟩ := e
    rw [List.map_cons, List.mem_cons, not_or] at h
    simp [setEntries, ih h.2, Ne.symm h.1]

theorem lookup_setEntries_self (key : Text) (value : α) (es : List (Text × α)) :
    (setEntries key value es).lookup key = some value := by
  induction es with
  | nil => simp [setEntries]
  | cons e es ih =>
    obtain ⟨k, v⟩ := e
    unfold setEntries
    split
    · simp
    · rename_i h
      have : (key == k) = false := by simpa using fun h' => h h'.symm
      simpa [List.lookup_cons, this] using ih

theorem lookup_setEntries_of_ne {key other : Text} (value : α) (es : List (Text × α))
    (h : other ≠ key) : (setEntries key value es).lookup other = es.lookup other := by
  have hb : (other == key) = false := by simpa using h
  induction es with
  | nil => simp [setEntries, h]
  | cons e es ih =>
    obtain ⟨k, v⟩ := e
    unfold setEntries
    split
    · rename_i hk
      subst hk
      simp [List.lookup_cons, hb]
    · simp [List.lookup_cons, ih]

/-- Where no key occurs twice, what is found under a key are the pairs with that key. -/
theorem lookup_eq_some_iff {key : Text} {value : α} {es : List (Text × α)}
    (h : (es.map (·.1)).Nodup) : es.lookup key = some value ↔ (key, value) ∈ es := by
  induction es with
  | nil => simp
  | cons e es ih =>
    obtain ⟨k, v⟩ := e
    rw [List.map_cons, List.nodup_cons] at h
    by_cases hk : key = k
    · subst hk
      have absent : (key, value) ∉ es := fun hm => h.1 (List.mem_map.2 ⟨_, hm, rfl⟩)
      simp [absent, eq_comm]
    · have hb : (key == k) = false := by simpa using hk
      simp [List.lookup_cons, hb, ih h.2, hk]

/-! ## Mappings -/

/-- The mapping without entries. -/
def empty : Mapping α := ⟨[], by simp⟩

instance : Inhabited (Mapping α) := ⟨empty⟩

/-- The keys in order. -/
def keys (m : Mapping α) : List Text := m.entries.map (·.1)

/-- The number of entries. -/
def size (m : Mapping α) : Nat := m.entries.length

/-- True of the mapping without entries. -/
def isEmpty (m : Mapping α) : Bool := m.entries.isEmpty

/-- The value under a key. -/
def get? (m : Mapping α) (key : Text) : Option α := m.entries.lookup key

/-- Whether a key has a value. -/
def contains (m : Mapping α) (key : Text) : Bool := (m.get? key).isSome

/-- Writes a value under a key: in place if the key is present, else at the end. -/
def set (m : Mapping α) (key : Text) (value : α) : Mapping α :=
  ⟨setEntries key value m.entries, nodup_setEntries key value m.nodup⟩

/-- Writes some entries, one after the other. -/
def setAll (m : Mapping α) (entries : List (Text × α)) : Mapping α :=
  entries.foldl (fun acc e => acc.set e.1 e.2) m

/-- The mapping of a list of entries; of two entries with one key the later wins, in the place of
the earlier. -/
def ofList (entries : List (Text × α)) : Mapping α := empty.setAll entries

/-- The entries whose key and value pass a test. -/
def filter (p : Text → α → Bool) (m : Mapping α) : Mapping α :=
  ⟨m.entries.filter fun e => p e.1 e.2, (List.filter_sublist.map _).nodup m.nodup⟩

/-- Removes a key. -/
def erase (m : Mapping α) (key : Text) : Mapping α := m.filter fun k _ => k ≠ key

/-- Each value replaced by a function of its key and itself. -/
def mapValues (f : Text → α → β) (m : Mapping α) : Mapping β :=
  ⟨m.entries.map fun e => (e.1, f e.1 e.2), by simpa [Function.comp_def] using m.nodup⟩

/-! ## What the operations do to the view -/

/-- The entries are the pairs of a key and the value read under it. -/
theorem mem_entries_iff (m : Mapping α) {key : Text} {value : α} :
    (key, value) ∈ m.entries ↔ m.get? key = some value :=
  (lookup_eq_some_iff m.nodup).symm

@[simp] theorem get?_empty (key : Text) : (empty : Mapping α).get? key = none := rfl

/-- A written value is read back. -/
@[simp] theorem get?_set_self (m : Mapping α) (key : Text) (value : α) :
    (m.set key value).get? key = some value :=
  lookup_setEntries_self key value m.entries

/-- Writing one key leaves the values of the others. -/
theorem get?_set_of_ne (m : Mapping α) {key other : Text} (value : α) (h : other ≠ key) :
    (m.set key value).get? other = m.get? other :=
  lookup_setEntries_of_ne value m.entries h

/-- A write keeps the keys and their order; a new key comes last. -/
theorem keys_set (m : Mapping α) (key : Text) (value : α) :
    (m.set key value).keys = if key ∈ m.keys then m.keys else m.keys ++ [key] :=
  keys_setEntries key value m.entries

/-- Entries under new and distinct keys are put at the end as they are. -/
theorem entries_setAll (m : Mapping α) {es : List (Text × α)}
    (h : ((m.entries ++ es).map (·.1)).Nodup) : (m.setAll es).entries = m.entries ++ es := by
  induction es generalizing m with
  | nil => simp [setAll]
  | cons e es ih =>
    obtain ⟨k, v⟩ := e
    have fresh : k ∉ m.entries.map (·.1) := by
      rw [List.map_append, List.nodup_append] at h
      exact fun hk => h.2.2 k hk k (by simp) rfl
    have written : (m.set k v).entries = m.entries ++ [(k, v)] := setEntries_of_notMem v fresh
    calc (m.setAll ((k, v) :: es)).entries
        = (m.set k v).entries ++ es := ih (m.set k v) (by simpa [written] using h)
      _ = m.entries ++ (k, v) :: es := by simp [written]

/-- A list without repeated keys is the list of entries of its mapping. -/
theorem entries_ofList {es : List (Text × α)} (h : (es.map (·.1)).Nodup) :
    (ofList es).entries = es := by
  simpa [ofList, empty] using entries_setAll empty (by simpa [empty] using h)

@[simp] theorem keys_mapValues (f : Text → α → β) (m : Mapping α) :
    (m.mapValues f).keys = m.keys := by
  simp [keys, mapValues, Function.comp_def]

end Mapping

end FormEngine
