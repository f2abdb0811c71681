import FormEngine.Proofs.Json.Whole
import Mathlib.Data.List.Nodup

/-!
# Repeated keys in a JSON document

A document is distinct if none of its objects, at any depth, has two members with the same key; keys
are texts, so two of them are the same however they are spelled.  `Repeats` says which key of an
object is told if its keys are not distinct, and `RepeatsFirst` which object it is told of.

`Source.decode_of_plain` compares refusing repeated keys with keeping the last member of each: on a
distinct document both give the document as it is written, and on any other the first repetition
is told, so that no member is ever lost silently.
-/

namespace FormEngine.Json

/-- The keys of an object, in the order of its members. -/
def keys (ms : Members) : List Value := ms.map (·.1)

/-- A key is the first that an object repeats: it has occurred before, and the keys up to there are
distinct. -/
def Repeats (ms : Members) (key : Value) : Prop :=
  ∃ before m after, ms = before ++ m :: after ∧ m.1 = key ∧ key ∈ keys before ∧
    (keys before).Nodup

/-- A key is the first that the first object with a repeated key repeats. -/
def RepeatsFirst (document : Value) (key : Value) : Prop :=
  ∃ before ms after, objects document = before ++ ms :: after ∧ (∀ b ∈ before, (keys b).Nodup) ∧
    Repeats ms key

/-- No object in a document, at any depth, has two members with the same key. -/
def IsDistinct (document : Value) : Prop := ∀ ms ∈ objects document, (keys ms).Nodup

/-- Two texts are the same exactly if they are equal. -/
lemma same_iff_eq {k l : Value} (hk : k.points?.isSome) (hl : l.points?.isSome) :
    k.same l = true ↔ k = l := by
  cases k <;> cases l <;> simp_all [Value.points?, Value.same]

lemma hasKey_iff_mem {key : Value} {ms : Members} (hkey : key.points?.isSome)
    (hms : ∀ m ∈ ms, m.1.points?.isSome) : Value.hasKey key ms = true ↔ key ∈ keys ms := by
  rw [Value.hasKey, List.any_eq_true, keys, List.mem_map]
  refine exists_congr fun m => and_congr_right fun hm => ?_
  rw [same_iff_eq hkey (hms m hm), eq_comm]

/-! ### The first repeated key -/

lemma Repeats.not_nodup {ms : Members} {key : Value} (h : Repeats ms key) : ¬ (keys ms).Nodup := by
  obtain ⟨before, m, after, rfl, rfl, hmem, -⟩ := h
  intro hnodup
  rw [keys, List.map_append, List.map_cons] at hnodup
  exact (List.nodup_append.1 hnodup).2.2 m.1 hmem m.1 List.mem_cons_self rfl

/-- The keys of an object are distinct, or the first that repeats is found. -/
lemma firstRepeated?_spec (seen : Members) {ms : Members}
    (hms : ∀ m ∈ seen ++ ms, m.1.points?.isSome) (distinct : (keys seen).Nodup) :
    match firstRepeated? seen ms with
    | none => (keys (seen ++ ms)).Nodup
    | some key => Repeats (seen ++ ms) key := by
  induction ms generalizing seen with
  | nil => simpa [firstRepeated?] using distinct
  | cons m ms ih =>
      have hseen : ∀ m' ∈ seen, m'.1.points?.isSome := fun m' hm' => hms m' (by simp [hm'])
      have hm : m.1.points?.isSome := hms m (by simp)
      rw [firstRepeated?]
      by_cases hagain : Value.hasKey m.1 seen = true
      · rw [if_pos hagain]
        exact ⟨seen, m, ms, rfl, rfl, (hasKey_iff_mem hm hseen).1 hagain, distinct⟩
      · rw [if_neg hagain]
        have hnew : m.1 ∉ keys seen := mt (hasKey_iff_mem hm hseen).2 hagain
        have distinct' : (keys (seen ++ [m])).Nodup := by
          rw [keys, List.map_append, List.map_singleton]
          exact distinct.append (List.nodup_singleton _) (by simpa using hnew)
        have happend : seen ++ m :: ms = (seen ++ [m]) ++ ms := by simp
        rw [happend]
        exact ih _ (happend ▸ hms) distinct'

lemma firstRepeated?_eq_none_iff {ms : Members} (hms : ∀ m ∈ ms, m.1.points?.isSome) :
    firstRepeated? [] ms = none ↔ (keys ms).Nodup := by
  have hspec := firstRepeated?_spec [] hms List.nodup_nil
  cases hfirst : firstRepeated? [] ms with
  | none =>
      rw [hfirst] at hspec
      exact iff_of_true rfl hspec
  | some key =>
      rw [hfirst] at hspec
      exact iff_of_false (by simp) hspec.not_nodup

/-- The first key that an object of a document repeats, objects being taken as they close. -/
def firstRepetition? (document : Value) : Option Value :=
  (objects document).findSome? (firstRepeated? [])

lemma repeatsFirst_of_firstRepetition? {document key : Value} (keyed : Keyed document)
    (h : firstRepetition? document = some key) : RepeatsFirst document key := by
  obtain ⟨before, ms, after, hobjects, hms, hbefore⟩ := List.findSome?_eq_some_iff.1 h
  have hkeyed : ∀ inner ∈ before ++ ms :: after, ∀ m ∈ inner, m.1.points?.isSome :=
    hobjects ▸ keyed
  refine ⟨before, ms, after, hobjects, fun b hb => ?_, ?_⟩
  · exact (firstRepeated?_eq_none_iff (hkeyed b (by simp [hb]))).1 (hbefore b hb)
  · have hspec := firstRepeated?_spec [] (hkeyed ms (by simp)) List.nodup_nil
    rwa [hms] at hspec

lemma firstRepetition?_eq_none_iff {document : Value} (keyed : Keyed document) :
    firstRepetition? document = none ↔ IsDistinct document := by
  rw [firstRepetition?, List.findSome?_eq_none_iff]
  exact forall₂_congr fun ms hms => firstRepeated?_eq_none_iff (keyed ms hms)

/-! ## Closing with a choice -/

/-- Refusing repeated keys leaves a document as it is written, or tells the first repetition. -/
def refused (found : Option Value) {α : Type} (a : α) : Except Fault α :=
  match found with
  | none => .ok a
  | some key => .error (.duplicateKey key)

lemma refuseDuplicates_eq (ms : Members) :
    refuseDuplicates ms = refused (firstRepeated? [] ms) (.map ms) := by
  rw [refuseDuplicates]
  cases firstRepeated? [] ms <;> rfl

mutual

lemma rebuild_refuseDuplicates (document : Value) :
    rebuild refuseDuplicates document = refused (firstRepetition? document) document := by
  cases document with
  | list items =>
      rw [rebuild, rebuildItems_refuseDuplicates items, firstRepetition?, objects]
      cases (objectsOf items).findSome? (firstRepeated? []) <;> rfl
  | map ms =>
      rw [rebuild, rebuildMembers_refuseDuplicates ms, firstRepetition?, objects,
        List.findSome?_append]
      cases (objectsAmong ms).findSome? (firstRepeated? []) with
      | some key => rfl
      | none =>
          show refuseDuplicates ms = _
          rw [refuseDuplicates_eq]
          cases hms : firstRepeated? [] ms <;> simp [hms]
  | _ => rfl

lemma rebuildItems_refuseDuplicates (items : List Value) :
    rebuildItems refuseDuplicates items =
      refused ((objectsOf items).findSome? (firstRepeated? [])) items := by
  cases items with
  | nil => rfl
  | cons v vs =>
      rw [rebuildItems, rebuild_refuseDuplicates v, rebuildItems_refuseDuplicates vs, objectsOf,
        List.findSome?_append, firstRepetition?]
      cases (objects v).findSome? (firstRepeated? []) with
      | some key => rfl
      | none => cases (objectsOf vs).findSome? (firstRepeated? []) <;> rfl

lemma rebuildMembers_refuseDuplicates (ms : Members) :
    rebuildMembers refuseDuplicates ms =
      refused ((objectsAmong ms).findSome? (firstRepeated? [])) ms := by
  cases ms with
  | nil => rfl
  | cons m ms =>
      rw [rebuildMembers, rebuild_refuseDuplicates m.2, rebuildMembers_refuseDuplicates ms,
        objectsAmong, List.findSome?_append, firstRepetition?]
      cases (objects m.2).findSome? (firstRepeated? []) with
      | some key => rfl
      | none => cases (objectsAmong ms).findSome? (firstRepeated? []) <;> rfl

end

lemma insertEntry_of_new {key v : Value} {ms : Members} (h : Value.hasKey key ms = false) :
    Value.insertEntry key v ms = ms ++ [(key, v)] := by
  induction ms with
  | nil => rfl
  | cons m ms ih =>
      rw [Value.hasKey, List.any_cons, Bool.or_eq_false_iff] at h
      obtain ⟨hfirst, hrest⟩ := h
      rw [Value.insertEntry, if_neg (by simp [hfirst]), ih hrest, List.cons_append]

lemma foldl_insertEntry {seen ms : Members} (h : firstRepeated? seen ms = none) :
    ms.foldl (fun acc m => Value.insertEntry m.1 m.2 acc) seen = seen ++ ms := by
  induction ms generalizing seen with
  | nil => simp
  | cons m ms ih =>
      rw [firstRepeated?] at h
      by_cases hagain : Value.hasKey m.1 seen = true
      · rw [if_pos hagain] at h
        cases h
      · rw [if_neg hagain] at h
        rw [List.foldl_cons, insertEntry_of_new (by simpa using hagain), ih h, List.append_assoc,
          List.singleton_append]

/-- Keeping the last member of each key keeps all members if no key repeats. -/
lemma keepLast_of_distinct {ms : Members} (h : firstRepeated? [] ms = none) :
    keepLast ms = .ok (.map ms) := by
  rw [keepLast, foldl_insertEntry h, List.nil_append]

mutual

lemma rebuild_keepLast {document : Value} (h : firstRepetition? document = none) :
    rebuild keepLast document = .ok document := by
  cases document with
  | list items =>
      rw [rebuild, rebuildItems_keepLast h]
      rfl
  | map ms =>
      rw [firstRepetition?, objects, List.findSome?_append, Option.or_eq_none_iff] at h
      obtain ⟨hinside, hms⟩ := h
      rw [rebuild, rebuildMembers_keepLast hinside]
      exact keepLast_of_distinct (by simpa using hms)
  | _ => rfl

lemma rebuildItems_keepLast {items : List Value}
    (h : (objectsOf items).findSome? (firstRepeated? []) = none) :
    rebuildItems keepLast items = .ok items := by
  cases items with
  | nil => rfl
  | cons v vs =>
      rw [objectsOf, List.findSome?_append, Option.or_eq_none_iff] at h
      rw [rebuildItems, rebuild_keepLast h.1, Except.bind, rebuildItems_keepLast h.2]
      rfl

lemma rebuildMembers_keepLast {ms : Members}
    (h : (objectsAmong ms).findSome? (firstRepeated? []) = none) :
    rebuildMembers keepLast ms = .ok ms := by
  cases ms with
  | nil => rfl
  | cons m ms =>
      rw [objectsAmong, List.findSome?_append, Option.or_eq_none_iff] at h
      rw [rebuildMembers, rebuild_keepLast h.1, Except.bind, rebuildMembers_keepLast h.2]
      rfl

end

/-! ## Documents that repeat keys -/

namespace Source

variable {source : Source}

/-- Of a document that can be decoded by keeping the last member of each key, nothing is lost
silently.  If no object repeats a key, refusing repeated keys gives the same value, and that is the
document as it is written; otherwise the first repetition is told. -/
theorem decode_of_plain {v : Value} (plain : source.decode keepLast = .ok v) :
    ∃ document, source.decode keepAll = .ok document ∧
      (source.decode refuseDuplicates = .ok v ↔ IsDistinct document) ∧
      (IsDistinct document → v = document) ∧
      (¬ IsDistinct document → ∃ key, RepeatsFirst document key ∧
        source.decode refuseDuplicates = .error (.duplicateKey key) ∧
        (Fault.duplicateKey key).message =
          "Duplicate key in schema document: '" ++ key.plain ++ "'") := by
  obtain ⟨document, hwhole⟩ := exists_whole plain
  obtain ⟨hplain, keyed⟩ := decode_of_whole keepLast hwhole
  have hrefuse : source.decode refuseDuplicates =
      refused (firstRepetition? document) document := by
    rw [(decode_of_whole refuseDuplicates hwhole).1, rebuild_refuseDuplicates]
  have hdistinct := firstRepetition?_eq_none_iff keyed
  cases hfound : firstRepetition? document with
  | none =>
      have distinct : IsDistinct document := hdistinct.1 hfound
      rw [hplain, rebuild_keepLast hfound] at plain
      obtain rfl := Except.ok.inj plain
      rw [hfound] at hrefuse
      exact ⟨document, hwhole, iff_of_true hrefuse distinct, fun _ => rfl, absurd distinct⟩
  | some key =>
      have repeats : ¬ IsDistinct document := by
        rw [← hdistinct, hfound]
        simp
      rw [hfound] at hrefuse
      exact ⟨document, hwhole, iff_of_false (by simp [hrefuse, refused]) repeats,
        fun distinct => absurd distinct repeats,
        fun _ => ⟨key, repeatsFirst_of_firstRepetition? keyed hfound, hrefuse, rfl⟩⟩

/-- A document in UTF-8 with two objects that repeat a key, one of them inside the other:
`{"a":[{"b":1,"\u0062":2}],"a":null}`. -/
def nested : Source := .inOctets
  [0x7B, 0x22, 0x61, 0x22, 0x3A, 0x5B, 0x7B, 0x22, 0x62, 0x22, 0x3A, 0x31, 0x2C, 0x22, 0x5C, 0x75,
   0x30, 0x30, 0x36, 0x32, 0x22, 0x3A, 0x32, 0x7D, 0x5D, 0x2C, 0x22, 0x61, 0x22, 0x3A, 0x6E, 0x75,
   0x6C, 0x6C, 0x7D]

/-- That document as it is written. -/
def nestedDocument : Value := .map [
  (.text "a", .list [.map [(.text "b", .int 1), (.text "b", .int 2)]]), (.text "a", .null)]

/-- Of two repeated keys the one in the inner object is told, though the other object opens first;
that the key is written in two ways makes no difference. -/
theorem decode_of_nested :
    nested.decode keepLast = .ok (.map [(.text "a", .null)]) ∧ ¬ IsDistinct nestedDocument ∧
      ∃ key, RepeatsFirst nestedDocument key ∧ key = .text "b" ∧
        nested.decode refuseDuplicates = .error (.duplicateKey key) := by
  have plain : nested.decode keepLast = .ok (.map [(.text "a", .null)]) := rfl
  have whole : nested.decode keepAll = .ok nestedDocument := rfl
  have told : nested.decode refuseDuplicates = .error (.duplicateKey (.text "b")) := rfl
  obtain ⟨document, hdocument, hsame, -, hother⟩ := decode_of_plain plain
  obtain rfl : nestedDocument = document := Except.ok.inj (whole.symm.trans hdocument)
  have repeats : ¬ IsDistinct nestedDocument := fun distinct => by
    have hok := hsame.2 distinct
    rw [told] at hok
    cases hok
  obtain ⟨key, hfirst, hkey, -⟩ := hother repeats
  rw [told] at hkey
  obtain rfl := Fault.duplicateKey.inj (Except.error.inj hkey)
  exact ⟨plain, repeats, _, hfirst, rfl, told⟩

end Source

end FormEngine.Json
