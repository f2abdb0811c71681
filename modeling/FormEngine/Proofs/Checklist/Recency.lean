import Mathlib.Data.List.DropRight
import Mathlib.Data.List.Lattice
import Mathlib.Data.Finset.Card
import FormEngine.Checklist.Cache

/-!
# A recency cache holds what has been used last

What a `RecencyCache` holds can be told from the list of its uses, each a key with the value under
which it was written or found.  `latest` is what counts of such a list: the last use of each key, in
the order of these uses.  `Keeps` says that the cache holds the end of that list, as much of it as
the capacity allows.

Writing a key and finding it are both uses (`Keeps.put`, `Keeps.get?`).  How long a key stays is
then a matter of counting: `Keeps.mem_keys_iff` says that a used key is still there exactly if fewer
other keys than the capacity have been used since.
-/

namespace FormEngine

namespace RecencyCache

variable {κ α : Type} [DecidableEq κ]

/-! ## The last use of each key -/

/-- The last use of each key, in the order of these uses. -/
def latest : List (κ × α) → List (κ × α)
  | [] => []
  | u :: us => if u.1 ∈ us.map (·.1) then latest us else u :: latest us

lemma keys_latest (us : List (κ × α)) : (latest us).map (·.1) = (us.map (·.1)).dedup := by
  induction us with
  | nil => rfl
  | cons u us ih =>
      rw [latest, List.map_cons, List.dedup_cons]
      split
      · exact ih
      · rw [List.map_cons, ih]

lemma nodup_latest (us : List (κ × α)) : ((latest us).map (·.1)).Nodup := by
  rw [keys_latest]
  exact List.nodup_dedup _

/-- One more use takes the place of the earlier ones of its key. -/
lemma latest_concat (us : List (κ × α)) (u : κ × α) :
    latest (us ++ [u]) = (latest us).filter (fun e => e.1 ≠ u.1) ++ [u] := by
  induction us with
  | nil => simp [latest]
  | cons v us ih =>
      by_cases hrepeated : v.1 ∈ us.map (·.1)
      · have hstill : v.1 ∈ (us ++ [u]).map (·.1) := by
          rw [List.map_append]
          exact List.mem_append_left _ hrepeated
        rw [List.cons_append, latest, if_pos hstill, latest, if_pos hrepeated, ih]
      · by_cases hsame : v.1 = u.1
        · have hstill : v.1 ∈ (us ++ [u]).map (·.1) := by simp [hsame]
          rw [List.cons_append, latest, if_pos hstill, latest, if_neg hrepeated,
            List.filter_cons_of_neg (by simpa using hsame), ih]
        · have hnew : v.1 ∉ (us ++ [u]).map (·.1) := by
            rw [List.map_append, List.mem_append, not_or]
            exact ⟨hrepeated, by simpa using hsame⟩
          rw [List.cons_append, latest, if_neg hnew, latest, if_neg hrepeated,
            List.filter_cons_of_pos (by simpa using hsame), ih, List.cons_append]

lemma mem_of_mem_latest {us : List (κ × α)} {u : κ × α} (h : u ∈ latest us) : u ∈ us := by
  induction us with
  | nil => exact h
  | cons v us ih =>
      rw [latest] at h
      split at h
      · exact List.mem_cons_of_mem _ (ih h)
      · rcases List.mem_cons.1 h with rfl | hmem
        · exact List.mem_cons_self
        · exact List.mem_cons_of_mem _ (ih hmem)

/-- What is latest of a key is its last use. -/
lemma value_of_mem_latest {us since : List (κ × α)} {key : κ} {a b : α}
    (h : (key, b) ∈ latest (us ++ (key, a) :: since)) (hsince : key ∉ since.map (·.1)) : b = a := by
  induction us with
  | nil =>
      rw [List.nil_append, latest, if_neg hsince] at h
      rcases List.mem_cons.1 h with heq | hmem
      · exact (Prod.mk.inj heq).2
      · have hkey : key ∈ (latest since).map (·.1) := List.mem_map_of_mem hmem
        rw [keys_latest, List.mem_dedup] at hkey
        exact absurd hkey hsince
  | cons u us ih =>
      rw [List.cons_append, latest] at h
      split at h
      · exact ih h
      · rename_i hnew
        rcases List.mem_cons.1 h with heq | hmem
        · rw [← heq] at hnew
          exact absurd (by simp) hnew
        · exact ih hmem

/-! ## The end of a list -/

lemma rtake_map {β : Type} (f : α → β) (l : List α) (n : ℕ) :
    (l.rtake n).map f = (l.map f).rtake n := by
  rw [List.rtake, List.rtake, List.map_drop, List.length_map]

lemma rtake_of_length_le {l : List α} {n : ℕ} (h : l.length ≤ n) : l.rtake n = l := by
  rw [List.rtake, Nat.sub_eq_zero_of_le h, List.drop_zero]

/-- Where no key occurs twice, removing one of them makes room for one entry at most. -/
lemma take_others_take {es : List (κ × α)} (h : (es.map (·.1)).Nodup) (key : κ) (n : ℕ) :
    ((es.take (n + 1)).filter fun e => e.1 ≠ key).take n =
      (es.filter fun e => e.1 ≠ key).take n := by
  induction es generalizing n with
  | nil => rfl
  | cons e es ih =>
      rw [List.map_cons, List.nodup_cons] at h
      rw [List.take_succ_cons]
      by_cases hkey : e.1 = key
      · have hothers : ∀ e' ∈ es, decide (e'.1 ≠ key) = true := by
          intro e' he'
          have hne : e'.1 ≠ e.1 := fun heq => h.1 (heq ▸ List.mem_map_of_mem he')
          simpa [← hkey] using hne
        have hsome : ∀ e' ∈ es.take n, decide (e'.1 ≠ key) = true :=
          fun e' he' => hothers e' (List.mem_of_mem_take he')
        rw [List.filter_cons_of_neg (by simpa using hkey),
          List.filter_cons_of_neg (by simpa using hkey), List.filter_eq_self.2 hothers,
          List.filter_eq_self.2 hsome, List.take_take, min_self]
      · rw [List.filter_cons_of_pos (by simpa using hkey),
          List.filter_cons_of_pos (by simpa using hkey)]
        cases n with
        | zero => rfl
        | succ n => rw [List.take_succ_cons, List.take_succ_cons, ih h.2]

/-- Moving a key to the end commutes with cutting off the front. -/
lemma rtake_moved {es : List (κ × α)} (h : (es.map (·.1)).Nodup) (u : κ × α) (n : ℕ) :
    ((es.rtake n).filter (fun e => e.1 ≠ u.1) ++ [u]).rtake n =
      (es.filter (fun e => e.1 ≠ u.1) ++ [u]).rtake n := by
  cases n with
  | zero => rw [List.rtake_zero, List.rtake_zero]
  | succ n =>
      have hreversed : (es.reverse.map (·.1)).Nodup := by
        rw [List.map_reverse]
        exact List.nodup_reverse.2 h
      rw [List.rtake_concat_succ, List.rtake_concat_succ, List.rtake_eq_reverse_take_reverse,
        List.rtake_eq_reverse_take_reverse, List.rtake_eq_reverse_take_reverse,
        List.filter_reverse, List.reverse_reverse, take_others_take hreversed,
        ← List.filter_reverse]

/-- A key is in the end of a list of keys exactly if that end reaches back to its last place. -/
lemma mem_rtake_dedup_iff {earlier since : List κ} {key : κ} (hsince : key ∉ since) (n : ℕ) :
    key ∈ (earlier ++ key :: since).dedup.rtake n ↔ since.toFinset.card < n := by
  obtain ⟨front, hfront⟩ : ∃ front, front ++ key :: since.dedup =
      (earlier ++ key :: since).dedup := by
    rw [List.dedup_append, List.dedup_cons_of_notMem hsince]
    exact List.suffix_union_right _ _
  rw [← hfront, List.rtake, List.card_toFinset, List.length_append, List.length_cons]
  constructor
  · intro hmem
    by_contra hfew
    have hcut : front.length + 1 ≤ front.length + (since.dedup.length + 1) - n := by omega
    have hrest : key ∈ (front ++ key :: since.dedup).drop (front.length + 1) := by
      obtain ⟨more, hmore⟩ := Nat.exists_eq_add_of_le hcut
      rw [hmore, ← List.drop_drop] at hmem
      exact List.mem_of_mem_drop hmem
    rw [List.drop_length_add_append, List.drop_one, List.tail_cons, List.mem_dedup] at hrest
    exact hsince hrest
  · intro hfew
    have hcut : front.length + (since.dedup.length + 1) - n ≤ front.length := by omega
    rw [List.drop_append_of_le_length hcut]
    simp

/-! ## Caches -/

/-- A cache holds the end of the latest uses, as much of it as its capacity allows. -/
def Keeps (c : RecencyCache κ α) (us : List (κ × α)) : Prop :=
  c.entries = (latest us).rtake c.capacity

lemma peek?_eq_none_iff {c : RecencyCache κ α} {key : κ} :
    c.peek? key = none ↔ key ∉ c.keys := by
  rw [peek?, List.lookup_eq_none_iff, keys, List.mem_map]
  constructor
  · rintro h ⟨e, he, rfl⟩
    simpa using h e he
  · intro h e he
    simpa using fun heq => h ⟨e, he, Eq.symm heq⟩

lemma mem_entries_of_peek? {c : RecencyCache κ α} {key : κ} {a : α}
    (h : c.peek? key = some a) : (key, a) ∈ c.entries := by
  obtain ⟨front, rest, hentries, -⟩ := List.lookup_eq_some_iff.1 h
  simp [hentries]

namespace Keeps

variable {c : RecencyCache κ α} {us : List (κ × α)}

lemma empty (capacity : ℕ) : Keeps (⟨capacity, []⟩ : RecencyCache κ α) [] :=
  (List.rtake_nil _).symm

lemma clear (c : RecencyCache κ α) : c.clear.Keeps [] :=
  (List.rtake_nil _).symm

lemma length_le (h : c.Keeps us) : c.entries.length ≤ c.capacity := by
  rw [h, List.rtake, List.length_drop]
  omega

lemma keys_eq (h : c.Keeps us) : c.keys = (us.map (·.1)).dedup.rtake c.capacity := by
  rw [keys, h, rtake_map, keys_latest]

/-- What is cut off after one more use: the same, whether or not something has been before. -/
lemma rtake_others (h : c.Keeps us) (key : κ) (a : α) :
    (c.others key ++ [(key, a)]).rtake c.capacity =
      (latest (us ++ [(key, a)])).rtake c.capacity := by
  rw [others, h, latest_concat]
  exact rtake_moved (nodup_latest us) (key, a) c.capacity

/-- Writing a key is a use. -/
lemma put (h : c.Keeps us) (key : κ) (a : α) : (c.put key a).Keeps (us ++ [(key, a)]) :=
  h.rtake_others key a

/-- Finding a key is a use, after which nothing needs to be dropped. -/
lemma get? (h : c.Keeps us) {key : κ} {a : α} (hkept : c.peek? key = some a) :
    (c.get? key).2.Keeps (us ++ [(key, a)]) := by
  have hfits : (c.others key ++ [(key, a)]).length ≤ c.capacity := by
    have hfewer : (c.others key).length < c.entries.length :=
      List.length_filter_lt_length_iff_exists.2
        ⟨(key, a), mem_entries_of_peek? hkept, by simp⟩
    have hlength := h.length_le
    rw [List.length_append, List.length_singleton]
    omega
  have hmoved := h.rtake_others key a
  rw [rtake_of_length_le hfits] at hmoved
  rw [RecencyCache.get?, hkept]
  exact hmoved

/-- What is found under a key is the value of its last use. -/
lemma value_eq {earlier since : List (κ × α)} {key : κ} {a b : α}
    (h : c.Keeps (earlier ++ (key, a) :: since)) (hsince : key ∉ since.map (·.1))
    (hkept : c.peek? key = some b) : b = a := by
  have hmem := mem_entries_of_peek? hkept
  rw [h, List.rtake] at hmem
  exact value_of_mem_latest (List.mem_of_mem_drop hmem) hsince

/-- A used key is still kept exactly if fewer other keys than the capacity have been used since. -/
lemma mem_keys_iff {earlier since : List (κ × α)} {key : κ} {a : α}
    (h : c.Keeps (earlier ++ (key, a) :: since)) (hsince : key ∉ since.map (·.1)) :
    key ∈ c.keys ↔ (since.map (·.1)).toFinset.card < c.capacity := by
  rw [h.keys_eq, List.map_append, List.map_cons]
  exact mem_rtake_dedup_iff hsince c.capacity

/-- A key that has not been used is not kept. -/
lemma notMem_keys (h : c.Keeps us) {key : κ} (hnew : key ∉ us.map (·.1)) : key ∉ c.keys := by
  rw [h.keys_eq, List.rtake]
  exact fun hmem => hnew (List.mem_dedup.1 (List.mem_of_mem_drop hmem))

end Keeps

end RecencyCache

end FormEngine
