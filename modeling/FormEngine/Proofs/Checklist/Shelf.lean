import FormEngine.Proofs.Checklist.Recency

/-!
# A recency cache on a shelf

A `RecencyCache` is told by its keys.  On a shelf its entries stand under addresses: each has the
thing that it is about beside its value, and is found by the address of that thing.  A `ShelfCache`
works on the shelf step by step, and two of these steps can fail: moving an entry that is not there
(`Shelf.moveToEnd`), and dropping one from a shelf that has none (`Shelf.evict`, if the capacity is
below zero).

`recency_after_run` says what comes of any run of commands.  None of the steps fails, and the shelf
is at every time the cache laid out by addresses, provided that things that exist at the same time
have addresses of their own (`Apart`).  What the cache holds can be told from the run alone: the
last keys that have been used since it was cleared (`recent`, `uses`), each with what has been
written under it last (`lastWritten?`).
-/

namespace FormEngine

/-! ## Entries under addresses -/

/-- What keeps a step on a shelf from being taken. -/
inductive ShelfFault where
  /-- There is no entry at the address. -/
  | missing
  /-- There is no entry at all. -/
  | empty
deriving DecidableEq, Repr

/-- Entries in order, each under an address, with the thing that it is about and its value. -/
abbrev Shelf (ι κ α : Type) := List (ι × κ × α)

namespace Shelf

variable {ι κ α : Type} [DecidableEq ι]

/-- Writes an entry: in the place of the one at its address, or behind all others. -/
def store (s : Shelf ι κ α) (address : ι) (entry : κ × α) : Shelf ι κ α :=
  if address ∈ s.map (·.1) then s.map fun e => if e.1 = address then (address, entry) else e
  else s ++ [(address, entry)]

/-- Moves the entry at an address behind all others. -/
def moveToEnd (s : Shelf ι κ α) (address : ι) : Except ShelfFault (Shelf ι κ α) :=
  match s.lookup address with
  | none => .error .missing
  | some entry => .ok (s.filter (fun e => e.1 ≠ address) ++ [(address, entry)])

/-- Drops entries from the front as long as there are more than the capacity. -/
def evict (capacity : Int) : Shelf ι κ α → Except ShelfFault (Shelf ι κ α)
  | [] => if capacity < 0 then .error .empty else .ok []
  | e :: s => if capacity < (e :: s).length then evict capacity s else .ok (e :: s)

omit [DecidableEq ι] in
/-- Only a capacity below zero cannot be kept to. -/
lemma evict_eq (capacity : Int) (s : Shelf ι κ α) :
    evict capacity s =
      if capacity < 0 then .error .empty else .ok (s.drop (s.length - capacity.toNat)) := by
  induction s with
  | nil => rw [evict, List.drop_nil]
  | cons e s ih =>
      rw [evict, ih]
      by_cases hnegative : capacity < 0
      · have hlong : capacity < (e :: s).length := by omega
        rw [if_pos hlong]
        simp [hnegative]
      · by_cases hlong : capacity < (e :: s).length
        · have hcut : (e :: s).length - capacity.toNat = (s.length - capacity.toNat) + 1 := by
            simp only [List.length_cons] at hlong ⊢
            omega
          rw [if_pos hlong, hcut, List.drop_succ_cons]
        · have hfits : (e :: s).length - capacity.toNat = 0 := by omega
          rw [if_neg hlong, hfits, List.drop_zero, if_neg hnegative]

/-- What has been written is found. -/
lemma lookup_store (s : Shelf ι κ α) (address : ι) (entry : κ × α) :
    (s.store address entry).lookup address = some entry := by
  unfold store
  split
  next hmem =>
    induction s with
    | nil => simp at hmem
    | cons e s ih =>
        rw [List.map_cons]
        by_cases he : e.1 = address
        · simp [he]
        · have hrest : address ∈ s.map (·.1) := by
            rcases List.mem_cons.1 hmem with heq | hrest
            · exact absurd heq.symm he
            · exact hrest
          have hother : (address == e.1) = false := by simpa using Ne.symm he
          rw [if_neg he, List.lookup_cons, hother]
          exact ih hrest
  next hnew =>
    have hnone : s.lookup address = none := by
      rw [List.lookup_eq_none_iff]
      intro e he
      have hne : address ≠ e.1 := by
        rintro rfl
        exact hnew (List.mem_map_of_mem he)
      simpa using hne
    rw [List.lookup_append, hnone]
    simp

/-- Writing an entry leaves those at other addresses as they are. -/
lemma filter_store (s : Shelf ι κ α) (address : ι) (entry : κ × α) :
    (s.store address entry).filter (fun e => e.1 ≠ address) =
      s.filter fun e => e.1 ≠ address := by
  unfold store
  split
  next hmem =>
    clear hmem
    induction s with
    | nil => rfl
    | cons e s ih =>
        rw [List.map_cons]
        by_cases he : e.1 = address
        · rw [if_pos he, List.filter_cons_of_neg (by simp), List.filter_cons_of_neg (by simp [he]),
            ih]
        · rw [if_neg he, List.filter_cons_of_pos (by simpa using he),
            List.filter_cons_of_pos (by simpa using he), ih]
  next => simp

/-- An entry that has been written is there to be moved. -/
lemma moveToEnd_store (s : Shelf ι κ α) (address : ι) (entry : κ × α) :
    (s.store address entry).moveToEnd address =
      .ok (s.filter (fun e => e.1 ≠ address) ++ [(address, entry)]) := by
  rw [moveToEnd, lookup_store]
  exact congrArg (fun rest => Except.ok (rest ++ [(address, entry)])) (filter_store s address entry)

end Shelf

/-- A recency cache on a shelf. -/
structure ShelfCache (ι κ α : Type) where
  capacity : Int
  entries : Shelf ι κ α := []

/-- What a cache can be told to do. -/
inductive RecencyCache.Command (κ α : Type) where
  | put (key : κ) (a : α)
  | get (key : κ)
  | clear
deriving DecidableEq

open RecencyCache (Command)

/-- The key that a command is about. -/
def RecencyCache.Command.key? {κ α : Type} : Command κ α → Option κ
  | .put key _ => some key
  | .get key => some key
  | .clear => none

namespace ShelfCache

variable {ι κ α : Type} [DecidableEq ι] [DecidableEq κ]

/-- Reads what is kept for the thing at an address, which becomes the most recently used; an entry
about another thing does not count. -/
def get? (c : ShelfCache ι κ α) (address : ι) (key : κ) :
    Except ShelfFault (Option α × ShelfCache ι κ α) :=
  match c.entries.lookup address with
  | none => .ok (none, c)
  | some (owner, a) =>
    if owner ≠ key then .ok (none, c)
    else do
      let entries ← c.entries.moveToEnd address
      return (some a, { c with entries })

/-- Writes what is to be kept for the thing at an address, and drops what exceeds the capacity. -/
def put (c : ShelfCache ι κ α) (address : ι) (key : κ) (a : α) :
    Except ShelfFault (ShelfCache ι κ α) := do
  let entries ← (c.entries.store address (key, a)).moveToEnd address
  let entries ← Shelf.evict c.capacity entries
  return { c with entries }

/-- Drops everything. -/
def clear (c : ShelfCache ι κ α) : ShelfCache ι κ α := { c with entries := [] }

/-- Carries out a command, given the addresses of things: the answer, and the cache after it. -/
def perform (address : κ → ι) (c : ShelfCache ι κ α) :
    Command κ α → Except ShelfFault (Option α × ShelfCache ι κ α)
  | .put key a => do return (none, ← c.put (address key) key a)
  | .get key => c.get? (address key) key
  | .clear => .ok (none, c.clear)

/-- Carries out a run of commands: the answers, and the cache after it. -/
def play (address : κ → ι) (c : ShelfCache ι κ α) :
    List (Command κ α) → Except ShelfFault (List (Option α) × ShelfCache ι κ α)
  | [] => .ok ([], c)
  | command :: run => do
    let (answer, c) ← c.perform address command
    let (answers, c) ← play address c run
    return (answer :: answers, c)

end ShelfCache

namespace RecencyCache

variable {ι κ α : Type} [DecidableEq ι] [DecidableEq κ]

/-! ## Runs of a cache -/

/-- Carries out a command: the answer, and the cache after it. -/
def perform (c : RecencyCache κ α) : Command κ α → Option α × RecencyCache κ α
  | .put key a => (none, c.put key a)
  | .get key => c.get? key
  | .clear => (none, c.clear)

/-- The answers to a run of commands. -/
def answers (c : RecencyCache κ α) : List (Command κ α) → List (Option α)
  | [] => []
  | command :: run => (c.perform command).1 :: answers (c.perform command).2 run

/-- The cache after a run of commands. -/
def after (c : RecencyCache κ α) (run : List (Command κ α)) : RecencyCache κ α :=
  run.foldl (fun c command => (c.perform command).2) c

/-- The cache on a shelf, given the addresses of things. -/
def layOut (address : κ → ι) (c : RecencyCache κ α) : ShelfCache ι κ α :=
  ⟨c.capacity, c.entries.map fun e => (address e.1, e)⟩

/-! ## What a run uses -/

/-- The keys that have been used last, as many as the capacity allows: of two the one that has been
used later stands behind. -/
def recent (capacity : Nat) (uses : List κ) : List κ := uses.dedup.rtake capacity

/-- The uses after one more command: writing a key is a use of it, and so is reading one that is
still there, but not reading one that is not. -/
def usesAfter (capacity : Nat) (uses : List κ) : Command κ α → List κ
  | .put key _ => uses ++ [key]
  | .get key => if key ∈ recent capacity uses then uses ++ [key] else uses
  | .clear => []

/-- The keys that a run uses since the last clearing, in order. -/
def uses (capacity : Nat) (run : List (Command κ α)) : List κ :=
  run.foldl (usesAfter capacity) []

/-- What a command writes under a key. -/
def Command.written? (key : κ) : Command κ α → Option α
  | .put other a => if other = key then some a else none
  | _ => none

/-- What a run has written under a key last. -/
def lastWritten? (run : List (Command κ α)) (key : κ) : Option α :=
  (run.filterMap (Command.written? key)).getLast?

/-- Things that exist at the same time have different addresses.  What a cache holds exists, and so
does what a command is about; what has been dropped may have left its address to another. -/
def Apart (address : κ → ι) (capacity : Nat) : List κ → List (Command κ α) → Prop
  | _, [] => True
  | uses, command :: run =>
    (∀ key ∈ command.key?, ∀ other ∈ recent capacity uses, address other = address key →
      other = key) ∧ Apart address capacity (usesAfter capacity uses command) run

instance decidableApart (address : κ → ι) (capacity : Nat) :
    (uses : List κ) → (run : List (Command κ α)) → Decidable (Apart address capacity uses run)
  | _, [] => .isTrue trivial
  | uses, command :: run =>
    have := decidableApart address capacity (usesAfter capacity uses command) run
    inferInstanceAs (Decidable (_ ∧ _))

/-! ## The cache follows its uses -/

section

variable {c : RecencyCache κ α} {us : List (κ × α)}

/-- One more command and the cache still holds the end of its uses. -/
lemma Keeps.perform (h : c.Keeps us) (command : Command κ α) :
    ∃ us', (c.perform command).2.Keeps us' ∧
      us'.map (·.1) = usesAfter c.capacity (us.map (·.1)) command := by
  cases command with
  | put key a =>
      refine ⟨us ++ [(key, a)], h.put key a, ?_⟩
      simp [usesAfter]
  | get key =>
      have hkeys : c.keys = recent c.capacity (us.map (·.1)) := h.keys_eq
      rw [usesAfter, ← hkeys]
      cases hpeek : c.peek? key with
      | none =>
          have hlost : key ∉ c.keys := peek?_eq_none_iff.1 hpeek
          have hsame : (c.perform (.get key)).2 = c := by
            simp [RecencyCache.perform, RecencyCache.get?, hpeek]
          rw [if_neg hlost, hsame]
          exact ⟨us, h, rfl⟩
      | some a =>
          have hkept : key ∈ c.keys := by
            by_contra hlost
            rw [peek?_eq_none_iff.2 hlost] at hpeek
            cases hpeek
          rw [if_pos hkept]
          refine ⟨us ++ [(key, a)], h.get? hpeek, ?_⟩
          simp
  | clear => exact ⟨[], Keeps.clear c, rfl⟩

lemma capacity_perform (c : RecencyCache κ α) (command : Command κ α) :
    (c.perform command).2.capacity = c.capacity := by
  cases command with
  | put key a => rfl
  | get key =>
      simp only [RecencyCache.perform, RecencyCache.get?]
      split <;> rfl
  | clear => rfl

end

/-! ## The steps on a shelf -/

section

variable {address : κ → ι} {c : RecencyCache κ α} {key : κ}

/-- Nothing that a cache holds has the address of another thing. -/
def Separates (address : κ → ι) (c : RecencyCache κ α) (key : κ) : Prop :=
  ∀ other ∈ c.keys, address other = address key → other = key

omit [DecidableEq ι] [DecidableEq κ] in
lemma Separates.entries (h : c.Separates address key) :
    ∀ e ∈ c.entries, address e.1 = address key ↔ e.1 = key := by
  intro e he
  constructor
  · exact h e.1 (List.mem_map_of_mem he)
  · intro heq
    rw [heq]

/-- What is found at an address is what is kept under the key of the thing there. -/
lemma Separates.lookup_layOut (h : c.Separates address key) :
    (c.layOut address).entries.lookup (address key) = (c.peek? key).map fun a => (key, a) := by
  have hentries := h.entries
  unfold layOut peek?
  generalize c.entries = es at hentries
  induction es with
  | nil => rfl
  | cons e es ih =>
      obtain ⟨hhead, hrest⟩ := List.forall_mem_cons.1 hentries
      obtain ⟨other, a⟩ := e
      rw [List.map_cons, List.lookup_cons, List.lookup_cons]
      by_cases hsame : other = key
      · subst hsame
        simp
      · have haddress : (address key == address other) = false := by
          have hne : address key ≠ address other := fun heq => hsame (hhead.1 heq.symm)
          simpa using hne
        have hkey : (key == other) = false := by simpa using Ne.symm hsame
        rw [haddress, hkey]
        exact ih hrest

/-- The entries at other addresses are those of other keys. -/
lemma Separates.filter_layOut (h : c.Separates address key) :
    (c.layOut address).entries.filter (fun e => e.1 ≠ address key) =
      (c.others key).map fun e => (address e.1, e) := by
  have hentries := h.entries
  rw [layOut, others, List.filter_map]
  congr 1
  refine List.filter_congr fun e he => ?_
  simp [hentries e he]

/-- Reading on a shelf is reading. -/
lemma Separates.get?_layOut (h : c.Separates address key) :
    (c.layOut address).get? (address key) key =
      .ok ((c.get? key).1, (c.get? key).2.layOut address) := by
  have hfound := h.lookup_layOut
  unfold ShelfCache.get? RecencyCache.get?
  cases hpeek : c.peek? key with
  | none =>
      rw [hfound, hpeek]
      rfl
  | some a =>
      have hmoved : (c.layOut address).entries.moveToEnd (address key) =
          .ok ((c.others key ++ [(key, a)]).map fun e => (address e.1, e)) := by
        rw [Shelf.moveToEnd, hfound, hpeek, Option.map_some]
        show Except.ok _ = _
        rw [h.filter_layOut, List.map_append]
        rfl
      rw [hfound, hpeek]
      simp only [Option.map_some, ne_eq, not_true_eq_false, if_false]
      rw [hmoved]
      rfl

/-- Writing on a shelf is writing. -/
lemma Separates.put_layOut (h : c.Separates address key) (a : α) :
    (c.layOut address).put (address key) key a = .ok ((c.put key a).layOut address) := by
  have hmoved : ((c.layOut address).entries.store (address key) (key, a)).moveToEnd (address key) =
      .ok ((c.others key ++ [(key, a)]).map fun e => (address e.1, e)) := by
    rw [Shelf.moveToEnd_store, h.filter_layOut, List.map_append]
    rfl
  have hcapacity : ¬ ((c.layOut address).capacity < 0) := by simp [layOut]
  unfold ShelfCache.put
  rw [hmoved]
  show (Shelf.evict (c.layOut address).capacity _ >>= _) = _
  rw [Shelf.evict_eq, if_neg hcapacity]
  simp [layOut, RecencyCache.put, bind, Except.bind, pure, Except.pure, List.map_drop]

/-- Carrying out a command on a shelf is carrying it out. -/
lemma perform_layOut {command : Command κ α} (h : ∀ key ∈ command.key?, c.Separates address key) :
    (c.layOut address).perform address command =
      .ok ((c.perform command).1, (c.perform command).2.layOut address) := by
  cases command with
  | put key a =>
      have hkey : c.Separates address key := h key rfl
      rw [ShelfCache.perform, hkey.put_layOut]
      rfl
  | get key =>
      have hkey : c.Separates address key := h key rfl
      exact hkey.get?_layOut
  | clear => rfl

end

/-- On a shelf a run goes as it goes, as long as the things that exist have addresses of their
own. -/
lemma Keeps.play_layOut {address : κ → ι} {c : RecencyCache κ α} {us : List (κ × α)}
    (h : c.Keeps us) {run : List (Command κ α)}
    (apart : Apart address c.capacity (us.map (·.1)) run) :
    (c.layOut address).play address run = .ok (c.answers run, (c.after run).layOut address) := by
  induction run generalizing c us with
  | nil => rfl
  | cons command run ih =>
      obtain ⟨hseparate, hrest⟩ := apart
      have hkeys : c.keys = recent c.capacity (us.map (·.1)) := h.keys_eq
      have hcommand : ∀ key ∈ command.key?, c.Separates address key := by
        intro key hkey other hother
        rw [hkeys] at hother
        exact hseparate key hkey other hother
      obtain ⟨us', hus', huses⟩ := h.perform command
      have hcapacity := c.capacity_perform command
      rw [← huses, ← hcapacity] at hrest
      rw [ShelfCache.play, perform_layOut hcommand]
      simp only [bind, Except.bind]
      rw [ih hus' hrest]
      rfl

/-! ## What is kept is what has been written last -/

lemma uses_concat (capacity : Nat) (run : List (Command κ α)) (command : Command κ α) :
    uses capacity (run ++ [command]) = usesAfter capacity (uses capacity run) command := by
  rw [uses, List.foldl_concat]
  rfl

lemma after_concat (c : RecencyCache κ α) (run : List (Command κ α)) (command : Command κ α) :
    c.after (run ++ [command]) = ((c.after run).perform command).2 := by
  rw [after, List.foldl_concat]
  rfl

lemma lastWritten?_concat (run : List (Command κ α)) (command : Command κ α) (key : κ) :
    lastWritten? (run ++ [command]) key = (command.written? key).or (lastWritten? run key) := by
  rw [lastWritten?, List.filterMap_append, List.getLast?_append]
  cases hwritten : command.written? key with
  | none => simp [hwritten, lastWritten?]
  | some a => simp [hwritten]

/-- What is known of a cache after a run: it holds the end of what the run has used, and under each
key what has been written under it last. -/
structure Recalls (capacity : Nat) (run : List (Command κ α)) (c : RecencyCache κ α) : Prop where
  capacity_eq : c.capacity = capacity
  keeps : ∃ us, c.Keeps us ∧ us.map (·.1) = uses capacity run
  written : ∀ e ∈ c.entries, lastWritten? run e.1 = some e.2

namespace Recalls

variable {capacity : Nat} {run : List (Command κ α)} {c : RecencyCache κ α}

lemma empty (capacity : Nat) : Recalls capacity [] (⟨capacity, []⟩ : RecencyCache κ α) where
  capacity_eq := rfl
  keeps := ⟨[], Keeps.empty capacity, rfl⟩
  written := fun _ he => absurd he List.not_mem_nil

/-- Under another key than the one that is written nothing changes. -/
lemma written_others (h : c.Recalls capacity run) {command : Command κ α} {key : κ}
    (hother : ∀ other, other ≠ key → command.written? other = none) :
    ∀ e ∈ c.others key, lastWritten? (run ++ [command]) e.1 = some e.2 := by
  intro e he
  obtain ⟨hmem, hne⟩ := List.mem_filter.1 he
  have hkey : e.1 ≠ key := by simpa using hne
  rw [lastWritten?_concat, hother e.1 hkey, Option.none_or]
  exact h.written e hmem

/-- One command more. -/
lemma next (h : c.Recalls capacity run) (command : Command κ α) :
    (c.perform command).2.Recalls capacity (run ++ [command]) where
  capacity_eq := (c.capacity_perform command).trans h.capacity_eq
  keeps := by
    obtain ⟨us, hus, huses⟩ := h.keeps
    obtain ⟨us', hus', huses'⟩ := hus.perform command
    refine ⟨us', hus', ?_⟩
    rw [huses', huses, h.capacity_eq, uses_concat]
  written := by
    cases command with
    | put key a =>
        intro e he
        have hnew : (Command.put key a).written? key = some a := if_pos rfl
        rcases List.mem_append.1 (List.mem_of_mem_drop he) with hmem | hlast
        · refine h.written_others (fun other hne => ?_) e hmem
          exact if_neg hne.symm
        · obtain rfl := List.mem_singleton.1 hlast
          rw [lastWritten?_concat, hnew, Option.some_or]
    | get key =>
        have hold : ∀ e ∈ c.entries, lastWritten? (run ++ [.get key]) e.1 = some e.2 := by
          intro e he
          rw [lastWritten?_concat]
          exact h.written e he
        simp only [RecencyCache.perform, RecencyCache.get?]
        cases hpeek : c.peek? key with
        | none => exact hold
        | some a =>
            intro e he
            rcases List.mem_append.1 he with hmem | hlast
            · exact hold e (List.mem_of_mem_filter hmem)
            · obtain rfl := List.mem_singleton.1 hlast
              exact hold (key, a) (mem_entries_of_peek? hpeek)
    | clear => exact fun e he => absurd he List.not_mem_nil

lemma after (capacity : Nat) (run : List (Command κ α)) :
    ((⟨capacity, []⟩ : RecencyCache κ α).after run).Recalls capacity run := by
  induction run using List.reverseRecOn with
  | nil => exact empty capacity
  | append_singleton run command ih =>
      rw [after_concat]
      exact ih.next command

/-- What is held are the last keys that have been used. -/
lemma keys_eq (h : c.Recalls capacity run) : c.keys = recent capacity (uses capacity run) := by
  obtain ⟨us, hus, huses⟩ := h.keeps
  rw [hus.keys_eq, huses, h.capacity_eq]
  rfl

/-- A key that is held is found, with what has been written under it last. -/
lemma get?_of_mem (h : c.Recalls capacity run) {key : κ} (hkey : key ∈ c.keys) :
    ∃ a, lastWritten? run key = some a ∧ (c.get? key).1 = some a := by
  cases hpeek : c.peek? key with
  | none => exact absurd hkey (peek?_eq_none_iff.1 hpeek)
  | some a =>
      refine ⟨a, h.written (key, a) (mem_entries_of_peek? hpeek), ?_⟩
      rw [RecencyCache.get?, hpeek]

end Recalls

/-- A key that is not held is not found, and asking for it changes nothing. -/
lemma get?_of_notMem {c : RecencyCache κ α} {key : κ} (h : key ∉ c.keys) :
    c.get? key = (none, c) := by
  rw [RecencyCache.get?, peek?_eq_none_iff.2 h]

/-- After any run of commands a cache holds, the least recent first, the last keys that the run has
used since it was cleared, as many as there are and the capacity allows.  A key is found exactly if
it is held, and then with what the run has written under it last; one that is not found leaves the
cache as it is.  On a shelf, where things have addresses of their own as long as they exist, the run
goes through without a fault, with the same answers and the same entries at every time. -/
theorem recency_after_run (address : κ → ι) (capacity : Nat) (run : List (Command κ α))
    (apart : Apart address capacity [] run) :
    let start : RecencyCache κ α := ⟨capacity, []⟩
    let kept := recent capacity (uses capacity run)
    ShelfCache.play address ⟨capacity, []⟩ run =
        .ok (start.answers run, (start.after run).layOut address) ∧
      (start.after run).keys = kept ∧
      kept.length = min capacity (uses capacity run).dedup.length ∧
      ∀ key, if key ∈ kept then
          ∃ a, lastWritten? run key = some a ∧ ((start.after run).get? key).1 = some a
        else (start.after run).get? key = (none, start.after run) := by
  intro start kept
  have hrecalls : (start.after run).Recalls capacity run := Recalls.after capacity run
  have hkeys : (start.after run).keys = kept := hrecalls.keys_eq
  refine ⟨?_, hkeys, ?_, ?_⟩
  · exact (Keeps.empty capacity).play_layOut apart
  · show (List.rtake _ capacity).length = _
    rw [List.rtake, List.length_drop]
    omega
  · intro key
    rw [← hkeys]
    split
    next hkept => exact hrecalls.get?_of_mem hkept
    next hlost => exact get?_of_notMem hlost

/-- Four things pass through a cache for two.  The last one gets the address of the second, which
has been dropped before. -/
def rounds : List (Command Nat Text) :=
  [.put 0 "a", .put 1 "b", .get 0, .put 2 "c", .put 0 "d", .get 2, .put 4 "e", .get 0, .get 2]

theorem recency_of_rounds :
    Apart (· % 3) 2 [] rounds ∧
      ShelfCache.play (· % 3) ⟨2, []⟩ rounds =
        .ok ([none, none, some "a", none, none, some "c", none, none, some "c"],
          ⟨2, [(1, 4, "e"), (2, 2, "c")]⟩) ∧
      ((⟨2, []⟩ : RecencyCache Nat Text).after rounds).keys = [4, 2] ∧
      (((⟨2, []⟩ : RecencyCache Nat Text).after rounds).get? 4).1 = some "e" ∧
      (((⟨2, []⟩ : RecencyCache Nat Text).after rounds).get? 1).1 = none := by
  have apart : Apart (· % 3) 2 [] rounds := by decide
  obtain ⟨hplay, hkeys, -, hget⟩ := recency_after_run (· % 3) 2 rounds apart
  obtain ⟨e, hwritten, hfound⟩ := hget 4
  have hlost := hget 1
  refine ⟨apart, hplay, hkeys, ?_, congrArg Prod.fst hlost⟩
  rw [hfound, ← hwritten]
  rfl

end RecencyCache

end FormEngine
