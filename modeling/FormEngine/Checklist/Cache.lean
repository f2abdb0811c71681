import FormEngine.Checklist

/-!
# Caches of checklists

`RecencyCache` keeps a bounded number of values under keys, least recently used first, and drops
from that end.  Writing a key and reading a kept one are uses.

`CompileCache` makes the checklist of a form at most once as long as it keeps it.  Forms are told
apart by keys that stand for their identity, and every compilation has a number of its own, so that
one can tell whether two answers are the same compilation.
-/

namespace FormEngine

/-- Values under keys, the least recently used first. -/
structure RecencyCache (κ α : Type) where
  capacity : Nat
  entries : List (κ × α) := []

namespace RecencyCache

variable {κ α : Type} [DecidableEq κ]

/-- The value under a key. -/
def peek? (c : RecencyCache κ α) (key : κ) : Option α := c.entries.lookup key

/-- The entries under other keys. -/
def others (c : RecencyCache κ α) (key : κ) : List (κ × α) := c.entries.filter fun e => e.1 ≠ key

/-- Reads a key; a kept one becomes the most recently used. -/
def get? (c : RecencyCache κ α) (key : κ) : Option α × RecencyCache κ α :=
  match c.peek? key with
  | none => (none, c)
  | some a => (some a, { c with entries := c.others key ++ [(key, a)] })

/-- Writes a key, which becomes the most recently used; what exceeds the capacity is dropped. -/
def put (c : RecencyCache κ α) (key : κ) (a : α) : RecencyCache κ α :=
  let entries := c.others key ++ [(key, a)]
  { c with entries := entries.drop (entries.length - c.capacity) }

/-- Drops everything. -/
def clear (c : RecencyCache κ α) : RecencyCache κ α := { c with entries := [] }

/-- The kept keys, the least recently used first. -/
def keys (c : RecencyCache κ α) : List κ := c.entries.map (·.1)

end RecencyCache

/-- How many compilations are kept. -/
def keptCompilations : Nat := 128

/-- A checklist with the number of its compilation. -/
structure Compilation where
  number : Nat
  checklist : Checklist

/-- The kept compilations, and how many there have been. -/
structure CompileCache (κ : Type) where
  kept : RecencyCache κ Compilation := ⟨keptCompilations, []⟩
  made : Nat := 0

namespace CompileCache

variable {κ : Type} [DecidableEq κ]

/-- The checklist of a form: the kept compilation, else a new one. -/
def compile (c : CompileCache κ) (key : κ) (form : Form) : Traced Compilation × CompileCache κ :=
  match c.kept.get? key with
  | (some kept, recency) => (pure kept, { c with kept := recency })
  | (none, _) =>
    let fresh := do
      let checklist ← form.compile
      return ⟨c.made, checklist⟩
    (fresh, ⟨c.kept.put key ⟨c.made, form.checklist⟩, c.made + 1⟩)

/-- Drops all compilations. -/
def clear (c : CompileCache κ) : CompileCache κ := { c with kept := c.kept.clear }

end CompileCache

end FormEngine
