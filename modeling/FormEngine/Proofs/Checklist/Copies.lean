import Mathlib.Tactic.Lemma
import FormEngine.Checklist

/-!
# Predicates that change the mappings they are given

A predicate is handed the values of a form as a mapping, and nothing keeps it from changing that
mapping, at once or whenever it is asked again.  For this reason each predicate gets a copy of its
own.  `Checklist.judge` needs no copies, since its predicates cannot change anything.

Here the mappings that exist during a judgement have addresses, and `Memory` says what is at each
address and which addresses have been given away.  `Checklist.judgeIn` judges values that are read
at an address: each predicate is given the address of a fresh copy, and when it is asked, it may
write anything to any address that some predicate has been given so far (`Conduct`).  It is the
mappings that can change; the values in them cannot.

`Checklist.judgeIn_spec` says that nothing of this can be noticed.  The judgement is that of
`Checklist.judge`, with the same questions to the same predicates and the same report or fault, and
the values are afterwards what they were.  What carries the proof is that a copy is never made at
the address that it has been copied from (`Memory.Keeps.give`).
-/

namespace FormEngine

/-- The mappings that exist, by their addresses. -/
structure Memory where
  cells : List (Mapping Value)
  /-- The addresses that predicates have been given. -/
  given : List Nat

namespace Memory

/-- The mapping at an address. -/
def read (m : Memory) (address : Nat) : Mapping Value := (m.cells[address]?).getD .empty

/-- The address of the next copy. -/
def fresh (m : Memory) : Nat := m.cells.length

/-- Copies the mapping at an address to a fresh one and gives that away. -/
def give (m : Memory) (address : Nat) : Memory :=
  ⟨m.cells ++ [m.read address], m.fresh :: m.given⟩

/-- What a predicate writes to an address, which it has to have been given. -/
def write (m : Memory) (address : Nat) (mapping : Mapping Value) : Memory :=
  if m.given.contains address then { m with cells := m.cells.set address mapping } else m

/-- Several writes one after the other. -/
def writeAll (m : Memory) (writes : List (Nat × Mapping Value)) : Memory :=
  writes.foldl (fun m w => m.write w.1 w.2) m

/-- There are some values at an address that has not been given away. -/
structure Keeps (m : Memory) (address : Nat) (values : Mapping Value) : Prop where
  held : m.cells[address]? = some values
  withheld : address ∉ m.given

namespace Keeps

variable {m : Memory} {address : Nat} {values : Mapping Value}

lemma read_eq (h : m.Keeps address values) : m.read address = values := by
  rw [read, h.held, Option.getD_some]

lemma lt_fresh (h : m.Keeps address values) : address < m.fresh :=
  (List.getElem?_eq_some_iff.1 h.held).1

/-- A copy is made at an address of its own. -/
lemma give (h : m.Keeps address values) : (m.give address).Keeps address values where
  held := by
    rw [Memory.give, List.getElem?_append_left h.lt_fresh]
    exact h.held
  withheld := by
    rw [Memory.give, List.mem_cons]
    rintro (heq | hgiven)
    · exact absurd h.lt_fresh (heq ▸ Nat.lt_irrefl m.fresh)
    · exact h.withheld hgiven

/-- A copy holds what has been copied. -/
lemma read_give (h : m.Keeps address values) : (m.give address).read m.fresh = values := by
  rw [Memory.give, read, fresh, List.getElem?_concat_length, Option.getD_some, h.read_eq]

/-- Writes to what has been given away do not reach the values. -/
lemma write (h : m.Keeps address values) (other : Nat) (mapping : Mapping Value) :
    (m.write other mapping).Keeps address values := by
  rw [Memory.write]
  split
  next hgiven =>
    have hne : other ≠ address := by
      rintro rfl
      exact h.withheld (List.contains_iff_mem.1 hgiven)
    exact ⟨(List.getElem?_set_ne hne).trans h.held, h.withheld⟩
  next => exact h

lemma writeAll (h : m.Keeps address values) (writes : List (Nat × Mapping Value)) :
    (m.writeAll writes).Keeps address values := by
  induction writes generalizing m with
  | nil => exact h
  | cons w writes ih => exact ih (h.write w.1 w.2)

end Keeps

end Memory

/-- What a predicate writes when it is asked about a value: it knows the address that it is given
and all that there is. -/
abbrev Conduct := Predicate → Value → Nat → Memory → List (Nat × Mapping Value)

/-! ## Judging in a memory -/

/-- Asks a predicate about a value and a copy of the mapping at an address. -/
def Predicate.judgeIn (conduct : Conduct) (p : Predicate) (field : Text)
    (given converted : Value) (address : Nat) (m : Memory) : Traced Judgement × Memory :=
  let m' := m.give address
  (p.judge field given converted (m'.read m.fresh),
    m'.writeAll (conduct p converted m.fresh m'))

/-- Judges a value in the light of the values at an address. -/
def Gate.judgeIn (conduct : Conduct) (today : Date) (g : Gate) (v : Value) (address : Nat)
    (m : Memory) : Traced Judgement × Memory :=
  match g.check.run today v with
  | .error (.violation message) => (pure ⟨v, some message⟩, m)
  | .error (.fault f) => (Traced.fault f, m)
  | .ok converted =>
    match g.predicate with
    | none => (pure ⟨converted, none⟩, m)
    | some p => p.judgeIn conduct g.fieldId v converted address m

namespace Checklist

/-- Judges the fields of a list one after the other, by the values at an address. -/
def judgeFromIn (conduct : Conduct) (today : Date) (address : Nat) (only : Option (List Text)) :
    List (Text × Gate) → Report → Memory → Traced Report × Memory
  | [], r, m => (pure r, m)
  | (field, g) :: rest, r, m =>
    if only.all (·.contains field) then
      let (judged, m') := g.judgeIn conduct today (valueOf (m.read address) field) address m
      let since (j : Judgement) :=
        judgeFromIn conduct today address only rest (r.add field j) m'
      (judged >>= fun j => (since j).1,
        match judged.result with
        | .ok j => (since j).2
        | .error _ => m')
    else judgeFromIn conduct today address only rest r m

/-- Judges the values at an address, or those of some fields only. -/
def judgeIn (conduct : Conduct) (today : Date) (list : Checklist) (address : Nat)
    (only : Option (List Text)) (m : Memory) : Traced Report × Memory :=
  judgeFromIn conduct today address only list.gates.entries {} m

end Checklist

/-! ## Nothing of it can be noticed -/

variable (conduct : Conduct) (today : Date) {address : Nat} {m : Memory} {values : Mapping Value}

lemma Predicate.judgeIn_spec (h : m.Keeps address values) (p : Predicate) (field : Text)
    (given converted : Value) :
    (p.judgeIn conduct field given converted address m).1 =
        p.judge field given converted values ∧
      (p.judgeIn conduct field given converted address m).2.Keeps address values := by
  refine ⟨?_, h.give.writeAll _⟩
  rw [judgeIn, h.read_give]

lemma Gate.judgeIn_spec (h : m.Keeps address values) (g : Gate) (v : Value) :
    (g.judgeIn conduct today v address m).1 = g.judge today v values ∧
      (g.judgeIn conduct today v address m).2.Keeps address values := by
  rw [judgeIn, judge]
  rcases g.check.run today v with (message | fault) | converted
  · exact ⟨rfl, h⟩
  · exact ⟨rfl, h⟩
  · cases g.predicate with
    | none => exact ⟨rfl, h⟩
    | some p => exact Predicate.judgeIn_spec conduct h ..

lemma Checklist.judgeFromIn_spec (h : m.Keeps address values) (only : Option (List Text))
    (gates : List (Text × Gate)) (r : Report) :
    (judgeFromIn conduct today address only gates r m).1 = judgeFrom today values only gates r ∧
      (judgeFromIn conduct today address only gates r m).2.Keeps address values := by
  induction gates generalizing r m with
  | nil => exact ⟨rfl, h⟩
  | cons e gates ih =>
      obtain ⟨field, g⟩ := e
      rw [judgeFromIn, judgeFrom]
      split
      · rw [h.read_eq]
        obtain ⟨hjudged, hkept⟩ := Gate.judgeIn_spec conduct today h g (valueOf values field)
        dsimp only
        rw [hjudged]
        refine ⟨congrArg _ (funext fun j => (ih hkept _).1), ?_⟩
        split
        · exact (ih hkept _).2
        · exact hkept
      · exact ih h r

/-- Whatever predicates do to the mappings that they are given, values are judged as if they did
nothing, and are still there afterwards. -/
theorem Checklist.judgeIn_spec (h : m.Keeps address values) (list : Checklist)
    (only : Option (List Text)) :
    (list.judgeIn conduct today address only m).1 = list.judge today values only ∧
      (list.judgeIn conduct today address only m).2.Keeps address values :=
  judgeFromIn_spec conduct today h only list.gates.entries {}

end FormEngine
