import Mathlib.Tactic.Common
import FormEngine.Pattern.Match

/-!
# What a search finds

A search for a pattern tries one choice after the other, in an order of preference, and takes back
what fails; a bound on the length of a path keeps it from going on for ever, and a repetition is not
gone on with after a round that has not moved.  `Node.Leads` says what a pattern means without any
of this: from which places of a text to which it leads.

`attempt_isSome_iff` says that the search for the parts of a pattern succeeds exactly if they lead
anywhere.  It is by induction on the bound, which `tasksCost` shows to be large enough: a step takes
one task off, and puts tasks of a smaller cost in its place.  That empty rounds do not matter is
`rounds_iff_times`.

Patterns are meant that have no parts whose meaning depends on the order of the search
(`Node.isPlain`): no atomic groups and possessive repetitions, nothing that refers to what a group
has matched, and nothing that looks behind.
-/

namespace FormEngine.Pattern

/-! ## Meaning -/

/-- A relation a number of times in a row. -/
def Times (R : ℕ → ℕ → Prop) : ℕ → ℕ → ℕ → Prop
  | 0, i, j => j = i
  | n + 1, i, j => ∃ k, R i k ∧ Times R n k j

/-- One code point of a text that is accepted. -/
def StepsOver (text : Array ℕ) (accepts : ℕ → Bool) (i j : ℕ) : Prop :=
  ∃ m, text[i]? = some m ∧ accepts m = true ∧ j = i + 1

mutual

/-- Whether a node leads from one place of a text to another. -/
def Node.Leads (text : Array ℕ) : Node → ℕ → ℕ → Prop
  | .literal case n, i, j => StepsOver text (fun m => (case.variants n).contains m) i j
  | .anyChar lineFeed, i, j => StepsOver text (fun m => lineFeed || m ≠ 0x0A) i j
  | .set case ascii negated items, i, j => StepsOver text (inSet case ascii negated items) i j
  | .anchor a, i, j => a.holds text i = true ∧ j = i
  | .branch alternatives, i, j => leadsByAny text alternatives i j
  | .group _ body, i, j => leadsAlong text body i j
  | .repetition _ least most body, i, j =>
    ∃ n, least ≤ n ∧ (∀ m ∈ most, n ≤ m) ∧ Times (leadsAlong text body) n i j
  | .look _ negated body, i, j => ((∃ k, leadsAlong text body i k) ↔ negated = false) ∧ j = i
  | _, _, _ => False

/-- Whether a sequence leads from one place of a text to another. -/
def leadsAlong (text : Array ℕ) : List Node → ℕ → ℕ → Prop
  | [], i, j => j = i
  | n :: ns, i, j => ∃ k, n.Leads text i k ∧ leadsAlong text ns k j

/-- Whether one of some alternatives leads from one place of a text to another. -/
def leadsByAny (text : Array ℕ) : List (List Node) → ℕ → ℕ → Prop
  | [], _, _ => False
  | alternative :: rest, i, j => leadsAlong text alternative i j ∨ leadsByAny text rest i j

end

mutual

/-- True of the nodes whose meaning does not depend on the order of the search. -/
def Node.isPlain : Node → Bool
  | .literal .. => true
  | .anyChar _ => true
  | .set .. => true
  | .anchor _ => true
  | .branch alternatives => plainBranches alternatives
  | .group _ body => plainSequence body
  | .repetition greed least most body =>
    greed ≠ .possessive && most.all (least ≤ ·) && plainSequence body
  | .look behind _ body => !behind && plainSequence body
  | _ => false

/-- Whether all parts of a sequence are such nodes. -/
def plainSequence : List Node → Bool
  | [] => true
  | n :: ns => n.isPlain && plainSequence ns

/-- Whether all parts of all alternatives are such nodes. -/
def plainBranches : List (List Node) → Bool
  | [] => true
  | alternative :: rest => plainSequence alternative && plainBranches rest

end

/-! ## Rounds -/

/-- The rounds of a repetition as the search goes through them: the required ones, and then further
ones, each of which must not begin where the one before it has begun. -/
inductive Rounds (R : ℕ → ℕ → Prop) (least : ℕ) (most : Option ℕ) :
    ℕ → Option ℕ → ℕ → ℕ → Prop
  | stop {count last i} : least ≤ count → Rounds R least most count last i i
  | required {count last i k j} : count < least → R i k →
      Rounds R least most (count + 1) last k j → Rounds R least most count last i j
  | further {count last i k j} : least ≤ count → (∀ m ∈ most, count < m) → last ≠ some i →
      R i k → Rounds R least most (count + 1) (some i) k j → Rounds R least most count last i j

section Rounds

variable {R : ℕ → ℕ → Prop} {least count i j : ℕ} {most last : Option ℕ}

lemma rounds_of_lt (h : count < least) : Rounds R least most count last i j ↔
    ∃ k, R i k ∧ Rounds R least most (count + 1) last k j := by
  constructor
  · intro hrounds
    cases hrounds with
    | stop hle => omega
    | required _ hone hrest => exact ⟨_, hone, hrest⟩
    | further hle => omega
  · rintro ⟨k, hone, hrest⟩
    exact .required h hone hrest

lemma rounds_of_le (h : least ≤ count) : Rounds R least most count last i j ↔
    j = i ∨ ((∀ m ∈ most, count < m) ∧ last ≠ some i) ∧
      ∃ k, R i k ∧ Rounds R least most (count + 1) (some i) k j := by
  constructor
  · intro hrounds
    cases hrounds with
    | stop => exact .inl rfl
    | required hlt => omega
    | further _ hmost hlast hone hrest => exact .inr ⟨⟨hmost, hlast⟩, _, hone, hrest⟩
  · rintro (rfl | ⟨⟨hmost, hlast⟩, k, hone, hrest⟩)
    · exact .stop h
    · exact .further h hmost hlast hone hrest

/-- The rounds that the search goes through are rounds, and of an allowed number. -/
lemma Rounds.times (h : Rounds R least most count last i j) (hleast : ∀ m ∈ most, least ≤ m)
    (hcount : ∀ m ∈ most, count ≤ m) :
    ∃ n, least ≤ count + n ∧ (∀ m ∈ most, count + n ≤ m) ∧ Times R n i j := by
  induction h with
  | stop hle => exact ⟨0, hle, hcount, rfl⟩
  | required hlt hone _ ih =>
      obtain ⟨n, hle, hmost, hrest⟩ := ih fun m hm => Nat.lt_of_lt_of_le hlt (hleast m hm)
      refine ⟨n + 1, by omega, fun m hm => ?_, _, hone, hrest⟩
      have hbound := hmost m hm
      omega
  | further hle hbelow _ hone _ ih =>
      obtain ⟨n, hle', hmost, hrest⟩ := ih hbelow
      refine ⟨n + 1, by omega, fun m hm => ?_, _, hone, hrest⟩
      have hbound := hmost m hm
      omega

/-- Rounds of an allowed number are gone through by the search, empty ones left out. -/
lemma rounds_of_times {n : ℕ} (h : Times R n i j) (hleast : least ≤ count + n)
    (hmost : ∀ m ∈ most, count + n ≤ m) (hlast : last = none ∨ least ≤ count ∧ last ≠ some i) :
    Rounds R least most count last i j := by
  induction n generalizing count last i with
  | zero =>
      obtain rfl : j = i := h
      exact .stop hleast
  | succ n ih =>
      obtain ⟨k, hone, hrest⟩ := h
      have hnext : ∀ m ∈ most, count + 1 + n ≤ m := by
        intro m hm
        have hbound := hmost m hm
        omega
      by_cases hlt : count < least
      · have hnone : last = none := hlast.resolve_right fun hle => by omega
        exact .required hlt hone (ih hrest (by omega) hnext (.inl hnone))
      · have hle : least ≤ count := by omega
        by_cases hmoved : k = i
        · -- the round has not moved, and the others are gone through without it
          subst hmoved
          exact ih hrest (by omega) (fun m hm => Nat.le_of_succ_le (hmost m hm)) hlast
        · have hstart : last ≠ some i := by
            rcases hlast with rfl | ⟨-, hne⟩
            · exact nofun
            · exact hne
          have hbelow : ∀ m ∈ most, count < m := by
            intro m hm
            have hbound := hmost m hm
            omega
          have hplace : some i ≠ some k := fun h => hmoved (Option.some.inj h).symm
          exact .further hle hbelow hstart hone
            (ih hrest (by omega) hnext (.inr ⟨by omega, hplace⟩))

/-- The search goes through a repetition exactly as the repetition leads. -/
theorem rounds_iff_times (hleast : ∀ m ∈ most, least ≤ m) :
    Rounds R least most 0 none i j ↔ ∃ n, least ≤ n ∧ (∀ m ∈ most, n ≤ m) ∧ Times R n i j := by
  constructor
  · intro h
    obtain ⟨n, hle, hmost, hrest⟩ := h.times hleast fun m _ => Nat.zero_le m
    rw [Nat.zero_add] at hle
    simp only [Nat.zero_add] at hmost
    exact ⟨n, hle, hmost, hrest⟩
  · rintro ⟨n, hle, hmost, h⟩
    refine rounds_of_times h (by omega) ?_ (.inl rfl)
    simpa only [Nat.zero_add] using hmost

end Rounds

/-! ## Tasks -/

section Tasks

variable (text : Array ℕ)

/-- Whether a task leads from one place of a text to another. -/
def Task.Leads : Task → ℕ → ℕ → Prop
  | .part node, i, j => node.Leads text i j
  | .round _ least most body count last, i, j =>
    Rounds (leadsAlong text body) least most count last i j
  | .close .., i, j => j = i

/-- Whether tasks lead, one after the other, from one place of a text to another. -/
def tasksLead : List Task → ℕ → ℕ → Prop
  | [], i, j => j = i
  | t :: ts, i, j => ∃ k, t.Leads text i k ∧ tasksLead ts k j

/-- True of the tasks of nodes whose meaning does not depend on the order of the search. -/
def Task.isPlain : Task → Bool
  | .part node => node.isPlain
  | .round greed least most body .. =>
    greed ≠ .possessive && most.all (least ≤ ·) && plainSequence body
  | .close .. => true

variable {text}

lemma tasksLead_append (ts us : List Task) (i j : ℕ) :
    tasksLead text (ts ++ us) i j ↔ ∃ k, tasksLead text ts i k ∧ tasksLead text us k j := by
  induction ts generalizing i with
  | nil => simp [tasksLead]
  | cons t ts ih =>
      simp only [List.cons_append, tasksLead, ih]
      constructor
      · rintro ⟨m, hfirst, k, hts, hus⟩
        exact ⟨k, ⟨m, hfirst, hts⟩, hus⟩
      · rintro ⟨k, ⟨m, hfirst, hts⟩, hus⟩
        exact ⟨m, hfirst, k, hts, hus⟩

lemma tasksLead_tasks (body : List Node) (i j : ℕ) :
    tasksLead text (tasks body) i j ↔ leadsAlong text body i j := by
  induction body generalizing i with
  | nil => rw [tasks, List.map_nil, tasksLead, leadsAlong]
  | cons n ns ih =>
      rw [tasks, List.map_cons, tasksLead, leadsAlong]
      exact exists_congr fun k => and_congr Iff.rfl (ih k)

lemma leadsAlong_append {ns ms : List Node} {i j : ℕ} :
    leadsAlong text (ns ++ ms) i j ↔ ∃ k, leadsAlong text ns i k ∧ leadsAlong text ms k j := by
  induction ns generalizing i with
  | nil => simp [leadsAlong]
  | cons n ns ih =>
      simp only [List.cons_append, leadsAlong, ih]
      constructor
      · rintro ⟨m, hn, k, hns, hms⟩
        exact ⟨k, ⟨m, hn, hns⟩, hms⟩
      · rintro ⟨k, ⟨m, hn, hns⟩, hms⟩
        exact ⟨m, hn, k, hns, hms⟩

lemma leadsByAny_iff (alternatives : List (List Node)) (i j : ℕ) :
    leadsByAny text alternatives i j ↔ ∃ a ∈ alternatives, leadsAlong text a i j := by
  induction alternatives with
  | nil => simp [leadsByAny]
  | cons a rest ih => simp [leadsByAny, ih]

lemma plainSequence_iff (body : List Node) :
    plainSequence body = true ↔ ∀ n ∈ body, n.isPlain = true := by
  induction body with
  | nil => simp [plainSequence]
  | cons n ns ih => simp [plainSequence, ih]

lemma plainBranches_iff (alternatives : List (List Node)) :
    plainBranches alternatives = true ↔ ∀ a ∈ alternatives, plainSequence a = true := by
  induction alternatives with
  | nil => simp [plainBranches]
  | cons a rest ih => simp [plainBranches, ih]

lemma plain_tasks {body : List Node} (h : plainSequence body = true) :
    ∀ t ∈ tasks body, t.isPlain = true := by
  intro t ht
  obtain ⟨n, hn, rfl⟩ := List.mem_map.1 ht
  exact (plainSequence_iff body).1 h n hn

end Tasks

/-! ## Costs -/

/-- A bound on the tasks that one path meets when it goes through a task from a place on.  Each
round that is still to come is required, or moves, or is the one that does not. -/
def Task.cost (length position : ℕ) : Task → ℕ
  | .part node => node.cost length
  | .round _ least _ body count last =>
    ((least - count) + (length - position) + if last = some position then 0 else 1) *
      (sequenceCost length body + 2) + 1
  | .close .. => 1

/-- A bound for tasks one after the other. -/
def tasksCost (length position : ℕ) : List Task → ℕ
  | [] => 0
  | t :: ts => t.cost length position + tasksCost length position ts

section Costs

variable {length position : ℕ}

lemma tasksCost_cons (t : Task) (ts : List Task) :
    tasksCost length position (t :: ts) = t.cost length position + tasksCost length position ts :=
  rfl

lemma tasksCost_append (ts us : List Task) : tasksCost length position (ts ++ us) =
    tasksCost length position ts + tasksCost length position us := by
  induction ts with
  | nil => rw [List.nil_append, tasksCost, Nat.zero_add]
  | cons t ts ih => rw [List.cons_append, tasksCost_cons, tasksCost_cons, ih, Nat.add_assoc]

lemma tasksCost_tasks (length position : ℕ) (body : List Node) :
    tasksCost length position (tasks body) + 1 = sequenceCost length body := by
  induction body with
  | nil => rfl
  | cons n ns ih =>
      rw [tasks, List.map_cons, tasksCost_cons, sequenceCost, ← ih]
      rfl

lemma sequenceCost_le_branchCost (length : ℕ) {alternatives : List (List Node)} {a : List Node}
    (h : a ∈ alternatives) : sequenceCost length a ≤ branchCost length alternatives := by
  induction alternatives with
  | nil => cases h
  | cons b rest ih =>
      rw [branchCost]
      rcases List.mem_cons.1 h with rfl | h
      · omega
      · have hrest := ih h
        omega

/-- One step forward in a text makes no task more expensive. -/
lemma Task.cost_succ_le (t : Task) (h : position < length) :
    t.cost length (position + 1) ≤ t.cost length position := by
  cases t with
  | part node => exact Nat.le_refl _
  | close index start => exact Nat.le_refl _
  | round greed least most body count last =>
      refine Nat.succ_le_succ (Nat.mul_le_mul_right _ ?_)
      split <;> split <;> omega

lemma tasksCost_succ_le (ts : List Task) (h : position < length) :
    tasksCost length (position + 1) ts ≤ tasksCost length position ts := by
  induction ts with
  | nil => exact Nat.le_refl 0
  | cons t ts ih =>
      rw [tasksCost_cons, tasksCost_cons]
      exact Nat.add_le_add (t.cost_succ_le h) ih

end Costs

/-! ## The search -/

/-- Whether a search with some bound succeeds exactly where tasks lead anywhere, provided that the
tasks do not cost more. -/
def Finds (s : Subject) (fuel : ℕ) : Prop :=
  ∀ (ts : List Task) (p : ℕ) (captures : Captures), (∀ t ∈ ts, t.isPlain = true) →
    p ≤ s.text.size → tasksCost s.text.size p ts < fuel →
      ((attempt s fuel ts p captures).isSome = true ↔ ∃ q, tasksLead s.text ts p q)

section Finds

variable {s : Subject} {fuel p : ℕ} {rest : List Task} {captures : Captures}

-- each kind of task and node has its own equation in the search, and in cost and meaning
attribute [local simp] attempt Node.isPlain Node.cost Node.Leads

/-- The parts of a sequence lead somewhere together with what follows exactly if the sequence leads
to where the rest goes on. -/
lemma exists_tasksLead_append {text : Array ℕ} {body : List Node} :
    (∃ q, tasksLead text (tasks body ++ rest) p q) ↔
      ∃ k, leadsAlong text body p k ∧ ∃ q, tasksLead text rest k q := by
  simp only [tasksLead_append, tasksLead_tasks]
  constructor
  · rintro ⟨q, k, hbody, hrest⟩
    exact ⟨k, hbody, q, hrest⟩
  · rintro ⟨k, hbody, q, hrest⟩
    exact ⟨q, k, hbody, hrest⟩

lemma exists_tasksLead_cons {text : Array ℕ} {t : Task} :
    (∃ q, tasksLead text (t :: rest) p q) ↔
      ∃ k, t.Leads text p k ∧ ∃ q, tasksLead text rest k q := by
  simp only [tasksLead]
  constructor
  · rintro ⟨q, k, hfirst, hrest⟩
    exact ⟨k, hfirst, q, hrest⟩
  · rintro ⟨k, hfirst, q, hrest⟩
    exact ⟨q, k, hfirst, hrest⟩

/-- A step over one code point. -/
lemma Finds.step (h : Finds s fuel) (accepts : ℕ → Bool) (hplain : ∀ t ∈ rest, t.isPlain = true)
    (hcost : tasksCost s.text.size p rest < fuel) :
    (match s.text[p]? with
      | some n => if accepts n then attempt s fuel rest (p + 1) captures else none
      | none => none).isSome = true ↔
      ∃ k, StepsOver s.text accepts p k ∧ ∃ q, tasksLead s.text rest k q := by
  unfold StepsOver
  cases hread : s.text[p]? with
  | none => simp
  | some m =>
      have hbelow : p < s.text.size := (Array.getElem?_eq_some_iff.1 hread).1
      have hrest := h rest (p + 1) captures hplain hbelow
        (Nat.lt_of_le_of_lt (tasksCost_succ_le rest hbelow) hcost)
      by_cases haccepts : accepts m = true
      · simp [haccepts, hrest]
      · simp [haccepts]

/-- A sequence in front of tasks. -/
lemma Finds.body (h : Finds s fuel) (captures : Captures) {body : List Node}
    (hbody : plainSequence body = true)
    (hplain : ∀ t ∈ rest, t.isPlain = true) (hp : p ≤ s.text.size)
    (hcost : sequenceCost s.text.size body + tasksCost s.text.size p rest < fuel + 1) :
    (attempt s fuel (tasks body ++ rest) p captures).isSome = true ↔
      ∃ k, leadsAlong s.text body p k ∧ ∃ q, tasksLead s.text rest k q := by
  have hall : ∀ t ∈ tasks body ++ rest, t.isPlain = true := by
    intro t ht
    exact (List.mem_append.1 ht).elim (plain_tasks hbody t) (hplain t)
  have hsum : tasksCost s.text.size p (tasks body ++ rest) < fuel := by
    have htasks := tasksCost_tasks s.text.size p body
    rw [tasksCost_append]
    omega
  rw [h _ p captures hall hp hsum, exists_tasksLead_append]

/-- One more round, and what follows. -/
lemma Finds.once (h : Finds s fuel) (captures : Captures) {greed : Greed} {least count : ℕ}
    {most last last' : Option ℕ} {body : List Node}
    (hround : (Task.round greed least most body count last).isPlain = true)
    (hplain : ∀ t ∈ rest, t.isPlain = true) (hp : p ≤ s.text.size)
    (hcost : tasksCost s.text.size p (.round greed least most body count last :: rest) < fuel + 1)
    (hlast : count < least ∧ last' = last ∨ least ≤ count ∧ last ≠ some p ∧ last' = some p) :
    (attempt s fuel (tasks body ++ .round greed least most body (count + 1) last' :: rest) p
        captures).isSome = true ↔
      ∃ k, leadsAlong s.text body p k ∧
        ∃ q, tasksLead s.text (.round greed least most body (count + 1) last' :: rest) k q := by
  have hbody : plainSequence body = true := by
    simp only [Task.isPlain, Bool.and_eq_true] at hround
    exact hround.2
  have hall : ∀ t ∈ Task.round greed least most body (count + 1) last' :: rest,
      t.isPlain = true := List.forall_mem_cons.2 ⟨hround, hplain⟩
  refine h.body captures hbody hall hp ?_
  -- the round that is gone through is paid for by the one round less that is left
  have hfewer : (least - count) + (s.text.size - p) + (if last = some p then 0 else 1) =
      (least - (count + 1)) + (s.text.size - p) + (if last' = some p then 0 else 1) + 1 := by
    rcases hlast with ⟨hlt, rfl⟩ | ⟨hle, hne, rfl⟩
    · omega
    · rw [if_neg hne, if_pos rfl]
      omega
  rw [tasksCost_cons, Task.cost, hfewer, Nat.succ_mul] at hcost
  rw [tasksCost_cons, Task.cost]
  omega

section Meaning

variable {text : Array ℕ} {greed : Greed} {least count : ℕ} {most last : Option ℕ}
  {body : List Node}

/-- A required round leads through the body. -/
lemma round_leads_of_lt (h : count < least) :
    (∃ q, tasksLead text (.round greed least most body count last :: rest) p q) ↔
      ∃ k, leadsAlong text body p k ∧
        ∃ q, tasksLead text (.round greed least most body (count + 1) last :: rest) k q := by
  simp only [exists_tasksLead_cons, Task.Leads, rounds_of_lt h]
  constructor
  · rintro ⟨k, ⟨m, hbody, hrounds⟩, hrest⟩
    exact ⟨m, hbody, k, hrounds, hrest⟩
  · rintro ⟨m, hbody, k, hrounds, hrest⟩
    exact ⟨k, ⟨m, hbody, hrounds⟩, hrest⟩

/-- A further round leads on without the body or, if it is allowed to, through it. -/
lemma round_leads_of_le (h : least ≤ count) :
    (∃ q, tasksLead text (.round greed least most body count last :: rest) p q) ↔
      (∃ q, tasksLead text rest p q) ∨ ((∀ m ∈ most, count < m) ∧ last ≠ some p) ∧
        ∃ k, leadsAlong text body p k ∧
          ∃ q, tasksLead text (.round greed least most body (count + 1) (some p) :: rest) k q := by
  simp only [exists_tasksLead_cons, Task.Leads, rounds_of_le h]
  constructor
  · rintro ⟨k, rfl | ⟨hallowed, m, hbody, hrounds⟩, hrest⟩
    · exact .inl hrest
    · exact .inr ⟨hallowed, m, hbody, k, hrounds, hrest⟩
  · rintro (hrest | ⟨hallowed, m, hbody, k, hrounds, hrest⟩)
    · exact ⟨p, .inl rfl, hrest⟩
    · exact ⟨k, .inr ⟨hallowed, m, hbody, hrounds⟩, hrest⟩

end Meaning

/-- A round, and what follows. -/
lemma Finds.round (h : Finds s fuel) {greed : Greed} {least count : ℕ} {most last : Option ℕ}
    {body : List Node} (hround : (Task.round greed least most body count last).isPlain = true)
    (hplain : ∀ t ∈ rest, t.isPlain = true) (hp : p ≤ s.text.size)
    (hcost : tasksCost s.text.size p (.round greed least most body count last :: rest) < fuel + 1) :
    (attempt s (fuel + 1) (.round greed least most body count last :: rest) p captures).isSome =
        true ↔
      ∃ q, tasksLead s.text (.round greed least most body count last :: rest) p q := by
  have hstop : (attempt s fuel rest p captures).isSome = true ↔
      ∃ q, tasksLead s.text rest p q := by
    refine h rest p captures hplain hp ?_
    rw [tasksCost_cons, Task.cost] at hcost
    omega
  by_cases hlt : count < least
  · have honce := h.once captures hround hplain hp hcost
      (.inl ⟨hlt, rfl⟩)
    rw [round_leads_of_lt hlt, ← honce]
    simp only [attempt, if_pos hlt]
  · have hle : least ≤ count := by omega
    rw [round_leads_of_le hle, ← hstop]
    by_cases hallowed : (∀ m ∈ most, count < m) ∧ last ≠ some p
    · have honce := h.once captures hround hplain hp hcost
        (.inr ⟨hle, hallowed.2, rfl⟩)
      have hmay : (most.all (count < ·) && decide (last ≠ some p)) = true := by
        simpa [Option.all_eq_true] using hallowed
      rw [and_iff_right hallowed, ← honce]
      simp only [attempt, if_neg hlt, hmay, if_true]
      cases greed <;> simp [Option.isSome_or, or_comm]
    · have hmay : (most.all (count < ·) && decide (last ≠ some p)) = false := by
        rw [Bool.eq_false_iff]
        intro hmay
        refine hallowed ?_
        simpa [Option.all_eq_true] using hmay
      rw [or_iff_left fun h => hallowed h.1]
      simp only [attempt, if_neg hlt, hmay]
      cases greed <;> simp

/-- Some alternatives, and what follows. -/
lemma Finds.branch (h : Finds s fuel) {alternatives : List (List Node)}
    (hnode : (Node.branch alternatives).isPlain = true) (hplain : ∀ t ∈ rest, t.isPlain = true)
    (hp : p ≤ s.text.size)
    (hcost : (Node.branch alternatives).cost s.text.size + tasksCost s.text.size p rest <
      fuel + 1) :
    (attempt s (fuel + 1) (.part (.branch alternatives) :: rest) p captures).isSome = true ↔
      ∃ k, (Node.branch alternatives).Leads s.text p k ∧ ∃ q, tasksLead s.text rest k q := by
  simp only [Node.isPlain, plainBranches_iff] at hnode
  simp only [Node.cost] at hcost
  simp only [attempt, Node.Leads, leadsByAny_iff, List.findSome?_isSome_iff]
  have heach : ∀ a ∈ alternatives,
      ((attempt s fuel (tasks a ++ rest) p captures).isSome = true ↔
        ∃ k, leadsAlong s.text a p k ∧ ∃ q, tasksLead s.text rest k q) := by
    intro a ha
    have hle := sequenceCost_le_branchCost s.text.size ha
    exact h.body captures (hnode a ha) hplain hp (by omega)
  constructor
  · rintro ⟨a, ha, hfound⟩
    obtain ⟨k, hbody, hrest⟩ := (heach a ha).1 hfound
    exact ⟨k, ⟨a, ha, hbody⟩, hrest⟩
  · rintro ⟨k, ⟨a, ha, hbody⟩, hrest⟩
    exact ⟨a, ha, (heach a ha).2 ⟨k, hbody, hrest⟩⟩

/-- A group, and what follows.  One that is counted closes before what follows. -/
lemma Finds.group (h : Finds s fuel) {index : Option ℕ} {body : List Node}
    (hnode : (Node.group index body).isPlain = true) (hplain : ∀ t ∈ rest, t.isPlain = true)
    (hp : p ≤ s.text.size)
    (hcost : (Node.group index body).cost s.text.size + tasksCost s.text.size p rest <
      fuel + 1) :
    (attempt s (fuel + 1) (.part (.group index body) :: rest) p captures).isSome = true ↔
      ∃ k, (Node.group index body).Leads s.text p k ∧ ∃ q, tasksLead s.text rest k q := by
  simp only [Node.isPlain] at hnode
  simp only [Node.cost] at hcost
  simp only [Node.Leads]
  cases index with
  | none =>
      simp only [attempt]
      exact h.body captures hnode hplain hp (by omega)
  | some index =>
      have hclose : ∀ t ∈ Task.close index p :: rest, t.isPlain = true :=
        List.forall_mem_cons.2 ⟨rfl, hplain⟩
      have hbody := h.body captures hnode hclose hp (by
        rw [tasksCost_cons, Task.cost]
        omega)
      simpa only [attempt, exists_tasksLead_cons, Task.Leads, exists_eq_left] using hbody

/-- A repetition, and what follows: its rounds, of which none has been gone through. -/
lemma Finds.repetition (h : Finds s fuel) {greed : Greed} {least : ℕ} {most : Option ℕ}
    {body : List Node} (hnode : (Node.repetition greed least most body).isPlain = true)
    (hplain : ∀ t ∈ rest, t.isPlain = true) (hp : p ≤ s.text.size)
    (hcost : (Node.repetition greed least most body).cost s.text.size +
      tasksCost s.text.size p rest < fuel + 1) :
    (attempt s (fuel + 1) (.part (.repetition greed least most body) :: rest) p
        captures).isSome = true ↔
      ∃ k, (Node.repetition greed least most body).Leads s.text p k ∧
        ∃ q, tasksLead s.text rest k q := by
  have hround : (Task.round greed least most body 0 none).isPlain = true := hnode
  simp only [Node.isPlain, Bool.and_eq_true, decide_eq_true_eq, Option.all_eq_true] at hnode
  obtain ⟨⟨hgreed, hbounds⟩, -⟩ := hnode
  have hrounds : tasksCost s.text.size p (.round greed least most body 0 none :: rest) < fuel := by
    have hmul : (least - 0 + (s.text.size - p) + 1) * (sequenceCost s.text.size body + 2) ≤
        (least + s.text.size + 3) * (sequenceCost s.text.size body + 2) :=
      Nat.mul_le_mul_right _ (by omega)
    have hnone : (if none = some p then 0 else 1) = 1 := rfl
    simp only [Node.cost] at hcost
    rw [tasksCost_cons, Task.cost, hnone]
    omega
  have hfound := h _ p captures (List.forall_mem_cons.2 ⟨hround, hplain⟩) hp hrounds
  simp only [exists_tasksLead_cons, Task.Leads, rounds_iff_times hbounds] at hfound
  simp only [Node.Leads]
  rw [← hfound]
  cases greed with
  | possessive => exact absurd rfl hgreed
  | greedy => simp
  | lazy => simp

/-- A look ahead, and what follows from the same place. -/
lemma Finds.look (h : Finds s fuel) {behind negated : Bool} {body : List Node}
    (hnode : (Node.look behind negated body).isPlain = true)
    (hplain : ∀ t ∈ rest, t.isPlain = true) (hp : p ≤ s.text.size)
    (hcost : (Node.look behind negated body).cost s.text.size + tasksCost s.text.size p rest <
      fuel + 1) :
    (attempt s (fuel + 1) (.part (.look behind negated body) :: rest) p captures).isSome = true ↔
      ∃ k, (Node.look behind negated body).Leads s.text p k ∧ ∃ q, tasksLead s.text rest k q := by
  simp only [Node.isPlain, Bool.and_eq_true, Bool.not_eq_true'] at hnode
  obtain ⟨rfl, hbody⟩ := hnode
  simp only [Node.cost] at hcost
  have hrest : ∀ captures, (attempt s fuel rest p captures).isSome = true ↔
      ∃ q, tasksLead s.text rest p q :=
    fun captures => h rest p captures hplain hp (by omega)
  have hfound := h.body captures hbody
    (fun t (ht : t ∈ ([] : List Task)) => absurd ht List.not_mem_nil) hp (by
      have hnil : tasksCost s.text.size p [] = 0 := rfl
      omega)
  simp only [tasksLead, List.append_nil, exists_eq, and_true] at hfound
  simp only [attempt, Node.Leads, ← hfound, Bool.false_eq_true, if_false, Nat.not_lt_zero,
    Nat.sub_zero]
  cases attempt s fuel (tasks body) p captures with
  | none => cases negated <;> simp [hrest]
  | some found => cases negated <;> simp [hrest]

/-- A node, and what follows. -/
lemma Finds.part (h : Finds s fuel) {node : Node} (hnode : node.isPlain = true)
    (hplain : ∀ t ∈ rest, t.isPlain = true) (hp : p ≤ s.text.size)
    (hcost : tasksCost s.text.size p (.part node :: rest) < fuel + 1) :
    (attempt s (fuel + 1) (.part node :: rest) p captures).isSome = true ↔
      ∃ q, tasksLead s.text (.part node :: rest) p q := by
  have hsum : node.cost s.text.size + tasksCost s.text.size p rest < fuel + 1 := by
    rwa [tasksCost_cons] at hcost
  rw [exists_tasksLead_cons]
  simp only [Task.Leads]
  cases node with
  | literal case n =>
      simp only [attempt, Node.Leads]
      exact h.step _ hplain (by simp only [Node.cost] at hsum; omega)
  | anyChar lineFeed =>
      simp only [attempt, Node.Leads]
      exact h.step _ hplain (by simp only [Node.cost] at hsum; omega)
  | set case ascii negated items =>
      simp only [attempt, Node.Leads]
      exact h.step _ hplain (by simp only [Node.cost] at hsum; omega)
  | anchor a =>
      have hrest := h rest p captures hplain hp (by simp only [Node.cost] at hsum; omega)
      by_cases hholds : a.holds s.text p = true
      · simp [hholds, hrest]
      · simp [hholds]
  | branch alternatives => exact h.branch hnode hplain hp hsum
  | group index body => exact h.group hnode hplain hp hsum
  | repetition greed least most body => exact h.repetition hnode hplain hp hsum
  | look behind negated body => exact h.look hnode hplain hp hsum
  | atomic body => cases hnode
  | backReference case index => cases hnode
  | conditional index yes no => cases hnode

/-- A search succeeds exactly where its tasks lead anywhere. -/
theorem attempt_isSome_iff (s : Subject) (fuel : ℕ) : Finds s fuel := by
  induction fuel with
  | zero =>
      intro ts p captures _ _ hcost
      omega
  | succ fuel ih =>
      intro ts p captures hplain hp hcost
      cases ts with
      | nil => simp [tasksLead]
      | cons t rest =>
          obtain ⟨ht, hrest⟩ := List.forall_mem_cons.1 hplain
          cases t with
          | part node => exact ih.part ht hrest hp hcost
          | round greed least most body count last => exact ih.round ht hrest hp hcost
          | close index start =>
              have hfound := ih rest p ((index, start, p) :: captures) hrest hp (by
                rw [tasksCost_cons, Task.cost] at hcost
                omega)
              simpa only [attempt, exists_tasksLead_cons, Task.Leads, exists_eq_left] using hfound

end Finds

end FormEngine.Pattern

namespace FormEngine

open Pattern

/-- A pattern occurs in a text exactly if its parts lead from some place of the text to another. -/
theorem Pattern.occursIn_iff {p : Pattern} (hplain : plainSequence p.nodes = true)
    (points : List ℕ) : p.occursIn points = true ↔
      ∃ i ≤ points.length, ∃ j, leadsAlong points.toArray p.nodes i j := by
  have hfound : ∀ i ≤ points.length,
      ((attempt ⟨points.toArray, p.groups⟩ (sequenceCost points.length p.nodes + 2)
        (tasks p.nodes) i []).isSome = true ↔ ∃ j, leadsAlong points.toArray p.nodes i j) := by
    intro i hi
    have hcost := tasksCost_tasks points.length i p.nodes
    have hsize : points.toArray.size = points.length := List.size_toArray
    refine (attempt_isSome_iff _ _ _ i [] (plain_tasks hplain) ?_ ?_).trans ?_
    · exact hi
    · change tasksCost points.toArray.size i (tasks p.nodes) < _
      rw [hsize]
      omega
    · simp only [tasksLead_tasks]
  simp only [occursIn, List.any_eq_true, List.mem_range]
  constructor
  · rintro ⟨i, hi, hsome⟩
    exact ⟨i, by omega, (hfound i (by omega)).1 hsome⟩
  · rintro ⟨i, hi, hleads⟩
    exact ⟨i, by omega, (hfound i hi).2 hleads⟩

end FormEngine
