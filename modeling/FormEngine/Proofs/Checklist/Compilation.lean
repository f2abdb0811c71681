import FormEngine.Proofs.Checklist.Recency

/-!
# The cache of compilations cannot be seen in what it answers

A `CompileCache` answers every call with the checklist that the form would get anyway, and the only
thing that tells a kept compilation from a new one is its number.  This file says which calls get an
old number.  `Recent` is the condition: the form has been compiled since the cache was cleared, and
fewer other forms than the cache keeps have been compiled after it.  Then the answer is the
compilation of the previous call, and otherwise it is one that nobody has been given before
(`answers_after_run`).

A `Desk` keeps the calls since the last clearing beside the cache, of which they are no part; its
invariant `Desk.Sound` says that the cache keeps the end of these calls.
-/

namespace FormEngine

namespace CompileCache

variable {κ : Type} [DecidableEq κ]

/-! ## Commands -/

/-- What a cache can be told to do. -/
inductive Command (κ : Type) where
  | compile (key : κ)
  | clear
deriving DecidableEq

/-- The form that a command compiles. -/
def Command.key? : Command κ → Option κ
  | .compile key => some key
  | .clear => none

/-- The compilation that a call is answered with. -/
def answer (c : CompileCache κ) (key : κ) (form : Form) : Compilation :=
  (c.kept.peek? key).getD ⟨c.made, form.checklist⟩

/-- A call is always answered. -/
lemma compile_result (c : CompileCache κ) (key : κ) (form : Form) :
    (c.compile key form).1.result = .ok (c.answer key form) := by
  unfold compile RecencyCache.get? answer
  cases c.kept.peek? key <;> rfl

lemma compile_of_kept {c : CompileCache κ} {key : κ} {k : Compilation}
    (h : c.kept.peek? key = some k) (form : Form) :
    (c.compile key form).2 = { c with kept := (c.kept.get? key).2 } := by
  unfold compile RecencyCache.get?
  rw [h]

lemma compile_of_lost {c : CompileCache κ} {key : κ} (h : c.kept.peek? key = none) (form : Form) :
    (c.compile key form).2 = ⟨c.kept.put key (c.answer key form), c.made + 1⟩ := by
  unfold compile RecencyCache.get? answer
  rw [h]
  rfl

/-- The cache after a command, for forms that do not change. -/
def next (forms : κ → Form) (c : CompileCache κ) : Command κ → CompileCache κ
  | .compile key => (c.compile key (forms key)).2
  | .clear => c.clear

/-- The cache after a run of commands. -/
def after (forms : κ → Form) (c : CompileCache κ) (run : List (Command κ)) : CompileCache κ :=
  run.foldl (next forms) c

/-- What a call is answered after a run that starts with an empty cache. -/
def answerAfter (forms : κ → Form) (run : List (Command κ)) (key : κ) : Traced Compilation :=
  ((after forms {} run).compile key (forms key)).1

/-! ## The calls since the last clearing -/

/-- A cache, and the calls since it has been cleared with their answers. -/
structure Desk (κ : Type) where
  cache : CompileCache κ := {}
  calls : List (κ × Compilation) := []

namespace Desk

/-- The desk after a command. -/
def next (forms : κ → Form) (d : Desk κ) : Command κ → Desk κ
  | .compile key =>
    ⟨(d.cache.compile key (forms key)).2, d.calls ++ [(key, d.cache.answer key (forms key))]⟩
  | .clear => ⟨d.cache.clear, []⟩

/-- The desk after a run of commands. -/
def after (forms : κ → Form) (d : Desk κ) (run : List (Command κ)) : Desk κ :=
  run.foldl (next forms) d

variable {forms : κ → Form} {d : Desk κ}

lemma cache_next (forms : κ → Form) (d : Desk κ) (command : Command κ) :
    (d.next forms command).cache = d.cache.next forms command := by
  cases command <;> rfl

lemma cache_after (forms : κ → Form) (d : Desk κ) (run : List (Command κ)) :
    (d.after forms run).cache = d.cache.after forms run := by
  induction run generalizing d with
  | nil => rfl
  | cons command run ih => rw [after, List.foldl_cons, ← after, ih, cache_next]; rfl

/-- The cache of a desk keeps the end of its calls, each with the checklist of its form, and has
given each of them a number. -/
structure Sound (forms : κ → Form) (d : Desk κ) : Prop where
  capacity_eq : d.cache.kept.capacity = keptCompilations
  keeps : d.cache.kept.Keeps d.calls
  checklist_eq : ∀ u ∈ d.calls, u.2.checklist = (forms u.1).checklist
  number_lt : ∀ u ∈ d.calls, u.2.number < d.cache.made

lemma sound_empty (forms : κ → Form) : Sound forms {} where
  capacity_eq := rfl
  keeps := RecencyCache.Keeps.empty _
  checklist_eq := fun _ h => absurd h List.not_mem_nil
  number_lt := fun _ h => absurd h List.not_mem_nil

/-- What a cache finds under a key is one of the calls. -/
lemma Sound.mem_calls (h : Sound forms d) {key : κ} {k : Compilation}
    (hkept : d.cache.kept.peek? key = some k) : (key, k) ∈ d.calls := by
  have hmem := RecencyCache.mem_entries_of_peek? hkept
  rw [h.keeps, List.rtake] at hmem
  exact RecencyCache.mem_of_mem_latest (List.mem_of_mem_drop hmem)

lemma Sound.answer_checklist (h : Sound forms d) (key : κ) :
    (d.cache.answer key (forms key)).checklist = (forms key).checklist := by
  unfold answer
  cases hkept : d.cache.kept.peek? key with
  | none => rfl
  | some k => exact h.checklist_eq _ (h.mem_calls hkept)

/-- The number of an answer has been given once the call is over. -/
lemma Sound.answer_number_lt (h : Sound forms d) (key : κ) :
    (d.cache.answer key (forms key)).number < (d.next forms (.compile key)).cache.made := by
  cases hkept : d.cache.kept.peek? key with
  | none =>
      rw [next, compile_of_lost hkept, answer, hkept]
      exact Nat.lt_succ_self _
  | some k =>
      rw [next, compile_of_kept hkept, answer, hkept]
      exact h.number_lt _ (h.mem_calls hkept)

lemma made_le_next (forms : κ → Form) (d : Desk κ) (command : Command κ) :
    d.cache.made ≤ (d.next forms command).cache.made := by
  cases command with
  | clear => exact le_rfl
  | compile key =>
      cases hkept : d.cache.kept.peek? key with
      | none =>
          rw [next, compile_of_lost hkept]
          exact Nat.le_succ _
      | some k =>
          rw [next, compile_of_kept hkept]

lemma made_le_after (forms : κ → Form) (d : Desk κ) (run : List (Command κ)) :
    d.cache.made ≤ (d.after forms run).cache.made := by
  induction run generalizing d with
  | nil => exact le_rfl
  | cons command run ih => exact (made_le_next forms d command).trans (ih _)

/-- A call that is answered from the cache and one that is not both leave a sound desk. -/
lemma Sound.next (h : Sound forms d) (command : Command κ) :
    Sound forms (d.next forms command) := by
  cases command with
  | clear =>
      exact ⟨h.capacity_eq, RecencyCache.Keeps.clear _, by simp [Desk.next], by simp [Desk.next]⟩
  | compile key =>
      have hanswer := h.answer_number_lt key
      have hmade := made_le_next forms d (.compile key)
      refine ⟨?_, ?_, ?_, ?_⟩
      · cases hkept : d.cache.kept.peek? key with
        | none => rw [Desk.next, compile_of_lost hkept]; exact h.capacity_eq
        | some k =>
            rw [Desk.next, compile_of_kept hkept, RecencyCache.get?, hkept]
            exact h.capacity_eq
      · cases hkept : d.cache.kept.peek? key with
        | none =>
            rw [Desk.next, compile_of_lost hkept]
            exact h.keeps.put key _
        | some k =>
            have hanswer : d.cache.answer key (forms key) = k := by rw [answer, hkept]; rfl
            rw [Desk.next, compile_of_kept hkept, hanswer]
            exact h.keeps.get? hkept
      · intro u hu
        rcases List.mem_append.1 hu with hold | hnew
        · exact h.checklist_eq u hold
        · obtain rfl := List.mem_singleton.1 hnew
          exact h.answer_checklist key
      · intro u hu
        rcases List.mem_append.1 hu with hold | hnew
        · exact (h.number_lt u hold).trans_le hmade
        · obtain rfl := List.mem_singleton.1 hnew
          exact hanswer

lemma Sound.after (h : Sound forms d) (run : List (Command κ)) :
    Sound forms (d.after forms run) := by
  induction run generalizing d with
  | nil => exact h
  | cons command run ih => exact ih (h.next command)

/-! ## Which calls a desk remembers -/

/-- Every call of a desk has been made in the run, or before it if nothing has been cleared. -/
lemma mem_calls_after {run : List (Command κ)} {u : κ × Compilation}
    (h : u ∈ (d.after forms run).calls) :
    (u ∈ d.calls ∧ Command.clear ∉ run) ∨ Command.compile u.1 ∈ run := by
  induction run generalizing d with
  | nil => exact .inl ⟨h, List.not_mem_nil⟩
  | cons command run ih =>
      rcases ih h with ⟨hnext, hclear⟩ | hrun
      · cases command with
        | clear => exact absurd hnext List.not_mem_nil
        | compile key =>
            rcases List.mem_append.1 hnext with hold | hnew
            · exact .inl ⟨hold, by simp [hclear]⟩
            · obtain rfl := List.mem_singleton.1 hnew
              exact .inr List.mem_cons_self
      · exact .inr (List.mem_cons_of_mem _ hrun)

lemma after_append (forms : κ → Form) (d : Desk κ) (before since : List (Command κ)) (key : κ) :
    d.after forms (before ++ .compile key :: since) =
      ((d.after forms before).next forms (.compile key)).after forms since := by
  rw [after, List.foldl_append, List.foldl_cons]
  rfl

/-- Without clearing, the calls of a run come after those from before it. -/
lemma calls_after (forms : κ → Form) (d : Desk κ) {run : List (Command κ)}
    (h : Command.clear ∉ run) :
    ∃ more, (d.after forms run).calls = d.calls ++ more ∧
      more.map (·.1) = run.filterMap Command.key? := by
  induction run generalizing d with
  | nil => exact ⟨[], (List.append_nil _).symm, rfl⟩
  | cons command run ih =>
      rw [List.mem_cons, not_or] at h
      cases command with
      | clear => exact absurd rfl h.1
      | compile key =>
          obtain ⟨more, hcalls, hkeys⟩ := ih (d.next forms (.compile key)) h.2
          refine ⟨(key, d.cache.answer key (forms key)) :: more, ?_, ?_⟩
          · rw [after, List.foldl_cons, ← after, hcalls, next, List.append_assoc,
              List.singleton_append]
          · rw [List.map_cons, hkeys]
            rfl

/-- A call stays the last one for its form as long as nothing is cleared and only other forms are
compiled. -/
lemma calls_after_compile (forms : κ → Form) (d : Desk κ) {key : κ} {since : List (Command κ)}
    (hclear : Command.clear ∉ since) (hsince : Command.compile key ∉ since) :
    ∃ more, ((d.next forms (.compile key)).after forms since).calls =
        d.calls ++ (key, d.cache.answer key (forms key)) :: more ∧
      more.map (·.1) = since.filterMap Command.key? ∧ key ∉ more.map (·.1) := by
  obtain ⟨more, hcalls, hkeys⟩ := calls_after forms (d.next forms (.compile key)) hclear
  refine ⟨more, ?_, hkeys, ?_⟩
  · rw [hcalls, next, List.append_assoc, List.singleton_append]
  · rw [hkeys, List.mem_filterMap]
    rintro ⟨command, hmem, hkey⟩
    cases command with
    | clear => cases hkey
    | compile other => exact hsince (Option.some.inj hkey ▸ hmem)

/-- After a call for a form and others since, its compilation is still kept exactly if nothing has
been cleared and the others were few. -/
lemma Sound.kept_iff (h : Sound forms d) {key : κ} {since : List (Command κ)}
    (hsince : Command.compile key ∉ since) :
    key ∈ ((d.next forms (.compile key)).after forms since).cache.kept.keys ↔
      Command.clear ∉ since ∧ (since.filterMap Command.key?).toFinset.card < keptCompilations := by
  have hsound := (h.next (.compile key)).after since
  by_cases hclear : Command.clear ∈ since
  · have hforgotten : key ∉ ((d.next forms (.compile key)).after forms since).calls.map (·.1) := by
      intro hkey
      obtain ⟨u, hu, rfl⟩ := List.mem_map.1 hkey
      rcases mem_calls_after hu with ⟨-, hnone⟩ | hcalled
      · exact hnone hclear
      · exact hsince hcalled
    exact ⟨fun hkept => absurd hkept (hsound.keeps.notMem_keys hforgotten),
      fun hboth => absurd hclear hboth.1⟩
  · obtain ⟨more, hcalls, hkeys, hothers⟩ := calls_after_compile forms d hclear hsince
    have hkeeps := hsound.keeps
    rw [hcalls] at hkeeps
    rw [hkeeps.mem_keys_iff hothers, hkeys, hsound.capacity_eq]
    exact (and_iff_right hclear).symm

/-- A compilation that is still kept is the one with which the last call was answered. -/
lemma Sound.answer_of_kept (h : Sound forms d) {key : κ} {since : List (Command κ)}
    (hsince : Command.compile key ∉ since)
    (hkept : key ∈ ((d.next forms (.compile key)).after forms since).cache.kept.keys) :
    ((d.next forms (.compile key)).after forms since).cache.answer key (forms key) =
      d.cache.answer key (forms key) := by
  have hkeeps := ((h.next (.compile key)).after since).keeps
  obtain ⟨more, hcalls, -, hothers⟩ :=
    calls_after_compile forms d ((h.kept_iff hsince).1 hkept).1 hsince
  rw [hcalls] at hkeeps
  generalize hlater : ((d.next forms (.compile key)).after forms since).cache = later
    at hkept hkeeps ⊢
  cases hpeek : later.kept.peek? key with
  | none => exact absurd hkept (RecencyCache.peek?_eq_none_iff.1 hpeek)
  | some k =>
      rw [answer, hpeek]
      exact hkeeps.value_eq hothers hpeek

/-- An answer that does not come from the cache has a number that no earlier answer has. -/
lemma Sound.answer_of_lost (h : Sound forms d) {key other : κ} {since : List (Command κ)}
    (hlost : key ∉ ((d.next forms (.compile other)).after forms since).cache.kept.keys) :
    (d.cache.answer other (forms other)).number <
      (((d.next forms (.compile other)).after forms since).cache.answer key
        (forms key)).number := by
  have hmade := made_le_after forms (d.next forms (.compile other)) since
  generalize hlater : ((d.next forms (.compile other)).after forms since).cache = later
    at hlost hmade ⊢
  have hnew : later.answer key (forms key) = ⟨later.made, (forms key).checklist⟩ := by
    rw [answer, RecencyCache.peek?_eq_none_iff.2 hlost]
    rfl
  rw [hnew]
  exact (h.answer_number_lt other).trans_le hmade

end Desk

/-! ## What is answered -/

/-- Whether a form has been compiled since the cache was cleared, and fewer other forms than the
cache keeps have been compiled after it. -/
def Recent (run : List (Command κ)) (key : κ) : Prop :=
  ∃ before since, run = before ++ .compile key :: since ∧ .compile key ∉ since ∧
    .clear ∉ since ∧ (since.filterMap Command.key?).toFinset.card < keptCompilations

/-- Only recently compiled forms are kept. -/
lemma recent_of_kept {forms : κ → Form} {run : List (Command κ)} {key : κ}
    (h : key ∈ (({} : Desk κ).after forms run).cache.kept.keys) : Recent run key := by
  have hsound := (Desk.sound_empty forms).after run
  have hcalled : Command.compile key ∈ run.reverse := by
    by_contra hnever
    refine hsound.keeps.notMem_keys ?_ h
    intro hkey
    obtain ⟨u, hu, rfl⟩ := List.mem_map.1 hkey
    rcases Desk.mem_calls_after hu with ⟨hold, -⟩ | hrun
    · exact List.not_mem_nil hold
    · exact hnever (List.mem_reverse.2 hrun)
  -- the last call for the form is the first one of the reversed run
  obtain ⟨since, before, hrun, hsince⟩ := List.eq_append_cons_of_mem hcalled
  have hsplit : run = before.reverse ++ .compile key :: since.reverse := by
    rw [← List.reverse_reverse run, hrun]
    simp
  have hothers : Command.compile key ∉ since.reverse := fun hmem => hsince (List.mem_reverse.1 hmem)
  rw [hsplit, Desk.after_append] at h
  have hfew := ((Desk.sound_empty forms).after before.reverse).kept_iff hothers |>.1 h
  exact ⟨before.reverse, since.reverse, hsplit, hothers, hfew⟩

/-- Every call is answered with what compiling the form gives anyway, whatever has been done to the
cache.  The answer is the compilation of the previous call for the form exactly if nothing has been
cleared since and fewer other forms than the cache keeps have been compiled; unless there is such a
call, it is a compilation that no call has been answered with before. -/
theorem answers_after_run (forms : κ → Form) (run : List (Command κ)) (key : κ) :
    ∃ given, (answerAfter forms run key).result = .ok given ∧
      given.checklist = (forms key).checklist ∧
      given.checklist.formId = (forms key).id ∧
      given.checklist.gates.entries = (forms key).fields.entries.map (fun e => (e.1, e.2.gate)) ∧
      (∀ before since earlier, run = before ++ .compile key :: since → .compile key ∉ since →
        (answerAfter forms before key).result = .ok earlier →
          (given.number = earlier.number ↔ .clear ∉ since ∧
            (since.filterMap Command.key?).toFinset.card < keptCompilations)) ∧
      (¬ Recent run key → ∀ before other since earlier, run = before ++ .compile other :: since →
        (answerAfter forms before other).result = .ok earlier → given.number ≠ earlier.number) := by
  have hdesk : ∀ run, (({} : Desk κ).after forms run).cache = after forms {} run :=
    fun run => Desk.cache_after forms {} run
  have hsound : ∀ run, Desk.Sound forms (({} : Desk κ).after forms run) :=
    fun run => (Desk.sound_empty forms).after run
  have hchecklist : ((after forms {} run).answer key (forms key)).checklist =
      (forms key).checklist := by
    rw [← hdesk]
    exact (hsound run).answer_checklist key
  refine ⟨_, compile_result _ _ _, hchecklist, by rw [hchecklist]; rfl, by rw [hchecklist]; rfl,
    ?_, ?_⟩
  · rintro before since earlier rfl hsince hearlier
    obtain rfl := Except.ok.inj ((compile_result _ _ _).symm.trans hearlier)
    rw [← hdesk, ← hdesk, Desk.after_append, ← (hsound before).kept_iff hsince]
    constructor
    · intro hsame
      by_contra hlost
      exact absurd hsame ((hsound before).answer_of_lost hlost).ne'
    · intro hkept
      rw [(hsound before).answer_of_kept hsince hkept]
  · rintro hnone before other since earlier rfl hearlier
    obtain rfl := Except.ok.inj ((compile_result _ _ _).symm.trans hearlier)
    rw [← hdesk, ← hdesk, Desk.after_append]
    refine ((hsound before).answer_of_lost fun hkept => ?_).ne'
    rw [← Desk.after_append] at hkept
    exact hnone (recent_of_kept hkept)

end CompileCache

end FormEngine
