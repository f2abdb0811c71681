import FormEngine.Proofs.Draft.History
import FormEngine.Proofs.Draft.Robustness

/-!
# Several writes at once

Writing the values of several fields at once derives once what writing them one by one derives
again and again, in between for values that nobody will see.  `batched_of_reached` says that the
draft is the same in the end, whatever the order of the single writes, if none of them fails and
the values last from day to day.

A draft that a run can come to is told by its values, its touched fields and what it remembers of
submissions, since everything else is derived from these (`Coherent`).  So it is enough to know what
single writes make of values and touched fields (`Sitting.Reached.draft_after_writes`), and that the
order does not matter there (`Mapping.setAll_perm`, `touching_perm`).  Writing nothing shows what
else is needed: the touched fields always stand in the order of the form
(`Sitting.Reached.touching_nil`).
-/

namespace FormEngine

namespace Draft

open Sitting

variable {form : Form} {own : Option Receiver} {s : Sitting}

/-! ## Touched fields -/

/-- Touching some fields and then others is touching them all. -/
lemma touching_touching (d : Draft) (values : Mapping Value) (errors : Mapping (List Text))
    (ids more : List Text) :
    (d.settled values (d.touching ids) errors).touching more = d.touching (ids ++ more) := by
  refine List.filter_congr fun id hid => ?_
  have htouched : (d.touching ids).contains id = (d.touched.contains id || ids.contains id) := by
    rw [Bool.eq_iff_iff, List.contains_iff_mem, touching, List.mem_filter]
    exact and_iff_right hid
  have hmore : (ids ++ more).contains id = (ids.contains id || more.contains id) := by
    rw [Bool.eq_iff_iff]
    simp
  show ((d.touching ids).contains id || more.contains id) = _
  rw [htouched, hmore, Bool.or_assoc]

/-- It does not matter in which order fields are touched. -/
lemma touching_perm (d : Draft) {ids ids' : List Text} (hperm : ids.Perm ids') :
    d.touching ids = d.touching ids' := by
  refine List.filter_congr fun id _ => ?_
  have hmem : ids.contains id = ids'.contains id := by
    rw [Bool.eq_iff_iff, List.contains_iff_mem, List.contains_iff_mem]
    exact hperm.mem_iff
  rw [hmem]

/-- Every operation leaves the touched fields in the order of the form. -/
lemma perform_touched_sublist {d : Draft} (h : d.touched.Sublist d.form.fields.keys) (today : Date)
    (op : Operation) : (d.perform today op).draft.touched.Sublist d.form.fields.keys := by
  have hwriteAll : ∀ entries,
      (d.writeAll today entries).draft.touched.Sublist d.form.fields.keys := by
    intro entries
    rcases writeAll_cases today d entries with hfails | ⟨written, r, -, -, -, -, hdraft⟩
    · rwa [hfails.2]
    · rw [hdraft]
      exact List.filter_sublist
  cases op with
  | write key value =>
      rw [perform, Step.map_draft, write_eq_writeAll]
      exact hwriteAll [(key, value)]
  | writeAll entries => exact hwriteAll entries
  | touch key =>
      rw [perform, Step.map_draft]
      rcases touch_cases d key with hfails | ⟨id, -, -, -, hdraft⟩
      · rwa [hfails.2]
      · rw [hdraft]
        exact List.filter_sublist
  | reset =>
      rw [perform, Step.map_draft]
      rcases reset_cases today d with hfails | ⟨r, -, -, hdraft⟩
      · rwa [hfails.2]
      · rw [hdraft]
        exact List.nil_sublist _
  | judge => exact h
  | submit given =>
      rw [perform, Step.map_draft]
      cases hr : (d.judge today).result with
      | error fault => rwa [(submit_unjudged hr given).1]
      | ok r =>
          cases hclean : r.isClean with
          | true => rwa [(submit_accepted hr hclean given).1]
          | false => rwa [(submit_refused hr hclean given).1]

namespace Sitting.Reached

/-- The touched fields of a draft stand in the order of the form. -/
lemma touched_sublist (h : Reached form own s) : s.draft.touched.Sublist form.fields.keys := by
  induction h with
  | mounted _ hmount =>
      obtain ⟨r, -, rfl⟩ := mount_eq_ok.1 hmount
      exact List.nil_sublist _
  | next e hs ih =>
      rw [← hs.coherent.form_eq] at ih ⊢
      exact perform_touched_sublist ih e.day e.operation

/-- Touching nothing changes nothing. -/
lemma touching_nil (h : Reached form own s) : s.draft.touching [] = s.draft.touched := by
  have hdistinct : form.fields.keys.Nodup := form.fields.nodup
  have hmem : ∀ id, id ∈ s.draft.touching [] ↔ id ∈ s.draft.touched := by
    intro id
    rw [Moment.mem_touching (h.coherent.form_eq ▸ h.coherent.touched_declared) (List.nil_subset _)]
    simp
  have htouching : (s.draft.touching []).Sublist form.fields.keys := by
    rw [← h.coherent.form_eq]
    exact List.filter_sublist
  refine (hdistinct.perm_iff_eq_of_sublist htouching h.touched_sublist).1 ?_
  exact (List.perm_ext_iff_of_nodup (htouching.nodup hdistinct)
    (h.touched_sublist.nodup hdistinct)).2 hmem

end Sitting.Reached

/-! ## Writes one by one -/

/-- Writes to fields one after the other, each on its day. -/
def writes (order : List (Date × Text × Value)) : List Dated :=
  order.map fun e => ⟨e.1, .write (.text e.2.1) e.2.2⟩

/-- What writing some entries makes of a draft, up to the errors. -/
def written (d : Draft) (entries : List (Text × Value)) (errors : Mapping (List Text)) :
    Draft :=
  d.settled (d.values.setAll entries) (d.touching (entries.map (·.1))) errors

lemma written_written (d : Draft) (e : Text × Value) (entries : List (Text × Value))
    (errors errors' : Mapping (List Text)) :
    (d.written [e] errors).written entries errors' = d.written (e :: entries) errors' := by
  have htouched : (d.written [e] errors).touching (entries.map (·.1)) =
      d.touching ((e :: entries).map (·.1)) := touching_touching ..
  rw [written, htouched]
  rfl

lemma written_perm {d : Draft} {entries entries' : List (Text × Value)}
    (hperm : entries.Perm entries') (distinct : (entries.map (·.1)).Nodup)
    (declared : ∀ e ∈ entries, e.1 ∈ d.values.keys) (errors : Mapping (List Text)) :
    d.written entries errors = d.written entries' errors := by
  rw [written, written, Mapping.setAll_perm hperm distinct declared,
    d.touching_perm (hperm.map (·.1))]

/-- The draft after single writes of which none fails is told by what has been written, whatever it
has gone through on the way. -/
theorem Sitting.Reached.draft_after_writes (h : Reached form own s)
    {order : List (Date × Text × Value)}
    (succeed : ∀ m ∈ s.moments (writes order), m.succeeds = true) :
    (∀ e ∈ order, e.2.1 ∈ form.fields.keys) ∧
      (s.after (writes order)).draft =
        s.draft.written (order.map (·.2)) (s.after (writes order)).draft.errors := by
  induction order generalizing s with
  | nil =>
      have hvisibility : s.draft.form.verdicts s.draft.values = s.draft.visibility := by
        rw [h.coherent.form_eq, h.coherent.visibility_eq]
      refine ⟨List.forall_mem_nil _, ?_⟩
      show s.draft = s.draft.settled s.draft.values (s.draft.touching []) s.draft.errors
      rw [settled, h.touching_nil, hvisibility]
  | cons e order ih =>
      obtain ⟨today, key, value⟩ := e
      obtain ⟨hfirst, hrest⟩ := List.forall_mem_cons.1 succeed
      have hnext := h.next ⟨today, .write (.text key) value⟩
      obtain ⟨hdeclared, hdraft⟩ := ih hnext hrest
      rcases write_cases today s.draft (.text key) value with
        hfails | ⟨id, r, hkey, hid, -, -, hwritten⟩
      · have hfault : Moment.succeeds ⟨⟨today, .write (.text key) value⟩, s.draft⟩ = false :=
          hfails.map_succeeds _
        rw [hfault] at hfirst
        cases hfirst
      · obtain rfl : key = id := Value.text.inj hkey
        have hstep : (s.next ⟨today, .write (.text key) value⟩).draft =
            s.draft.written [(key, value)] r.errors := hwritten
        rw [hstep, written_written] at hdraft
        exact ⟨List.forall_mem_cons.2 ⟨h.coherent.form_eq ▸ hid, hdeclared⟩, hdraft⟩

/-- Writing entries at once succeeds if there is a report on the new values, and leaves its
errors. -/
lemma writeAll_of_judge {d : Draft} {today : Date} {entries : List (Text × Value)} {r : Report}
    (declared : ∀ e ∈ entries, e.1 ∈ d.form.fields.keys)
    (hr : (d.checklist.judge today (d.values.setAll entries)
      (some (d.form.shownKeys (d.values.setAll entries)))).result = .ok r) :
    (d.writeAll today (entries.map fun e => (.text e.1, e.2))).outcome.result = .ok () ∧
      (d.writeAll today (entries.map fun e => (.text e.1, e.2))).draft =
        d.written entries r.errors := by
  rcases writeAll_cases today d (entries.map fun e => (.text e.1, e.2)) with
    hfails | ⟨given, r', htexts, -, hr', hok, hdraft⟩
  · obtain ⟨⟨fault, hfault⟩, -⟩ := hfails
    rw [writeAll_eq_error declared, hr] at hfault
    cases hfault
  · have hgiven : entries = given := by
      rw [← named_texts entries, ← named_texts given, htexts]
    subst hgiven
    obtain rfl : r = r' := Except.ok.inj (hr.symm.trans hr')
    exact ⟨hok, hdraft⟩

/-- The errors after single writes are those of a report on the values that have been written, on
every day until which these last. -/
lemma Sitting.Reached.judge_after_writes (h : Reached form own s)
    {order : List (Date × Text × Value)} {today : Date}
    (succeed : ∀ m ∈ s.moments (writes order), m.succeeds = true)
    (lasts : s.draft.form.Lasts (s.after (writes order)).day today
      (s.after (writes order)).draft.values) :
    ∃ r, (s.draft.checklist.judge today
        (s.draft.values.setAll (order.map (·.2))) (some (s.draft.form.shownKeys
          (s.draft.values.setAll (order.map (·.2)))))).result = .ok r ∧
      (s.after (writes order)).draft.errors = r.errors := by
  obtain ⟨r, hr, herrors⟩ := (h.after (writes order)).coherent.errors_eq
  rw [h.coherent.form_eq] at lasts
  rw [← lasts.judge_eq] at hr
  have hvalues : (s.after (writes order)).draft.values =
      s.draft.values.setAll (order.map (·.2)) := by
    rw [(h.draft_after_writes succeed).2]
    rfl
  rw [hvalues, ← h.coherent.checklist_eq, ← h.coherent.form_eq] at hr
  exact ⟨r, hr, herrors⟩

/-- The draft after single writes is told by their entries in any order, if the fields are
distinct. -/
lemma Sitting.Reached.draft_after_writes_perm (h : Reached form own s)
    {order : List (Date × Text × Value)} {entries : List (Text × Value)} {today : Date}
    (succeed : ∀ m ∈ s.moments (writes order), m.succeeds = true)
    (hperm : (order.map (·.2)).Perm entries) (distinct : (entries.map (·.1)).Nodup)
    (lasts : s.draft.form.Lasts (s.after (writes order)).day today
      (s.after (writes order)).draft.values) :
    (∀ e ∈ entries, e.1 ∈ s.draft.form.fields.keys) ∧
      ∃ r, (s.draft.checklist.judge today (s.draft.values.setAll entries)
          (some (s.draft.form.shownKeys (s.draft.values.setAll entries)))).result = .ok r ∧
        (s.after (writes order)).draft = s.draft.written entries r.errors := by
  obtain ⟨hdeclared, hdraft⟩ := h.draft_after_writes succeed
  obtain ⟨r, hr, herrors⟩ := h.judge_after_writes succeed lasts
  have hpresent : ∀ e ∈ order.map (·.2), e.1 ∈ s.draft.values.keys := by
    intro e he
    obtain ⟨e', he', rfl⟩ := List.mem_map.1 he
    rw [h.coherent.keys_values]
    exact hdeclared e' he'
  have hdistinct : ((order.map (·.2)).map (·.1)).Nodup := (hperm.map _).nodup_iff.2 distinct
  rw [Mapping.setAll_perm hperm hdistinct hpresent] at hr
  rw [herrors, written_perm hperm hdistinct hpresent] at hdraft
  refine ⟨fun e he => ?_, r, hr, hdraft⟩
  rw [h.coherent.form_eq, ← h.coherent.keys_values]
  exact hpresent e (hperm.mem_iff.2 he)

/-! ## Writes at once -/

/-- How writing several values at once and writing them one by one belong together. -/
structure Batched (s : Sitting) : Prop where
  /-- If writing the entries of a mapping one by one succeeds, in whatever order, then writing them
  at once succeeds too and comes to the same draft, on every day until which the values last. -/
  atOnce : ∀ (m : Mapping Value) (order : List (Date × Text × Value)) (today : Date),
    (order.map (·.2)).Perm m.entries → (∀ e ∈ s.moments (writes order), e.succeeds = true) →
      s.draft.form.Lasts (s.after (writes order)).day today (s.after (writes order)).draft.values →
        (s.draft.writeAll today
            (m.entries.map fun e => (.text e.1, e.2))).outcome.result = .ok () ∧
          (s.draft.writeAll today
            (m.entries.map fun e => (.text e.1, e.2))).draft = (s.after (writes order)).draft
  nothing : ∀ today, s.draft.form.Lasts s.day today s.draft.values →
    (s.draft.writeAll today []).outcome.result = .ok () ∧
      (s.draft.writeAll today []).draft = s.draft
  /-- Two orders in which writing to distinct fields succeeds come to the same draft, if the values
  last from the day to which one of them comes until that to which the other does. -/
  commute : ∀ order order' : List (Date × Text × Value),
    (order.map (·.2)).Perm (order'.map (·.2)) → (order.map (·.2.1)).Nodup →
      (∀ e ∈ s.moments (writes order), e.succeeds = true) →
      (∀ e ∈ s.moments (writes order'), e.succeeds = true) →
      s.draft.form.Lasts (s.after (writes order)).day (s.after (writes order')).day
          (s.after (writes order)).draft.values →
        (s.after (writes order)).draft = (s.after (writes order')).draft

/-- In every draft that a run can come to, writing the values of distinct fields at once is writing
them one by one, in any order in which that succeeds; so writing nothing changes nothing, and the
order of the single writes does not matter.  All this is so as long as the values last from day to
day. -/
theorem batched_of_reached (reached : Reached form own s) : Batched s := by
  have hatOnce : ∀ (m : Mapping Value) (order : List (Date × Text × Value)) (today : Date),
      (order.map (·.2)).Perm m.entries → (∀ e ∈ s.moments (writes order), e.succeeds = true) →
      s.draft.form.Lasts (s.after (writes order)).day today (s.after (writes order)).draft.values →
        (s.draft.writeAll today
            (m.entries.map fun e => (.text e.1, e.2))).outcome.result = .ok () ∧
          (s.draft.writeAll today
            (m.entries.map fun e => (.text e.1, e.2))).draft = (s.after (writes order)).draft := by
    intro m order today hperm succeed lasts
    obtain ⟨hdeclared, r, hr, hdraft⟩ :=
      reached.draft_after_writes_perm succeed hperm m.nodup lasts
    obtain ⟨hok, hbatch⟩ := writeAll_of_judge hdeclared hr
    exact ⟨hok, hbatch.trans hdraft.symm⟩
  refine ⟨hatOnce, fun today => hatOnce .empty [] today .nil (List.forall_mem_nil _), ?_⟩
  intro order order' hperm distinct succeed succeed' lasts
  have hdistinct : ((order.map (·.2)).map (·.1)).Nodup := by rwa [List.map_map]
  have hdistinct' : ((order'.map (·.2)).map (·.1)).Nodup := (hperm.map _).nodup_iff.1 hdistinct
  obtain ⟨-, r, hr, hdraft⟩ := reached.draft_after_writes_perm succeed hperm hdistinct' lasts
  obtain ⟨-, r', hr', hdraft'⟩ := reached.draft_after_writes_perm succeed' (.refl _) hdistinct'
    (s.draft.form.lasts_refl _ _)
  obtain rfl : r = r' := Except.ok.inj (hr.symm.trans hr')
  rw [hdraft, hdraft']

/-- The car and its plate, written in this order. -/
def carFirst : List (Date × Text × Value) :=
  [(tripDay, "car", .bool true), (tripDay, "plate", .text "A 1")]

/-- Their mapping, in the other order. -/
def plateAndCar : Mapping Value :=
  ⟨[("plate", .text "A 1"), ("car", .bool true)], by decide⟩

theorem batched_emptyTrip :
    Reached trip none ⟨emptyTrip, tripDay⟩ ∧ Batched ⟨emptyTrip, tripDay⟩ ∧
      (∀ e ∈ (⟨emptyTrip, tripDay⟩ : Sitting).moments (writes carFirst), e.succeeds = true) ∧
      (emptyTrip.writeAll tripDay (plateAndCar.entries.map fun e => (.text e.1, e.2))).draft =
        ((⟨emptyTrip, tripDay⟩ : Sitting).after (writes carFirst)).draft ∧
      (emptyTrip.writeAll tripDay []).draft = emptyTrip ∧
      ((⟨emptyTrip, tripDay⟩ : Sitting).after (writes carFirst)).draft.touched =
        ["car", "plate"] := by
  have reached : Reached trip none ⟨emptyTrip, tripDay⟩ := .mounted read_tripDocument mount_trip
  have together := batched_of_reached reached
  have succeed : ∀ e ∈ (⟨emptyTrip, tripDay⟩ : Sitting).moments (writes carFirst),
      e.succeeds = true :=
    List.forall_mem_cons.2 ⟨rfl, List.forall_mem_singleton.2 rfl⟩
  have hperm : (carFirst.map (·.2)).Perm plateAndCar.entries := .swap ..
  obtain ⟨-, hdraft⟩ := together.atOnce plateAndCar carFirst tripDay hperm succeed
    (trip_lasts _ tripDay _)
  have hnothing := (together.nothing tripDay (trip_lasts _ tripDay _)).2
  exact ⟨reached, together, succeed, hdraft, hnothing, rfl⟩

end Draft

end FormEngine
