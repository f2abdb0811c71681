import Mathlib.Data.List.Forall2
import FormEngine.Proofs.Check.Messages
import FormEngine.Proofs.Mapping

/-!
# Judging a form is judging its fields one by one

`Checklist.judge` walks through the gates of a form and fills a report on the way.  Here the walk is
replaced by what comes of it: a list of judgements, one for each chosen gate and in the same order
(`Judged`), of which the accepted ones are the data and the others the errors
(`Checklist.judge_result_eq_ok`).  Everything that is said about reports afterwards is read off
that list.

`Checklist.judge_faults_iff` is the other side: there is no report exactly if a field that is asked
for cannot be judged for itself.

For the checklist of a form, `Form.run_of_data` goes back from the data of a report to the values
that they have been made of.
-/

namespace FormEngine

namespace Report

/-- What the accepted among some judgements hand over. -/
def accepted (js : List (Text × Judgement)) : List (Text × Value) :=
  js.filterMap fun e => if e.2.message.isNone then some (e.1, e.2.value) else none

/-- What the others among some judgements tell. -/
def refused (js : List (Text × Judgement)) : List (Text × List Text) :=
  js.filterMap fun e => e.2.message.map fun message => (e.1, [message])

lemma mem_accepted {js : List (Text × Judgement)} {id : Text} {v : Value} :
    (id, v) ∈ accepted js ↔ (id, ⟨v, none⟩) ∈ js := by
  rw [accepted, List.mem_filterMap]
  constructor
  · rintro ⟨⟨key, value, message⟩, hj, heq⟩
    obtain ⟨hnone, hpair⟩ := Option.ite_none_right_eq_some.1 heq
    obtain ⟨rfl, rfl⟩ := Prod.mk.inj (Option.some.inj hpair)
    obtain rfl : message = none := Option.isNone_iff_eq_none.1 hnone
    exact hj
  · intro hj
    exact ⟨_, hj, rfl⟩

lemma mem_refused {js : List (Text × Judgement)} {id : Text} {messages : List Text} :
    (id, messages) ∈ refused js ↔
      ∃ v message, (id, ⟨v, some message⟩) ∈ js ∧ messages = [message] := by
  rw [refused, List.mem_filterMap]
  constructor
  · rintro ⟨⟨key, value, told⟩, hj, heq⟩
    obtain ⟨message, rfl, hpair⟩ := Option.map_eq_some_iff.1 heq
    obtain ⟨rfl, rfl⟩ := Prod.mk.inj hpair
    exact ⟨value, message, hj, rfl⟩
  · rintro ⟨v, message, hj, rfl⟩
    exact ⟨_, hj, rfl⟩

/-- The report to which some judgements have been added. -/
def addAll (r : Report) (js : List (Text × Judgement)) : Report :=
  js.foldl (fun r e => r.add e.1 e.2) r

lemma eq_of_entries_eq {r s : Report} (hd : r.data.entries = s.data.entries)
    (he : r.errors.entries = s.errors.entries) : r = s := by
  cases r
  cases s
  congr
  · exact Mapping.eq_of_entries_eq hd
  · exact Mapping.eq_of_entries_eq he

/-- A new key is added at the end of the data or of the errors. -/
lemma add_entries {r : Report} {field : Text} {j : Judgement} (hd : field ∉ r.data.keys)
    (he : field ∉ r.errors.keys) :
    (r.add field j).data.entries = r.data.entries ++ accepted [(field, j)] ∧
      (r.add field j).errors.entries = r.errors.entries ++ refused [(field, j)] := by
  cases hm : j.message with
  | none =>
      have h := Mapping.setEntries_of_notMem j.value hd
      simpa [add, accepted, refused, hm, Mapping.set] using h
  | some message =>
      have h := Mapping.setEntries_of_notMem [message] he
      simpa [add, accepted, refused, hm, Mapping.set] using h

/-- The keys of a report stay apart from the fields that are still to be added. -/
lemma notMem_add {r : Report} {field other : Text} {j : Judgement} (h : other ≠ field)
    (hd : other ∉ r.data.keys) (he : other ∉ r.errors.keys) :
    other ∉ (r.add field j).data.keys ∧ other ∉ (r.add field j).errors.keys := by
  unfold add
  cases j.message with
  | none =>
      refine ⟨?_, he⟩
      rw [← Mapping.get?_eq_none_iff, Mapping.get?_set_of_ne _ _ h]
      exact Mapping.get?_eq_none_iff.2 hd
  | some message =>
      refine ⟨hd, ?_⟩
      rw [← Mapping.get?_eq_none_iff, Mapping.get?_set_of_ne _ _ h]
      exact Mapping.get?_eq_none_iff.2 he

/-- Judgements of distinct fields that are new to a report are all added at its ends. -/
lemma addAll_entries {js : List (Text × Judgement)} {r : Report}
    (distinct : (js.map (·.1)).Nodup)
    (fresh : ∀ e ∈ js, e.1 ∉ r.data.keys ∧ e.1 ∉ r.errors.keys) :
    (r.addAll js).data.entries = r.data.entries ++ accepted js ∧
      (r.addAll js).errors.entries = r.errors.entries ++ refused js := by
  induction js generalizing r with
  | nil => simp [addAll, accepted, refused]
  | cons e js ih =>
      rw [List.map_cons, List.nodup_cons] at distinct
      obtain ⟨hd, he⟩ := fresh e (by simp)
      have hrest : ∀ e' ∈ js, e'.1 ∉ (r.add e.1 e.2).data.keys ∧
          e'.1 ∉ (r.add e.1 e.2).errors.keys := by
        intro e' he'
        have hne : e'.1 ≠ e.1 := fun h => distinct.1 (h ▸ List.mem_map_of_mem he')
        exact notMem_add hne (fresh e' (by simp [he'])).1 (fresh e' (by simp [he'])).2
      obtain ⟨hdata, herrors⟩ := ih distinct.2 hrest
      obtain ⟨hd', he'⟩ := add_entries (j := e.2) hd he
      constructor
      · calc (r.addAll (e :: js)).data.entries
            = (r.add e.1 e.2).data.entries ++ accepted js := hdata
          _ = r.data.entries ++ (accepted [e] ++ accepted js) := by rw [hd', List.append_assoc]
          _ = r.data.entries ++ accepted (e :: js) := by
            rw [accepted, accepted, accepted, ← List.filterMap_append, List.singleton_append]
      · calc (r.addAll (e :: js)).errors.entries
            = (r.add e.1 e.2).errors.entries ++ refused js := herrors
          _ = r.errors.entries ++ (refused [e] ++ refused js) := by rw [he', List.append_assoc]
          _ = r.errors.entries ++ refused (e :: js) := by
            rw [refused, refused, refused, ← List.filterMap_append, List.singleton_append]

end Report

namespace Checklist

/-- The judgements of some gates, each for itself and in their order. -/
def Judged (today : Date) (values : Mapping Value) (gates : List (Text × Gate))
    (js : List (Text × Judgement)) : Prop :=
  List.Forall₂ (fun e j => j.1 = e.1 ∧
    (e.2.judge today (valueOf values e.1) values).result = .ok j.2) gates js

lemma Judged.keys_eq {today : Date} {values : Mapping Value} {gates : List (Text × Gate)}
    {js : List (Text × Judgement)} (h : Judged today values gates js) :
    js.map (·.1) = gates.map (·.1) := by
  induction h with
  | nil => rfl
  | cons head _ ih => rw [List.map_cons, List.map_cons, head.1, ih]

lemma Judged.mem {today : Date} {values : Mapping Value} {gates : List (Text × Gate)}
    {js : List (Text × Judgement)} (h : Judged today values gates js)
    {field : Text} {j : Judgement} (hj : (field, j) ∈ js) :
    ∃ g, (field, g) ∈ gates ∧ (g.judge today (valueOf values field) values).result = .ok j := by
  induction h with
  | nil => cases hj
  | @cons e j' gates js head _ ih =>
      obtain ⟨key, g⟩ := e
      rcases List.mem_cons.1 hj with heq | hj
      · obtain ⟨hkey, hjudge⟩ := head
        obtain rfl : field = key := by rw [← heq] at hkey; exact hkey
        rw [← heq] at hjudge
        exact ⟨g, by simp, hjudge⟩
      · obtain ⟨g', hmem, hjudge⟩ := ih hj
        exact ⟨g', by simp [hmem], hjudge⟩

/-- The gates whose fields are asked for. -/
def chosen (only : Option (List Text)) (gates : List (Text × Gate)) : List (Text × Gate) :=
  gates.filter fun e => only.all (·.contains e.1)

/-- Passing over the fields that are not asked for is the same as leaving them out before. -/
lemma judgeFrom_eq_chosen (today : Date) (values : Mapping Value) (only : Option (List Text))
    (gates : List (Text × Gate)) (r : Report) :
    judgeFrom today values only gates r = judgeFrom today values none (chosen only gates) r := by
  induction gates generalizing r with
  | nil => rfl
  | cons e gates ih =>
      obtain ⟨field, g⟩ := e
      by_cases h : only.all (·.contains field) = true
      · have hchosen : chosen only ((field, g) :: gates) = (field, g) :: chosen only gates :=
          List.filter_cons_of_pos h
        rw [hchosen, judgeFrom, judgeFrom, if_pos h]
        simp only [Option.all_none, if_true, ih]
      · have hchosen : chosen only ((field, g) :: gates) = chosen only gates :=
          List.filter_cons_of_neg h
        rw [hchosen, judgeFrom, if_neg h, ih]

/-- A walk depends on nothing but the judgements of the gates that it comes by. -/
lemma judgeFrom_congr {today day : Date} {values values' : Mapping Value}
    {gates : List (Text × Gate)}
    (alike : ∀ e ∈ gates, e.2.judge today (valueOf values e.1) values =
      e.2.judge day (valueOf values' e.1) values') (r : Report) :
    judgeFrom today values none gates r = judgeFrom day values' none gates r := by
  induction gates generalizing r with
  | nil => rfl
  | cons e gates ih =>
      obtain ⟨hjudge, halike⟩ := List.forall_mem_cons.1 alike
      have hrest := ih halike
      simp only [judgeFrom, hjudge, hrest]

lemma judgeFrom_result_eq_ok {today : Date} {values : Mapping Value}
    {gates : List (Text × Gate)} {r r' : Report} :
    (judgeFrom today values none gates r).result = .ok r' ↔
      ∃ js, Judged today values gates js ∧ r' = r.addAll js := by
  induction gates generalizing r with
  | nil =>
      constructor
      · intro h
        cases h
        exact ⟨[], List.Forall₂.nil, rfl⟩
      · rintro ⟨js, hjs, rfl⟩
        cases hjs
        rfl
  | cons e gates ih =>
      obtain ⟨field, g⟩ := e
      simp only [judgeFrom, Option.all_none, if_true, Traced.bind_result_eq_ok, ih]
      constructor
      · rintro ⟨j, hj, js, hjs, rfl⟩
        exact ⟨(field, j) :: js, List.Forall₂.cons ⟨rfl, hj⟩ hjs, rfl⟩
      · rintro ⟨js, hjs, rfl⟩
        cases hjs with
        | @cons _ j _ js head hjs =>
            obtain ⟨key, j⟩ := j
            obtain rfl : key = field := head.1
            exact ⟨j, head.2, js, hjs, rfl⟩

/-- A walk ends with a fault exactly if the judgement of one of its gates does. -/
lemma judgeFrom_faults_iff {today : Date} {values : Mapping Value} {gates : List (Text × Gate)}
    {r : Report} :
    (∃ fault, (judgeFrom today values none gates r).result = .error fault) ↔
      ∃ e ∈ gates, ∃ fault,
        (e.2.judge today (valueOf values e.1) values).result = .error fault := by
  induction gates generalizing r with
  | nil => simp [judgeFrom]
  | cons e gates ih =>
      obtain ⟨field, g⟩ := e
      simp only [judgeFrom, Option.all_none, if_true, List.exists_mem_cons_iff]
      cases h : (g.judge today (valueOf values field) values).result with
      | error fault => simp [Traced.bind_result_eq_error, h]
      | ok j => simp [Traced.bind_result_eq_error, h, ih]

lemma nodup_chosen (list : Checklist) (only : Option (List Text)) :
    ((chosen only list.gates.entries).map (·.1)).Nodup :=
  (List.filter_sublist.map _).nodup list.gates.nodup

/-- A report is made of one judgement for each field that is asked for: the accepted ones are its
data and the others its errors, both in the order of the form. -/
theorem judge_result_eq_ok {today : Date} {list : Checklist} {values : Mapping Value}
    {only : Option (List Text)} {r : Report} :
    (list.judge today values only).result = .ok r ↔
      ∃ js, Judged today values (chosen only list.gates.entries) js ∧
        r.data.entries = Report.accepted js ∧ r.errors.entries = Report.refused js := by
  have entries : ∀ js, Judged today values (chosen only list.gates.entries) js →
      (({} : Report).addAll js).data.entries = Report.accepted js ∧
        (({} : Report).addAll js).errors.entries = Report.refused js := by
    intro js hjs
    have hdistinct : (js.map (·.1)).Nodup := hjs.keys_eq ▸ list.nodup_chosen only
    have hfresh : ∀ e ∈ js, e.1 ∉ ({} : Report).data.keys ∧ e.1 ∉ ({} : Report).errors.keys :=
      fun e _ => ⟨List.not_mem_nil, List.not_mem_nil⟩
    exact Report.addAll_entries hdistinct hfresh
  rw [judge, judgeFrom_eq_chosen, judgeFrom_result_eq_ok]
  constructor
  · rintro ⟨js, hjs, rfl⟩
    exact ⟨js, hjs, entries js hjs⟩
  · rintro ⟨js, hjs, hdata, herrors⟩
    refine ⟨js, hjs, Report.eq_of_entries_eq ?_ ?_⟩
    · rw [hdata, (entries js hjs).1]
    · rw [herrors, (entries js hjs).2]

/-- Judging some fields ends with a fault exactly if judging one of them for itself does. -/
theorem judge_faults_iff {today : Date} {list : Checklist} {values : Mapping Value}
    {ids : List Text} (known : ids ⊆ list.gates.keys) :
    (∃ fault, (list.judge today values (some ids)).result = .error fault) ↔
      ∃ id ∈ ids, ∃ fault, (list.judgeField today id values).result = .error fault := by
  rw [judge, judgeFrom_eq_chosen, judgeFrom_faults_iff]
  constructor
  · rintro ⟨⟨id, g⟩, he, fault, hfault⟩
    obtain ⟨hmem, hid⟩ := List.mem_filter.1 he
    have hgate : list.gates.get? id = some g := (Mapping.mem_entries_iff _).1 hmem
    refine ⟨id, List.contains_iff_mem.1 hid, fault, ?_⟩
    rw [judgeField, hgate]
    exact hfault
  · rintro ⟨id, hid, fault, hfault⟩
    obtain ⟨g, hgate⟩ := Mapping.mem_keys_iff.1 (known hid)
    rw [judgeField, hgate] at hfault
    refine ⟨(id, g), List.mem_filter.2 ⟨?_, List.contains_iff_mem.2 hid⟩, fault, hfault⟩
    exact (Mapping.mem_entries_iff _).2 hgate

/-! ## Reading a report -/

variable {today : Date} {list : Checklist} {values : Mapping Value} {only : Option (List Text)}
  {r : Report}

/-- An error belongs to a field that was asked for, and is one message that is not empty. -/
lemma error_of_judge (h : (list.judge today values only).result = .ok r) {field : Text}
    {messages : List Text} (he : r.errors.get? field = some messages) :
    field ∈ (chosen only list.gates.entries).map (·.1) ∧
      ∃ message : Text, message ≠ "" ∧ messages = [message] := by
  obtain ⟨js, hjs, -, herrors⟩ := judge_result_eq_ok.1 h
  rw [← Mapping.mem_entries_iff, herrors] at he
  obtain ⟨v, message, hj, rfl⟩ := Report.mem_refused.1 he
  obtain ⟨g, hg, hjudge⟩ := hjs.mem hj
  exact ⟨List.mem_map_of_mem hg, message, Gate.message_ne_empty hjudge rfl, rfl⟩

/-- A value among the data is what the gate of its field has made of the value. -/
lemma data_of_judge (h : (list.judge today values only).result = .ok r) {field : Text}
    {v : Value} (hv : r.data.get? field = some v) :
    (list.judgeField today field values).result = .ok ⟨v, none⟩ := by
  obtain ⟨js, hjs, hdata, -⟩ := judge_result_eq_ok.1 h
  rw [← Mapping.mem_entries_iff, hdata] at hv
  obtain ⟨g, hg, hjudge⟩ := hjs.mem (Report.mem_accepted.1 hv)
  have hgate : list.gates.get? field = some g :=
    (Mapping.mem_entries_iff _).1 (List.mem_of_mem_filter hg)
  rw [judgeField, hgate]
  exact hjudge

/-- Without errors the data have exactly the fields that were asked for, in the order of the
form. -/
lemma keys_data_of_clean (h : (list.judge today values only).result = .ok r)
    (clean : r.isClean = true) : r.data.keys = (chosen only list.gates.entries).map (·.1) := by
  obtain ⟨js, hjs, hdata, herrors⟩ := judge_result_eq_ok.1 h
  have hnone : ∀ e ∈ js, e.2.message = none := by
    rw [Report.isClean, Mapping.isEmpty_iff, herrors, Report.refused,
      List.filterMap_eq_nil_iff] at clean
    exact fun e he => Option.map_eq_none_iff.1 (clean e he)
  have haccepted : Report.accepted js = js.map fun e => (e.1, e.2.value) := by
    rw [Report.accepted, ← List.filterMap_eq_map]
    exact List.filterMap_congr fun e he => by simp [hnone e he]
  rw [Mapping.keys, hdata, haccepted, List.map_map, ← hjs.keys_eq]
  rfl

end Checklist

/-- A gate accepts nothing but what its check lets through. -/
lemma Gate.run_of_accepted {g : Gate} {today : Date} {v v' : Value} {values : Mapping Value}
    (h : (g.judge today v values).result = .ok ⟨v', none⟩) : g.check.run today v = .ok v' := by
  unfold Gate.judge at h
  split at h
  next => cases h
  next => cases h
  next converted hrun =>
    rw [hrun]
    split at h
    next =>
      cases h
      rfl
    next p =>
      rw [Predicate.judge, Traced.bind_result_eq_ok] at h
      obtain ⟨-, -, h⟩ := h
      split at h
      next => cases h
      next =>
        split at h
        next =>
          cases h
          rfl
        next => cases h

/-! ## The checklist of a form -/

namespace Form

variable {form : Form} {today : Date} {values : Mapping Value} {id : Text}

lemma get?_gates (form : Form) (id : Text) :
    form.checklist.gates.get? id = (form.fields.get? id).map (·.gate) :=
  Mapping.get?_mapValues ..

lemma keys_gates (form : Form) : form.checklist.gates.keys = form.fields.keys :=
  Mapping.keys_mapValues ..

/-- The checklist judges a field by the gate of the field. -/
lemma judgeField_eq {f : Field} (hf : form.fields.get? id = some f) (today : Date)
    (values : Mapping Value) : form.checklist.judgeField today id values =
      f.gate.judge today (Checklist.valueOf values id) values := by
  rw [Checklist.judgeField, get?_gates, hf]
  rfl

/-- A value among the data is what the check of a field of the form has made of the value of that
field. -/
lemma run_of_data {only : Option (List Text)} {r : Report} {v : Value}
    (h : (form.checklist.judge today values only).result = .ok r) (hv : r.data.get? id = some v) :
    ∃ f, form.fields.get? id = some f ∧
      f.check.run today (Checklist.valueOf values id) = .ok v := by
  have hjudge := Checklist.data_of_judge h hv
  cases hf : form.fields.get? id with
  | none =>
      rw [Checklist.judgeField, get?_gates, hf] at hjudge
      cases hjudge
  | some f =>
      rw [judgeField_eq hf] at hjudge
      exact ⟨f, rfl, Gate.run_of_accepted hjudge⟩

end Form

end FormEngine
