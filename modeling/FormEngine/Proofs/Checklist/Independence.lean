import Mathlib.Data.List.Nodup
import FormEngine.Proofs.Checklist

/-!
# Fields are judged independently

A report keeps data and errors apart.  `Report.about` puts the two together again: what a report
says about one field.  Seen in this way a report is determined by the judgements of single fields.
`Checklist.Reports` says so in four clauses, and `Checklist.judge_eq_ok_iff` that judging comes to a
report exactly if the report meets them.  Proofs about reports can therefore go field by field,
without the walk that has made the report and without the list of judgements behind it.

From this follows what parts of a report have to do with the whole: judging fewer fields gives the
part on these fields (`Checklist.judge_restrict`), and parts that leave out no field say together
what the whole says (`Checklist.Reports.about_join`).  `Form.fieldByField_of_judge` states it for
forms.
-/

namespace FormEngine

/-- What a judgement leaves in a report: a value among the data, or a message among the errors. -/
def Judgement.entry (j : Judgement) : Option Value × Option (List Text) :=
  match j.message with
  | none => (some j.value, none)
  | some message => (none, some [message])

/-- A judgement leaves either a value or one message. -/
lemma Judgement.entry_cases (j : Judgement) :
    (∃ v, j.entry = (some v, none)) ∨ ∃ message, j.entry = (none, some [message]) := by
  unfold entry
  cases j.message with
  | none => exact .inl ⟨_, rfl⟩
  | some message => exact .inr ⟨message, rfl⟩

namespace Report

/-- What a report says about a field, among its data and among its errors. -/
def about (r : Report) (id : Text) : Option Value × Option (List Text) :=
  (r.data.get? id, r.errors.get? id)

/-- What a report says about a field is what the judgement of the field leaves. -/
lemma about_of_mem {r : Report} {js : List (Text × Judgement)}
    (distinct : (js.map (·.1)).Nodup) (hdata : r.data.entries = accepted js)
    (herrors : r.errors.entries = refused js) {id : Text} {j : Judgement} (hj : (id, j) ∈ js) :
    r.about id = j.entry := by
  -- a second judgement of the field would have to be the first
  have hunique : ∀ j', (id, j') ∈ js → j' = j := by
    intro j' hj'
    have hpair := List.inj_on_of_nodup_map distinct hj' hj rfl
    exact congrArg (·.2) hpair
  obtain ⟨v, message⟩ := j
  cases message with
  | none =>
      have hvalue : r.data.get? id = some v := by
        rw [← Mapping.mem_entries_iff, hdata]
        exact mem_accepted.2 hj
      have hquiet : r.errors.get? id = none := by
        rw [Option.eq_none_iff_forall_ne_some]
        intro messages hmessages
        rw [← Mapping.mem_entries_iff, herrors] at hmessages
        obtain ⟨v', message, hj', -⟩ := mem_refused.1 hmessages
        cases hunique _ hj'
      rw [about, hvalue, hquiet]
      rfl
  | some message =>
      have htold : r.errors.get? id = some [message] := by
        rw [← Mapping.mem_entries_iff, herrors]
        exact mem_refused.2 ⟨v, message, hj, rfl⟩
      have hmissing : r.data.get? id = none := by
        rw [Option.eq_none_iff_forall_ne_some]
        intro v' hv'
        rw [← Mapping.mem_entries_iff, hdata] at hv'
        cases hunique _ (mem_accepted.1 hv')
      rw [about, htold, hmissing]
      rfl

/-! ## Order -/

lemma keys_accepted (js : List (Text × Judgement)) :
    (accepted js).map (·.1) = (js.filter (·.2.message.isNone)).map (·.1) := by
  induction js with
  | nil => rfl
  | cons j js ih =>
      cases h : j.2.message <;> simp_all [accepted]

lemma keys_refused (js : List (Text × Judgement)) :
    (refused js).map (·.1) = (js.filter (·.2.message.isSome)).map (·.1) := by
  induction js with
  | nil => rfl
  | cons j js ih =>
      cases h : j.2.message <;> simp_all [refused]

end Report

/-- The entries of several mappings in one; of two with one key the later wins. -/
def Mapping.union {α : Type} (ms : List (Mapping α)) : Mapping α :=
  ms.foldl (fun all m => all.setAll m.entries) .empty

/-- Choosing parts of a mapping by their keys and writing them one after the other writes what
belongs to one of the parts. -/
lemma Mapping.get?_foldl_parts {α : Type} (m : Mapping α) (parts : List (List Text))
    (all : Mapping α) (id : Text) :
    ((parts.map fun ids => m.filter fun key _ => ids.contains key).foldl
        (fun all n => all.setAll n.entries) all).get? id =
      if ∃ ids ∈ parts, id ∈ ids then (m.get? id).or (all.get? id) else all.get? id := by
  induction parts generalizing all with
  | nil => simp
  | cons ids parts ih =>
      rw [List.map_cons, List.foldl_cons, ih, get?_setAll_entries, get?_filter_key]
      by_cases hid : id ∈ ids
      · cases m.get? id <;> simp [hid]
      · simp [hid]

namespace Report

/-! ## Parts of a report -/

/-- The part of a report that is about some fields. -/
def restrict (r : Report) (ids : List Text) : Report :=
  ⟨r.data.filter fun id _ => ids.contains id, r.errors.filter fun id _ => ids.contains id⟩

lemma about_restrict (r : Report) (ids : List Text) (id : Text) :
    (r.restrict ids).about id = if id ∈ ids then r.about id else (none, none) := by
  simp only [about, restrict, Mapping.get?_filter_key, List.contains_iff_mem]
  split <;> rfl

/-- Several reports in one. -/
def join (rs : List Report) : Report := ⟨.union (rs.map (·.data)), .union (rs.map (·.errors))⟩

/-- Parts of a report that belong together say what the report says about the fields of one of
them. -/
lemma about_join_restrict (r : Report) (parts : List (List Text)) (id : Text) :
    (join (parts.map r.restrict)).about id =
      if ∃ ids ∈ parts, id ∈ ids then r.about id else (none, none) := by
  have hdata : (join (parts.map r.restrict)).data.get? id =
      if ∃ ids ∈ parts, id ∈ ids then r.data.get? id else none := by
    have hparts := r.data.get?_foldl_parts parts .empty id
    simp only [join, Mapping.union, List.map_map, Function.comp_def, restrict, hparts]
    simp
  have herrors : (join (parts.map r.restrict)).errors.get? id =
      if ∃ ids ∈ parts, id ∈ ids then r.errors.get? id else none := by
    have hparts := r.errors.get?_foldl_parts parts .empty id
    simp only [join, Mapping.union, List.map_map, Function.comp_def, restrict, hparts]
    simp
  rw [about, hdata, herrors]
  split <;> rfl

end Report

namespace Checklist

variable {today : Date} {list : Checklist} {values : Mapping Value} {only : Option (List Text)}
  {r : Report}

/-- Whether the judgement of a field is asked for. -/
def Asks (list : Checklist) (only : Option (List Text)) (id : Text) : Prop :=
  id ∈ list.gates.keys ∧ only.all (·.contains id) = true

/-- A report says about every field that is asked for what the judgement of the field leaves, and
about no other field anything; and it keeps to the order of the form. -/
structure Reports (today : Date) (list : Checklist) (values : Mapping Value)
    (only : Option (List Text)) (r : Report) : Prop where
  asked : ∀ id, list.Asks only id →
    ∃ j, (list.judgeField today id values).result = .ok j ∧ r.about id = j.entry
  others : ∀ id, ¬ list.Asks only id → r.about id = (none, none)
  data_ordered : r.data.keys.Sublist list.gates.keys
  errors_ordered : r.errors.keys.Sublist list.gates.keys

lemma mem_chosen_keys {id : Text} :
    id ∈ (chosen only list.gates.entries).map (·.1) ↔ list.Asks only id := by
  simp only [chosen, Asks, Mapping.keys, List.mem_map, List.mem_filter]
  constructor
  · rintro ⟨e, ⟨he, hasked⟩, rfl⟩
    exact ⟨⟨e, he, rfl⟩, hasked⟩
  · rintro ⟨⟨e, he, rfl⟩, hasked⟩
    exact ⟨e, ⟨he, hasked⟩, rfl⟩

lemma reports_of_judge (h : (list.judge today values only).result = .ok r) :
    list.Reports today values only r := by
  obtain ⟨js, hjs, hdata, herrors⟩ := judge_result_eq_ok.1 h
  have hkeys : js.map (·.1) = (chosen only list.gates.entries).map (·.1) := hjs.keys_eq
  have hdistinct : (js.map (·.1)).Nodup := hkeys ▸ list.nodup_chosen only
  have hmem : ∀ id j, (id, j) ∈ js → list.Asks only id := by
    intro id j hj
    rw [← mem_chosen_keys, ← hkeys]
    exact List.mem_map_of_mem hj
  have hsublist : (js.map (·.1)).Sublist list.gates.keys := by
    rw [hkeys]
    exact List.filter_sublist.map _
  refine ⟨?_, ?_, ?_, ?_⟩
  · intro id hasked
    rw [← mem_chosen_keys, ← hkeys] at hasked
    obtain ⟨⟨key, j⟩, hj, hkey⟩ := List.mem_map.1 hasked
    obtain rfl : key = id := hkey
    obtain ⟨g, hg, hjudge⟩ := hjs.mem hj
    have hgate : list.gates.get? key = some g :=
      (Mapping.mem_entries_iff _).1 (List.mem_of_mem_filter hg)
    refine ⟨j, ?_, Report.about_of_mem hdistinct hdata herrors hj⟩
    rw [judgeField, hgate]
    exact hjudge
  · intro id hother
    have hvalue : r.data.get? id = none := by
      rw [Option.eq_none_iff_forall_ne_some]
      intro v hv
      rw [← Mapping.mem_entries_iff, hdata] at hv
      exact hother (hmem id _ (Report.mem_accepted.1 hv))
    have htold : r.errors.get? id = none := by
      rw [Option.eq_none_iff_forall_ne_some]
      intro messages hmessages
      rw [← Mapping.mem_entries_iff, herrors] at hmessages
      obtain ⟨v, message, hj, -⟩ := Report.mem_refused.1 hmessages
      exact hother (hmem id _ hj)
    rw [Report.about, hvalue, htold]
  · rw [Mapping.keys, hdata, Report.keys_accepted]
    exact (List.filter_sublist.map _).trans hsublist
  · rw [Mapping.keys, herrors, Report.keys_refused]
    exact (List.filter_sublist.map _).trans hsublist

/-- Two reports that say the same about every field, in the order of the form, are the same. -/
lemma Reports.unique {r' : Report} (h : list.Reports today values only r)
    (h' : list.Reports today values only r') : r = r' := by
  have habout : ∀ id, r.about id = r'.about id := by
    intro id
    by_cases hasked : list.Asks only id
    · obtain ⟨j, hj, hleaves⟩ := h.asked id hasked
      obtain ⟨j', hj', hleaves'⟩ := h'.asked id hasked
      obtain rfl : j = j' := Except.ok.inj (hj.symm.trans hj')
      rw [hleaves, hleaves']
    · rw [h.others id hasked, h'.others id hasked]
  have hdata : r.data = r'.data :=
    Mapping.eq_of_sublist list.gates.nodup h.data_ordered h'.data_ordered fun id =>
      congrArg Prod.fst (habout id)
  have herrors : r.errors = r'.errors :=
    Mapping.eq_of_sublist list.gates.nodup h.errors_ordered h'.errors_ordered fun id =>
      congrArg Prod.snd (habout id)
  exact Report.eq_of_entries_eq (congrArg _ hdata) (congrArg _ herrors)

/-- Of a field that is asked for a report has either a value or one message. -/
lemma Reports.about_cases (h : list.Reports today values only r) {id : Text}
    (hasked : list.Asks only id) : (∃ v, r.about id = (some v, none)) ∨
      ∃ message, r.about id = (none, some [message]) := by
  obtain ⟨j, -, hleaves⟩ := h.asked id hasked
  rw [hleaves]
  exact j.entry_cases

/-- The fields that are asked for are those among the data and those among the errors. -/
lemma Reports.asks_iff (h : list.Reports today values only r) {id : Text} :
    list.Asks only id ↔ id ∈ r.data.keys ∨ id ∈ r.errors.keys := by
  constructor
  · intro hasked
    rcases h.about_cases hasked with ⟨v, hleaves⟩ | ⟨message, hleaves⟩
    · exact .inl (Mapping.mem_keys_of_get? (congrArg Prod.fst hleaves))
    · exact .inr (Mapping.mem_keys_of_get? (congrArg Prod.snd hleaves))
  · intro hid
    by_contra hother
    have hnothing := h.others id hother
    rcases hid with hdata | herrors
    · exact Mapping.get?_eq_none_iff.1 (congrArg Prod.fst hnothing) hdata
    · exact Mapping.get?_eq_none_iff.1 (congrArg Prod.snd hnothing) herrors

/-- No field is both among the data and among the errors. -/
lemma Reports.disjoint (h : list.Reports today values only r) {id : Text}
    (hdata : id ∈ r.data.keys) : id ∉ r.errors.keys := by
  rw [← Mapping.get?_eq_none_iff]
  obtain ⟨v, hv⟩ := Mapping.mem_keys_iff.1 hdata
  rcases h.about_cases (h.asks_iff.2 (.inl hdata)) with ⟨v', hleaves⟩ | ⟨message, hleaves⟩
  · exact congrArg Prod.snd hleaves
  · cases hv.symm.trans (congrArg Prod.fst hleaves)

/-- Parts that leave out nothing that is asked for say together what the whole says. -/
lemma Reports.about_join (h : list.Reports today values only r) {parts : List (List Text)}
    (hcover : ∀ id, list.Asks only id → ∃ ids ∈ parts, id ∈ ids) (id : Text) :
    (Report.join (parts.map r.restrict)).about id = r.about id := by
  rw [Report.about_join_restrict]
  by_cases hasked : list.Asks only id
  · rw [if_pos (hcover id hasked)]
  · rw [h.others id hasked, ite_self]

/-- Judging comes to a report exactly if the report says about every field that is asked for what
the judgement of the field leaves, and nothing else. -/
theorem judge_eq_ok_iff :
    (list.judge today values only).result = .ok r ↔ list.Reports today values only r := by
  refine ⟨reports_of_judge, fun h => ?_⟩
  cases hjudge : (list.judge today values only).result with
  | ok r' => rw [h.unique (reports_of_judge hjudge)]
  | error fault =>
      rw [judge, judgeFrom_eq_chosen] at hjudge
      obtain ⟨⟨id, g⟩, he, fault', hfault⟩ := judgeFrom_faults_iff.1 ⟨fault, hjudge⟩
      have hgate : list.gates.get? id = some g :=
        (Mapping.mem_entries_iff _).1 (List.mem_of_mem_filter he)
      obtain ⟨j, hj, -⟩ := h.asked id (mem_chosen_keys.1 (List.mem_map_of_mem he))
      rw [judgeField, hgate] at hj
      rw [hj] at hfault
      cases hfault

/-- Fewer fields are judged as they are among more. -/
lemma judge_restrict (h : (list.judge today values only).result = .ok r) {ids : List Text}
    (narrower : ∀ id, list.Asks (some ids) id → list.Asks only id) :
    (list.judge today values (some ids)).result = .ok (r.restrict ids) := by
  have hr := reports_of_judge h
  rw [judge_eq_ok_iff]
  refine ⟨?_, ?_, ?_, ?_⟩
  · intro id hasked
    have hmem : id ∈ ids := List.contains_iff_mem.1 hasked.2
    rw [Report.about_restrict, if_pos hmem]
    exact hr.asked id (narrower id hasked)
  · intro id hother
    rw [Report.about_restrict]
    by_cases hmem : id ∈ ids
    · rw [if_pos hmem]
      apply hr.others
      intro hasked
      exact hother ⟨hasked.1, List.contains_iff_mem.2 hmem⟩
    · rw [if_neg hmem]
  · exact (List.filter_sublist.map _).trans hr.data_ordered
  · exact (List.filter_sublist.map _).trans hr.errors_ordered

end Checklist

/-! ## Forms -/

/-- What the report on all fields of a form is made of, and how those on some fields belong to
it. -/
structure Report.FieldByField (today : Date) (form : Form) (values : Mapping Value)
    (r : Report) : Prop where
  /-- Every field of the form, and no other, has data or errors. -/
  complete : ∀ id, id ∈ form.fields.keys ↔ id ∈ r.data.keys ∨ id ∈ r.errors.keys
  disjoint : ∀ id ∈ r.data.keys, id ∉ r.errors.keys
  data_ordered : r.data.keys.Sublist form.fields.keys
  errors_ordered : r.errors.keys.Sublist form.fields.keys
  /-- What is said about a field is what judging that field alone leaves. -/
  entries : ∀ id ∈ form.fields.keys, ∃ j,
    (form.checklist.judgeField today id values).result = .ok j ∧ r.about id = j.entry
  single : ∀ id messages, r.errors.get? id = some messages → messages.length = 1
  clean : r.isClean = true ↔ r.errors.keys = []
  /-- The report on some fields, be they fields of the form or not, is a part of this one. -/
  restricted : ∀ ids,
    (form.checklist.judge today values (some ids)).result = .ok (r.restrict ids)
  /-- The reports on parts that leave out no field say together what this one says. -/
  joined : ∀ parts : List (List Text), (∀ id ∈ form.fields.keys, ∃ ids ∈ parts, id ∈ ids) →
    ∃ rs, List.Forall₂ (fun ids r' =>
        (form.checklist.judge today values (some ids)).result = .ok r') parts rs ∧
      ∀ id, (Report.join rs).about id = r.about id

/-- If judging all fields of a form comes to a report at all, the report is made field by field:
each field is among the data or among the errors as judging it alone says, and judging any fields
gives the part of the report on them, so that the parts make up the whole. -/
theorem Form.fieldByField_of_judge {form : Form} {today : Date} {values : Mapping Value}
    {r : Report} (judged : (form.checklist.judge today values none).result = .ok r) :
    r.FieldByField today form values := by
  have hkeys := form.keys_gates
  have hr := Checklist.reports_of_judge judged
  have hasks : ∀ id, form.checklist.Asks none id ↔ id ∈ form.fields.keys := by
    intro id
    rw [Checklist.Asks, hkeys]
    exact and_iff_left rfl
  have hrestricted : ∀ ids,
      (form.checklist.judge today values (some ids)).result = .ok (r.restrict ids) :=
    fun ids => Checklist.judge_restrict judged fun id hid => ⟨hid.1, rfl⟩
  refine ⟨?_, fun id => hr.disjoint, ?_, ?_, ?_, ?_, ?_, hrestricted, ?_⟩
  · intro id
    rw [← hasks, hr.asks_iff]
  · rw [← hkeys]
    exact hr.data_ordered
  · rw [← hkeys]
    exact hr.errors_ordered
  · intro id hid
    exact hr.asked id ((hasks id).2 hid)
  · intro id messages hmessages
    obtain ⟨-, message, -, rfl⟩ := Checklist.error_of_judge judged hmessages
    rfl
  · rw [Report.isClean, Mapping.isEmpty_iff, Mapping.keys, List.map_eq_nil_iff]
  · intro parts hcover
    have hcovered : ∀ id, form.checklist.Asks none id → ∃ ids ∈ parts, id ∈ ids :=
      fun id hasked => hcover id ((hasks id).1 hasked)
    refine ⟨parts.map r.restrict, ?_, hr.about_join hcovered⟩
    rw [List.forall₂_map_right_iff, List.forall₂_same]
    intro ids _
    exact hrestricted ids

/-! ## A form with three fields -/

/-- A form that asks visitors for their name, their age and what they are interested in. -/
def visit : Form where
  id := "visit"
  intro := {}
  fields := ⟨[
    ("name", ⟨some "name", "", .text, none, none, none, .empty,
      some { required := .flag true }, none⟩),
    ("age", ⟨some "age", "", .number, none, none, none, .empty,
      some { min := some ⟨.ofInt 18, some "adults only"⟩ }, none⟩),
    ("topics", ⟨some "topics", "", .multiselect, none, none, none, .empty, none, none⟩)],
    by decide⟩
  layout := []

/-- The day of the visit. -/
def visitDay : Date := ⟨2023, 4, 30⟩

/-- What a visitor in a hurry enters: no name, and something that nobody has asked for. -/
def hastyVisit : Mapping Value :=
  ⟨[("topics", .tuple [.text "art"]), ("pet", .text "cat"), ("age", .text "17")], by decide⟩

/-- What is said about it. -/
def hastyReport : Report where
  data := ⟨[("topics", .list [.text "art"])], by decide⟩
  errors := ⟨[("name", ["Required"]), ("age", ["adults only"])], by decide⟩

theorem fieldByField_of_hastyVisit :
    (visit.checklist.judge visitDay hastyVisit none).result = .ok hastyReport ∧
      hastyReport.FieldByField visitDay visit hastyVisit ∧
      (visit.checklist.judge visitDay hastyVisit (some ["pet", "age"])).result =
        .ok (hastyReport.restrict ["pet", "age"]) ∧
      (hastyReport.restrict ["pet", "age"]).errors.entries =
        [(("age" : Text), [("adults only" : Text)])] := by
  have judged : (visit.checklist.judge visitDay hastyVisit none).result = .ok hastyReport := rfl
  have apart := Form.fieldByField_of_judge judged
  exact ⟨judged, apart, apart.restricted ["pet", "age"], rfl⟩

end FormEngine
