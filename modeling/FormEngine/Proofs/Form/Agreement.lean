import FormEngine.Form.Reader
import FormEngine.Proofs.Mapping

/-!
# What a form that has been read agrees on

A document declares a form only if the parts of the form agree.  Drafts rely on two parts of that
agreement: every field calls itself by the key under which it stands (`Form.NamesFields`), and the
layout shows declared fields only (`Form.ShowsDeclared`).  Both are derived from the reading alone,
whatever the document and whatever its predicates answer.
-/

namespace FormEngine

lemma Checked.bind_eq_accepted {α β : Type} {c : Checked α} {f : α → Checked β} {b : β} :
    c.bind f = .accepted b ↔ ∃ a, c = .accepted a ∧ f a = .accepted b := by
  cases c <;> simp [bind]

namespace Form

/-- Every field calls itself by its key. -/
def NamesFields (form : Form) : Prop := ∀ e ∈ form.fields.entries, e.2.id = some e.1

/-- The layout shows declared fields only. -/
def ShowsDeclared (form : Form) : Prop := ∀ id ∈ form.shownFields, ∃ f, form.field? id = some f

/-- An objection is never accepted. -/
lemma objected_ne_accepted {α : Type} {o : Objection} {a : α} :
    Checked.objected o ≠ .accepted a := by
  unfold Checked.objected
  split <;> nofun

lemma objected_map {α β : Type} {o : Objection} {f : α → β} :
    (Checked.objected o).map f = .objected o := by
  unfold Checked.objected
  split <;> rfl

/-- Nothing comes after an objection. -/
lemma objected_bind {α β : Type} {o : Objection} {f : α → Checked β} :
    (Checked.objected o).bind f = .objected o := by
  unfold Checked.objected
  split <;> rfl

lemma namesFields_named (form : Form) : form.named.NamesFields := by
  intro e he
  obtain ⟨e', -, rfl⟩ := List.mem_map.1 he
  rfl

/-- A form whose parts agree is accepted with every field named; no other is accepted. -/
lemma agreed_eq_accepted {form form' : Form} :
    form.agreed = .accepted form' ↔ form.disagreement? = none ∧ form.named = form' := by
  unfold agreed
  cases form.disagreement? <;> simp [objected_ne_accepted]

/-- Naming the fields declares the same fields as before. -/
lemma showsDeclared_named {form : Form} (h : form.disagreement? = none) :
    form.named.ShowsDeclared := by
  intro id hid
  rw [disagreement?, Option.or_eq_none_iff, Option.or_eq_none_iff] at h
  have hdeclared := List.findSome?_eq_none_iff.1 h.1.2 id hid
  have hcontains : form.fields.contains id = true := by
    by_contra hmissing
    rw [if_neg hmissing] at hdeclared
    cases hdeclared
  obtain ⟨f, hf⟩ := Mapping.mem_keys_iff.1 (Mapping.contains_iff.1 hcontains)
  exact ⟨{ f with id := some id }, by rw [field?, named, Mapping.get?_mapValues, hf]; rfl⟩

/-- A form that has been read is one whose parts agree, with its fields named. -/
lemma named_of_read {doc : Value} {host : Predicate.Host} {form : Form}
    (h : Form.read doc host = .accepted form) :
    ∃ parts, readParts doc host = .accepted parts ∧ parts.disagreement? = none ∧
      parts.named = form := by
  obtain ⟨parts, hparts, hagreed⟩ := Checked.bind_eq_accepted.1 h
  exact ⟨parts, hparts, agreed_eq_accepted.1 hagreed⟩

/-- In a form that has been read every field calls itself by its key. -/
lemma namesFields_of_read {doc : Value} {host : Predicate.Host} {form : Form}
    (h : Form.read doc host = .accepted form) : form.NamesFields := by
  obtain ⟨parts, -, -, rfl⟩ := named_of_read h
  exact namesFields_named parts

/-- A form that has been read shows declared fields only. -/
lemma showsDeclared_of_read {doc : Value} {host : Predicate.Host} {form : Form}
    (h : Form.read doc host = .accepted form) : form.ShowsDeclared := by
  obtain ⟨parts, -, hnone, rfl⟩ := named_of_read h
  exact showsDeclared_named hnone

end Form

end FormEngine
