import Mathlib.Data.List.Basic
import FormEngine.Form.Basic

/-!
# Places in a layout

A layout is a tree of parts, and `Layout.fieldIds` lists the fields that it shows from top to
bottom.  That a part stands inside another, at whatever depth, is said by `Layout.Within` without
any order.  `Layout.mem_fieldIds_iff` joins the two: a field is listed exactly if a place of it
stands somewhere inside.
-/

namespace FormEngine

namespace Layout

/-- The parts that a part holds. -/
def children : Layout → List Layout
  | .field _ _ => []
  | .stack _ _ children => children
  | .grid _ _ _ children => children
  | .segment _ _ _ _ _ children => children

/-- A part is another, or stands inside it at some depth. -/
inductive Within (inner : Layout) : Layout → Prop
  | here : Within inner inner
  | inside {outer child : Layout} : child ∈ outer.children → Within inner child →
      Within inner outer

/-- Whether a place of a field is a part or stands inside it. -/
def Shows (part : Layout) (id : String) : Prop := ∃ span, Within (.field span id) part

variable {id : String}

lemma Shows.inside {outer child : Layout} (hchild : child ∈ outer.children)
    (h : child.Shows id) : outer.Shows id :=
  h.imp fun _ hwithin => .inside hchild hwithin

/-- A list of parts shows what any of them shows. -/
lemma mem_fieldIdsOf {parts : List Layout} :
    id ∈ fieldIdsOf parts ↔ ∃ part ∈ parts, id ∈ part.fieldIds := by
  induction parts with
  | nil => simp [fieldIdsOf]
  | cons part parts ih => rw [fieldIdsOf, List.mem_append, ih, List.exists_mem_cons_iff]

lemma mem_fieldIds_of_child {outer child : Layout} (hchild : child ∈ outer.children)
    (h : id ∈ child.fieldIds) : id ∈ outer.fieldIds := by
  have hchildren : id ∈ fieldIdsOf outer.children := mem_fieldIdsOf.2 ⟨child, hchild, h⟩
  cases outer with
  | field span other => cases hchild
  | stack span distance children => exact hchildren
  | grid span cols distance children => exact hchildren
  | segment span title subtitle divider collapsible children => exact hchildren

mutual

/-- A field that a part lists is shown by it. -/
theorem shows_of_mem_fieldIds : ∀ part : Layout, id ∈ part.fieldIds → part.Shows id
  | .field span other, h => by
      obtain rfl := List.mem_singleton.1 h
      exact ⟨span, .here⟩
  | .stack _ _ children, h =>
      let ⟨_, hchild, hshows⟩ := shows_of_mem_fieldIdsOf children h
      .inside hchild hshows
  | .grid _ _ _ children, h =>
      let ⟨_, hchild, hshows⟩ := shows_of_mem_fieldIdsOf children h
      .inside hchild hshows
  | .segment _ _ _ _ _ children, h =>
      let ⟨_, hchild, hshows⟩ := shows_of_mem_fieldIdsOf children h
      .inside hchild hshows

/-- The same of a list of parts. -/
theorem shows_of_mem_fieldIdsOf :
    ∀ parts : List Layout, id ∈ fieldIdsOf parts → ∃ part ∈ parts, part.Shows id
  | [], h => absurd h List.not_mem_nil
  | part :: parts, h => by
      rcases List.mem_append.1 h with h | h
      · exact ⟨part, List.mem_cons_self, shows_of_mem_fieldIds part h⟩
      · obtain ⟨other, hother, hshows⟩ := shows_of_mem_fieldIdsOf parts h
        exact ⟨other, List.mem_cons_of_mem _ hother, hshows⟩

end

/-- A part lists exactly the fields that it shows at some depth. -/
theorem mem_fieldIds_iff {part : Layout} : id ∈ part.fieldIds ↔ part.Shows id := by
  refine ⟨shows_of_mem_fieldIds part, ?_⟩
  rintro ⟨span, hwithin⟩
  induction hwithin with
  | here => exact List.mem_singleton_self id
  | inside hchild _ ih => exact mem_fieldIds_of_child hchild ih

end Layout

end FormEngine
