import FormEngine.View
import FormEngine.Proofs.Draft.Coherence
import FormEngine.Proofs.Form.Places

/-!
# What a painted layout looks like

Painting walks over a layout and drops the fields for which there is nothing to show, at three
places: among the parts at the top, among the children of a part, and among the cells of a grid.
`Layout.Looks` says apart from that walk which view a part looks like, given for each field what
stands in its place.  A part looks like at most one view, and only a field may look like none.

What can be observed of a view follows from that relation alone: its payloads in the order of the
document (`LooksAll.payloadsOf_eq`), the containers and their nesting (`LooksAll.framesOf_eq`), and
that whatever stands in a view at any depth is what a part at some depth looks like
(`LooksAll.within`).  `Draft.painted_of_reached` says that painting a draft succeeds and comes to
the one list of views that the layout looks like.
-/

namespace FormEngine

variable {α : Type}

/-! ## Observing views -/

namespace View

/-- The views that a view holds. -/
def children : View α → List (View α)
  | .field _ => []
  | .stack _ children => children
  | .grid _ _ cells => cells.map (·.2)
  | .segment _ _ _ children => children

/-- A view is another, or stands inside it at some depth. -/
inductive Within (inner : View α) : View α → Prop
  | here : Within inner inner
  | inside {outer child : View α} : child ∈ outer.children → Within inner child →
      Within inner outer

mutual

/-- The payloads in a view, in the order of the document. -/
def payloads : View α → List α
  | .field p => [p]
  | .stack _ children => payloadsOf children
  | .grid _ _ cells => payloadsOfCells cells
  | .segment _ _ _ children => payloadsOf children

/-- The payloads in a list of views. -/
def payloadsOf : List (View α) → List α
  | [] => []
  | view :: views => payloads view ++ payloadsOf views

/-- The payloads in the cells of a grid. -/
def payloadsOfCells : List (Nat × View α) → List α
  | [] => []
  | cell :: cells => payloads cell.2 ++ payloadsOfCells cells

end

end View

/-- The containers of a layout or of a view, nested as they are, without what they show. -/
inductive Frame where
  | stack (distance : Distance) (inside : List Frame)
  | grid (cols : Columns) (distance : Distance) (inside : List Frame)
  | segment (collapsible : Bool) (inside : List Frame)

namespace View

mutual

/-- The outermost containers of a view. -/
def frames : View α → List Frame
  | .field _ => []
  | .stack distance children => [.stack distance (framesOf children)]
  | .grid cols distance cells => [.grid cols distance (framesOfCells cells)]
  | .segment _ _ collapsible children => [.segment collapsible (framesOf children)]

/-- The outermost containers of a list of views. -/
def framesOf : List (View α) → List Frame
  | [] => []
  | view :: views => frames view ++ framesOf views

/-- The outermost containers of the cells of a grid. -/
def framesOfCells : List (Nat × View α) → List Frame
  | [] => []
  | cell :: cells => frames cell.2 ++ framesOfCells cells

end

end View

namespace Layout

mutual

/-- The outermost containers of a part. -/
def frames : Layout → List Frame
  | .field _ _ => []
  | .stack _ distance children => [.stack distance (framesOf children)]
  | .grid _ cols distance children => [.grid cols distance (framesOf children)]
  | .segment _ _ _ _ collapsible children => [.segment collapsible (framesOf children)]

/-- The outermost containers of a list of parts. -/
def framesOf : List Layout → List Frame
  | [] => []
  | part :: parts => frames part ++ framesOf parts

end

/-! ## Looks -/

/-- A field in whose place nothing stands. -/
def Blank (look : String → Option α) (part : Layout) : Prop :=
  ∃ span id, part = .field span id ∧ look id = none

mutual

/-- A part looks like a view, given what stands in the place of each field. -/
inductive Looks (look : String → Option α) : Layout → View α → Prop
  | field {span : Columns} {id : String} {p : α} : look id = some p →
      Looks look (.field span id) (.field p)
  | stack {span : Columns} {distance : Distance} {children : List Layout}
      {views : List (View α)} : LooksAll look children views →
      Looks look (.stack span distance children) (.stack distance views)
  | grid {span cols : Columns} {distance : Distance} {children : List Layout}
      {cells : List (Nat × View α)} : LooksCells look cols children cells →
      Looks look (.grid span cols distance children) (.grid cols distance cells)
  /-- A section has a heading if it has a title that is not empty, and then also a line below the
  heading, should one be asked for. -/
  | segment {span : Columns} {title subtitle : Option Text} {divider collapsible line : Bool}
      {heading : Option (Text × Option Text)} {children : List Layout}
      {views : List (View α)} : LooksAll look children views →
      (∀ text sub, heading = some (text, sub) ↔ title = some text ∧ text ≠ "" ∧ subtitle = sub) →
      (line = true ↔ heading ≠ none ∧ divider = true) →
      Looks look (.segment span title subtitle divider collapsible children)
        (.segment heading line collapsible views)

/-- A list of parts looks like a list of views: one for each part, in order, but for blank ones. -/
inductive LooksAll (look : String → Option α) : List Layout → List (View α) → Prop
  | nil : LooksAll look [] []
  | keep {part : Layout} {view : View α} {parts : List Layout} {views : List (View α)} :
      Looks look part view → LooksAll look parts views →
      LooksAll look (part :: parts) (view :: views)
  | drop {part : Layout} {parts : List Layout} {views : List (View α)} :
      Blank look part → LooksAll look parts views → LooksAll look (part :: parts) views

/-- The same of the cells of a grid, which span as many columns as their parts claim, but no more
than there are. -/
inductive LooksCells (look : String → Option α) :
    Columns → List Layout → List (Nat × View α) → Prop
  | nil {cols : Columns} : LooksCells look cols [] []
  | keep {cols : Columns} {part : Layout} {view : View α} {parts : List Layout}
      {cells : List (Nat × View α)} : Looks look part view → LooksCells look cols parts cells →
      LooksCells look cols (part :: parts) ((min part.span.1 cols.1, view) :: cells)
  | drop {cols : Columns} {part : Layout} {parts : List Layout} {cells : List (Nat × View α)} :
      Blank look part → LooksCells look cols parts cells →
      LooksCells look cols (part :: parts) cells

end

variable {look : String → Option α} {part : Layout} {view : View α} {parts : List Layout}
  {views : List (View α)}

/-! ## Payloads and containers -/

lemma Blank.payloads (h : Blank look part) : part.fieldIds.filterMap look = [] := by
  obtain ⟨span, id, rfl, hnone⟩ := h
  simp [fieldIds, hnone]

lemma Blank.frames (h : Blank look part) : part.frames = [] := by
  obtain ⟨span, id, rfl, -⟩ := h
  rfl

mutual

/-- The payloads of a view are what stands in the places of the fields of its part, in order. -/
theorem Looks.payloads_eq : ∀ {part : Layout} {view : View α}, Looks look part view →
    view.payloads = part.fieldIds.filterMap look
  | _, _, .field h => by simp [View.payloads, fieldIds, h]
  | _, _, .stack h => h.payloadsOf_eq
  | _, _, .grid h => h.payloadsOf_eq
  | _, _, .segment h _ _ => h.payloadsOf_eq

/-- The same of a list of parts. -/
theorem LooksAll.payloadsOf_eq : ∀ {parts : List Layout} {views : List (View α)},
    LooksAll look parts views → View.payloadsOf views = (fieldIdsOf parts).filterMap look
  | _, _, .nil => rfl
  | _, _, .keep hpart hparts => by
      rw [View.payloadsOf, fieldIdsOf, List.filterMap_append, hpart.payloads_eq,
        hparts.payloadsOf_eq]
  | _, _, .drop hblank hparts => by
      rw [fieldIdsOf, List.filterMap_append, hblank.payloads, hparts.payloadsOf_eq]
      rfl

/-- The same of the cells of a grid. -/
theorem LooksCells.payloadsOf_eq {cols : Columns} : ∀ {parts : List Layout}
    {cells : List (Nat × View α)}, LooksCells look cols parts cells →
    View.payloadsOfCells cells = (fieldIdsOf parts).filterMap look
  | _, _, .nil => rfl
  | _, _, .keep hpart hparts => by
      rw [View.payloadsOfCells, fieldIdsOf, List.filterMap_append, hpart.payloads_eq,
        hparts.payloadsOf_eq]
  | _, _, .drop hblank hparts => by
      rw [fieldIdsOf, List.filterMap_append, hblank.payloads, hparts.payloadsOf_eq]
      rfl

end

mutual

/-- The containers of a view are those of its part, also where all that they hold is dropped. -/
theorem Looks.frames_eq : ∀ {part : Layout} {view : View α}, Looks look part view →
    view.frames = part.frames
  | _, _, .field _ => rfl
  | _, _, .stack h => by rw [View.frames, Layout.frames, h.framesOf_eq]
  | _, _, .grid h => by rw [View.frames, Layout.frames, h.framesOf_eq]
  | _, _, .segment h _ _ => by rw [View.frames, Layout.frames, h.framesOf_eq]

/-- The same of a list of parts. -/
theorem LooksAll.framesOf_eq : ∀ {parts : List Layout} {views : List (View α)},
    LooksAll look parts views → View.framesOf views = framesOf parts
  | _, _, .nil => rfl
  | _, _, .keep hpart hparts => by
      rw [View.framesOf, framesOf, hpart.frames_eq, hparts.framesOf_eq]
  | _, _, .drop hblank hparts => by
      rw [framesOf, hblank.frames, hparts.framesOf_eq]
      rfl

/-- The same of the cells of a grid. -/
theorem LooksCells.framesOf_eq : ∀ {cols : Columns} {parts : List Layout}
    {cells : List (Nat × View α)}, LooksCells look cols parts cells →
    View.framesOfCells cells = framesOf parts
  | _, _, _, .nil => rfl
  | _, _, _, .keep hpart hparts => by
      rw [View.framesOfCells, framesOf, hpart.frames_eq, hparts.framesOf_eq]
  | _, _, _, .drop hblank hparts => by
      rw [framesOf, hblank.frames, hparts.framesOf_eq]
      rfl

end

/-! ## Views at any depth -/

/-- Every view of a list is what some part looks like. -/
lemma LooksAll.of_mem : ∀ {parts : List Layout} {views : List (View α)},
    LooksAll look parts views → ∀ view ∈ views, ∃ part ∈ parts, Looks look part view
  | _, _, .nil => fun _ h => absurd h List.not_mem_nil
  | part :: _, _, .keep hpart hparts => by
      refine List.forall_mem_cons.2 ⟨⟨part, List.mem_cons_self, hpart⟩, fun view hview => ?_⟩
      obtain ⟨other, hother, hlooks⟩ := hparts.of_mem view hview
      exact ⟨other, List.mem_cons_of_mem _ hother, hlooks⟩
  | _, _, .drop _ hparts => fun view hview => by
      obtain ⟨other, hother, hlooks⟩ := hparts.of_mem view hview
      exact ⟨other, List.mem_cons_of_mem _ hother, hlooks⟩

/-- Every cell of a grid is what some part looks like, and spans what that part claims, but no more
than there is. -/
lemma LooksCells.of_mem : ∀ {cols : Columns} {parts : List Layout} {cells : List (Nat × View α)},
    LooksCells look cols parts cells → ∀ cell ∈ cells, ∃ part ∈ parts,
      Looks look part cell.2 ∧ cell.1 = min part.span.1 cols.1
  | _, _, _, .nil => fun _ h => absurd h List.not_mem_nil
  | _, part :: _, _, .keep hpart hparts => by
      refine List.forall_mem_cons.2 ⟨⟨part, List.mem_cons_self, hpart, rfl⟩, fun cell hcell => ?_⟩
      obtain ⟨other, hother, hlooks⟩ := hparts.of_mem cell hcell
      exact ⟨other, List.mem_cons_of_mem _ hother, hlooks⟩
  | _, _, _, .drop _ hparts => fun cell hcell => by
      obtain ⟨other, hother, hlooks⟩ := hparts.of_mem cell hcell
      exact ⟨other, List.mem_cons_of_mem _ hother, hlooks⟩

/-- What a view holds is what something in its part looks like. -/
lemma Looks.of_mem_children (h : Looks look part view) {inner : View α}
    (hinner : inner ∈ view.children) : ∃ child ∈ part.children, Looks look child inner := by
  cases h with
  | field _ => cases hinner
  | stack hall => exact hall.of_mem inner hinner
  | grid hcells =>
      obtain ⟨cell, hcell, rfl⟩ := List.mem_map.1 hinner
      obtain ⟨child, hchild, hlooks, -⟩ := hcells.of_mem cell hcell
      exact ⟨child, hchild, hlooks⟩
  | segment hall _ _ => exact hall.of_mem inner hinner

/-- What stands in a view at any depth is what something in its part looks like. -/
lemma Looks.within (h : Looks look part view) {inner : View α} (hinner : inner.Within view) :
    ∃ innerPart, Within innerPart part ∧ Looks look innerPart inner := by
  induction hinner generalizing part with
  | here => exact ⟨part, .here, h⟩
  | inside hchild _ ih =>
      obtain ⟨child, hmem, hlooks⟩ := h.of_mem_children hchild
      obtain ⟨innerPart, hwithin, hinner⟩ := ih hlooks
      exact ⟨innerPart, .inside hmem hwithin, hinner⟩

/-- The same of a list of parts. -/
lemma LooksAll.within (h : LooksAll look parts views) {inner : View α}
    (hinner : ∃ view ∈ views, inner.Within view) :
    ∃ part ∈ parts, ∃ innerPart, Within innerPart part ∧ Looks look innerPart inner := by
  obtain ⟨view, hview, hwithin⟩ := hinner
  obtain ⟨part, hpart, hlooks⟩ := h.of_mem view hview
  exact ⟨part, hpart, hlooks.within hwithin⟩

/-- What can be observed of the views that a layout is painted as. -/
structure Painted (look : String → Option α) (parts : List Layout) (views : List (View α)) :
    Prop where
  looks : LooksAll look parts views
  /-- The payloads in the order of the document are those of the fields in the layout for which
  there are any, each as often as its field is shown. -/
  payloads : View.payloadsOf views = (fieldIdsOf parts).filterMap look
  /-- Every container is there once, in its place, also if all that it holds is hidden. -/
  frames : View.framesOf views = framesOf parts
  /-- A grid, wherever it stands, is one of the layout, and its cells span what their parts claim,
  at least one column and at most as many as there are. -/
  grids : ∀ cols distance cells,
    (∃ view ∈ views, (View.grid cols distance cells).Within view) →
    ∃ part ∈ parts, ∃ span children, Within (.grid span cols distance children) part ∧
      ∀ cell ∈ cells, (∃ child ∈ children, Looks look child cell.2 ∧
        cell.1 = min child.span.1 cols.1) ∧ 1 ≤ cell.1 ∧ cell.1 ≤ cols.1
  /-- A section, wherever it stands, is one of the layout; it has a heading exactly if that one has
  a title that is not empty, and a line exactly if it has a heading and a line is asked for. -/
  segments : ∀ heading line collapsible children,
    (∃ view ∈ views, (View.segment heading line collapsible children).Within view) →
    ∃ part ∈ parts, ∃ span title subtitle divider hidden,
      Within (.segment span title subtitle divider collapsible hidden) part ∧
      (∀ text sub, heading = some (text, sub) ↔ title = some text ∧ text ≠ "" ∧ subtitle = sub) ∧
      (line = true ↔ heading ≠ none ∧ divider = true)

/-- All of that can be observed of what a layout looks like. -/
theorem LooksAll.painted (h : LooksAll look parts views) : Painted look parts views where
  looks := h
  payloads := h.payloadsOf_eq
  frames := h.framesOf_eq
  grids cols distance cells hinner := by
    obtain ⟨part, hpart, innerPart, hwithin, hlooks⟩ := h.within hinner
    cases hlooks with
    | grid hcells =>
        refine ⟨part, hpart, _, _, hwithin, fun cell hcell => ?_⟩
        obtain ⟨child, hchild, hlooks, hspan⟩ := hcells.of_mem cell hcell
        have hone : 1 ≤ min child.span.1 cols.1 := Nat.le_min.2 ⟨child.span.2, cols.2⟩
        exact ⟨⟨child, hchild, hlooks, hspan⟩, hspan ▸ hone, hspan ▸ Nat.min_le_right _ _⟩
  segments heading line collapsible children hinner := by
    obtain ⟨part, hpart, innerPart, hwithin, hlooks⟩ := h.within hinner
    cases hlooks with
    | segment _ hheading hline =>
        exact ⟨part, hpart, _, _, _, _, _, hwithin, hheading, hline⟩

end Layout

/-! ## Painting -/

/-- The painter of field cards. -/
def paintCard : Painter FieldCard := fun f d => some (FieldCard.of f d)

/-- What stands in the place of a field: what the painter makes of it, if it is visible. -/
def Draft.look (d : Draft) (painter : Painter α) (id : String) : Option α :=
  (d.form.field? id).bind fun f => if d.shows id then painter f d else none

/-- In the place of a field stands its card, if the field is visible. -/
lemma Draft.look_paintCard_eq_some {d : Draft} {id : String} {card : FieldCard} :
    d.look paintCard id = some card ↔
      ∃ f, d.form.field? id = some f ∧ d.shows id = true ∧ FieldCard.of f d = card := by
  unfold Draft.look paintCard
  cases d.form.field? id with
  | none => simp
  | some f => by_cases hshows : d.shows id = true <;> simp [hshows]

namespace Layout

variable {d : Draft} {painter : Painter α}

lemma headingOf_eq_some_iff {title subtitle sub : Option Text} {text : Text} :
    headingOf title subtitle = some (text, sub) ↔
      title = some text ∧ text ≠ "" ∧ subtitle = sub := by
  cases title with
  | none => simp [headingOf]
  | some t =>
      by_cases hempty : t = ""
      · simp only [headingOf, if_pos hempty, reduceCtorEq, false_iff]
        rintro ⟨htext, hne, -⟩
        exact hne (Option.some.inj htext ▸ hempty)
      · simp only [headingOf, if_neg hempty, Option.some.injEq, Prod.mk.injEq]
        exact ⟨fun ⟨ht, hsub⟩ => ⟨ht, ht ▸ hempty, hsub⟩, fun ⟨ht, _, hsub⟩ => ⟨ht, hsub⟩⟩

/-- The painting of a part that is declared: a view that it looks like, or none if it is blank. -/
def PaintsWell (d : Draft) (painter : Painter α) (part : Layout) : Prop :=
  (∃ view, paint d painter part = .ok (some view) ∧ Looks (d.look painter) part view) ∨
    (paint d painter part = .ok none ∧ Blank (d.look painter) part)

lemma paintField_eq {id : String} (h : ∃ f, d.form.field? id = some f) :
    paintField d painter id = .ok ((d.look painter id).map .field) := by
  obtain ⟨f, hf⟩ := h
  simp only [paintField, Draft.look, hf, Option.bind_some]
  split <;> rfl

mutual

/-- A part that shows declared fields only paints well. -/
theorem paint_looks : ∀ part : Layout,
    (∀ id ∈ part.fieldIds, ∃ f, d.form.field? id = some f) → PaintsWell d painter part
  | .field span id, hids => by
      have hpaint : paint d painter (.field span id) = _ :=
        paintField_eq (hids id (List.mem_singleton_self id))
      cases hlook : d.look painter id with
      | none => exact .inr ⟨by rw [hpaint, hlook]; rfl, span, id, rfl, hlook⟩
      | some p => exact .inl ⟨.field p, by rw [hpaint, hlook]; rfl, .field hlook⟩
  | .stack _ distance children, hids => by
      obtain ⟨views, hviews, hlooks⟩ := paintAll_looks children hids
      exact .inl ⟨.stack distance views, by rw [paint, hviews]; rfl, .stack hlooks⟩
  | .grid _ cols distance children, hids => by
      obtain ⟨cells, hcells, hlooks⟩ := paintCells_looks cols children hids
      exact .inl ⟨.grid cols distance cells, by rw [paint, hcells]; rfl, .grid hlooks⟩
  | .segment _ title subtitle divider collapsible children, hids => by
      obtain ⟨views, hviews, hlooks⟩ := paintAll_looks children hids
      refine .inl ⟨_, by rw [paint, hviews]; rfl,
        .segment hlooks (fun _ _ => headingOf_eq_some_iff) ?_⟩
      rw [Bool.and_eq_true, Option.isSome_iff_ne_none]

/-- The same of a list of parts. -/
theorem paintAll_looks : ∀ parts : List Layout,
    (∀ id ∈ fieldIdsOf parts, ∃ f, d.form.field? id = some f) →
      ∃ views, paintAll d painter parts = .ok views ∧ LooksAll (d.look painter) parts views
  | [], _ => ⟨[], rfl, .nil⟩
  | part :: parts, hids => by
      obtain ⟨hpart, hparts⟩ := List.forall_mem_append.1 hids
      obtain ⟨views, hviews, hlooks⟩ := paintAll_looks parts hparts
      rcases paint_looks part hpart with ⟨view, hview, hlook⟩ | ⟨hnone, hblank⟩
      · exact ⟨view :: views, by rw [paintAll, hview, hviews]; rfl, .keep hlook hlooks⟩
      · exact ⟨views, by rw [paintAll, hnone, hviews]; rfl, .drop hblank hlooks⟩

/-- The same of the cells of a grid. -/
theorem paintCells_looks (cols : Columns) : ∀ parts : List Layout,
    (∀ id ∈ fieldIdsOf parts, ∃ f, d.form.field? id = some f) →
      ∃ cells, paintCells d painter cols parts = .ok cells ∧
        LooksCells (d.look painter) cols parts cells
  | [], _ => ⟨[], rfl, .nil⟩
  | part :: parts, hids => by
      obtain ⟨hpart, hparts⟩ := List.forall_mem_append.1 hids
      obtain ⟨cells, hcells, hlooks⟩ := paintCells_looks cols parts hparts
      rcases paint_looks part hpart with ⟨view, hview, hlook⟩ | ⟨hnone, hblank⟩
      · exact ⟨_ :: cells, by rw [paintCells, hview, hcells]; rfl, .keep hlook hlooks⟩
      · exact ⟨cells, by rw [paintCells, hnone, hcells]; rfl, .drop hblank hlooks⟩

end

end Layout

namespace Draft

open Sitting

variable {form : Form} {receiver : Option Receiver} {s : Sitting}

/-- A draft whose layout shows declared fields only is painted as its layout looks. -/
lemma painted_of_showsDeclared {d : Draft} (h : d.form.ShowsDeclared) (painter : Painter α) :
    ∃ views, d.paintLayout painter = .ok views ∧
      Layout.Painted (d.look painter) d.form.layout views := by
  obtain ⟨views, hviews, hlooks⟩ := Layout.paintAll_looks d.form.layout h
  exact ⟨views, hviews, hlooks.painted⟩

/-- Whatever is done to a draft of a form that has been read, painting its layout succeeds, with
any painter, and comes to what the layout looks like. -/
theorem painted_of_reached (h : Reached form receiver s) (painter : Painter α) :
    ∃ views, s.draft.paintLayout painter = .ok views ∧
      Layout.Painted (s.draft.look painter) form.layout views := by
  obtain ⟨_, _, hread⟩ := h.read
  obtain rfl := h.coherent.form_eq
  exact painted_of_showsDeclared (Form.showsDeclared_of_read hread) painter

/-! ## A form with a hidden cell -/

/-- A form that asks for the language of a guide once one is wanted, both in a grid in a section
whose title is empty. -/
def tourDocument : Value := .map [
  (.text "id", .text "tour"),
  (.text "fields", .map [
    (.text "guide", .map [(.text "renderer", .text "checkbox")]),
    (.text "language", .map [
      (.text "renderer", .text "text"),
      (.text "rules", .map [(.text "required", .bool true)]),
      (.text "visibleWhen", .map [
        (.text "field", .text "guide"), (.text "op", .text "equals"),
        (.text "value", .bool true)])])]),
  (.text "layout", .list [.map [
    (.text "kind", .text "section"), (.text "title", .text ""),
    (.text "children", .list [.map [
      (.text "kind", .text "grid"),
      (.text "children", .list [
        .map [(.text "kind", .text "field"), (.text "colSpan", .int 3),
          (.text "fieldId", .text "guide")],
        .map [(.text "kind", .text "field"), (.text "fieldId", .text "language")]])]])]])]

/-- What the document declares. -/
def tour : Form where
  id := "tour"
  intro := {}
  fields := ⟨[
    ("guide", ⟨some "guide", "", .checkbox, none, none, none, .empty, none, none⟩),
    ("language", ⟨some "language", "", .text, none, none, none, .empty,
      some { required := .flag true }, some (.single ⟨"guide", "equals", .bool true⟩)⟩)],
    by decide⟩
  layout := [.segment Layout.oneColumn (some "") none true false [
    .grid Layout.oneColumn Layout.twoColumns .medium [
      .field ⟨3, by decide⟩ "guide", .field Layout.oneColumn "language"]]]

/-- The draft with which a tour begins. -/
def emptyTour : Draft where
  form := tour
  checklist := tour.checklist
  receiver := none
  values := ⟨[("guide", .bool false), ("language", .text "")], by decide⟩
  touched := []
  visibility := ⟨[("guide", true), ("language", false)], by decide⟩
  errors := .empty
  attempted := false
  submissions := 0

lemma read_tourDocument : Form.read tourDocument = .accepted tour := rfl

lemma mount_tour : (mount tripDay tour none).result = .ok emptyTour := rfl

/-- The painter that shows nothing but the names of fields. -/
def paintName : Painter Text := fun f _ => f.id

theorem painted_of_emptyTour :
    ∃ views, emptyTour.paintLayout paintName = .ok views ∧
      Layout.Painted (emptyTour.look paintName) tour.layout views ∧
      View.payloadsOf views = ["guide"] ∧
      View.framesOf views = [.segment false [.grid Layout.twoColumns .medium []]] := by
  have reached : Reached tour none ⟨emptyTour, tripDay⟩ := .mounted read_tourDocument mount_tour
  obtain ⟨views, hviews, hpainted⟩ := painted_of_reached reached paintName
  exact ⟨views, hviews, hpainted, hpainted.payloads, hpainted.frames⟩

end Draft

end FormEngine
