import Mathlib.Data.List.Basic
import FormEngine.Form.Reader

/-!
# Readings that conclude

The reading of a part of a document declares something, or tells problems, or ends with a fault.
That nothing else happens is `Checked.Concludes`: something is declared, or at least one problem is
told, or the fault is an allowed one.  The property is closed under all ways to combine readings,
and the readings of those parts of a form that hold no pattern conclude whatever is allowed, even
if nothing is.

`Checked.fault?` is the fault of a reading; of combined readings it is the first fault in order.
-/

namespace FormEngine

variable {α β : Type} {allowed : ReadFault → Prop}

/-! ## How readings end -/

namespace Checked

/-- A reading declares something, or tells at least one problem, or ends with an allowed fault. -/
def Concludes (allowed : ReadFault → Prop) : Checked α → Prop
  | .accepted _ => True
  | .rejected problems => problems ≠ []
  | .stopped fault => allowed fault

/-- The fault that ends a reading. -/
def fault? : Checked α → Option ReadFault
  | .stopped fault => some fault
  | _ => none

lemma fault?_eq_some {c : Checked α} {fault : ReadFault} :
    c.fault? = some fault ↔ c = .stopped fault := by
  cases c <;> simp [fault?]

/-- A reading that may end with no fault has none. -/
lemma Concludes.fault?_eq_none {c : Checked α} (h : c.Concludes fun _ => False) :
    c.fault? = none := by
  cases c with
  | accepted a => rfl
  | rejected problems => rfl
  | stopped fault => exact h.elim

lemma concludes_accepted (a : α) : (accepted a).Concludes allowed := trivial

lemma concludes_problem (cause : Cause) : (problem cause : Checked α).Concludes allowed :=
  List.cons_ne_nil _ _

/-- An objection is told, or its sentence cannot be encoded, which has to be allowed. -/
lemma concludes_objected {o : Objection}
    (h : o.sentence.isPlain = false → allowed (.unencodable o.sentence)) :
    (objected o : Checked α).Concludes allowed := by
  unfold objected
  split
  next => exact concludes_problem _
  next hraw => exact h (Bool.eq_false_iff.2 hraw)

/-- The problem of a failed test concludes. -/
lemma concludes_ite {p : Prop} [Decidable p] {c d : Checked α} (hc : c.Concludes allowed)
    (hd : d.Concludes allowed) : (if p then c else d).Concludes allowed := by
  split
  · exact hc
  · exact hd

lemma Concludes.map {c : Checked α} (f : α → β) (h : c.Concludes allowed) :
    (f <$> c).Concludes allowed := by
  cases c <;> exact h

lemma Concludes.seq {f : Checked (α → β)} {c : Checked α} (hf : f.Concludes allowed)
    (hc : c.Concludes allowed) : (f <*> c).Concludes allowed := by
  show (apply f c).Concludes allowed
  cases f with
  | stopped fault => exact hf
  | accepted g => cases c <;> exact hc
  | rejected problems =>
      cases c with
      | stopped fault => exact hc
      | accepted a => exact hf
      | rejected others => exact fun h => hf (List.append_eq_nil_iff.1 h).1

lemma Concludes.within {c : Checked α} (step : Step) (h : c.Concludes allowed) :
    (c.within step).Concludes allowed := by
  cases c with
  | accepted a => trivial
  | rejected problems => exact fun hnil => h (List.map_eq_nil_iff.1 hnil)
  | stopped fault => exact h

lemma Concludes.bind {c : Checked α} {f : α → Checked β} (hc : c.Concludes allowed)
    (hf : ∀ a, (f a).Concludes allowed) : (c.bind f).Concludes allowed := by
  cases c with
  | accepted a => exact hf a
  | rejected problems => exact hc
  | stopped fault => exact hc

@[simp] lemma fault?_map (f : α → β) (c : Checked α) : (f <$> c).fault? = c.fault? := by
  cases c <;> rfl

@[simp] lemma fault?_seq (f : Checked (α → β)) (c : Checked α) :
    (f <*> c).fault? = f.fault?.or c.fault? := by
  show (apply f c).fault? = _
  cases f <;> cases c <;> rfl

@[simp] lemma fault?_within (step : Step) (c : Checked α) : (c.within step).fault? = c.fault? := by
  cases c <;> rfl

/-- What depends on a reading and never ends with a fault adds none. -/
lemma fault?_bind {c : Checked α} {f : α → Checked β}
    (hf : ∀ a, (f a).Concludes fun _ => False) : (c.bind f).fault? = c.fault? := by
  cases c with
  | accepted a => exact (hf a).fault?_eq_none
  | rejected problems => rfl
  | stopped fault => rfl

end Checked

open Checked

/-! ## Scalars conclude -/

namespace Scalar

lemma concludes_readString (v : Value) : (readString v).Concludes allowed := by
  unfold readString
  split
  · trivial
  · exact concludes_problem _
  · exact concludes_problem _

lemma concludes_readText (v : Value) : (readText v).Concludes allowed := by
  unfold readText
  split
  · trivial
  · exact (concludes_readString v).map _

lemma concludes_readName (v : Value) : (readName v).Concludes allowed :=
  (concludes_readString v).bind fun _ => concludes_ite (concludes_problem _) trivial

lemma concludes_orNull {read : Value → Checked α} (h : ∀ v, (read v).Concludes allowed)
    (v : Value) : (Scalar.orNull read v).Concludes allowed := by
  unfold orNull
  split
  · trivial
  · exact (h _).map some

lemma concludes_readEnum (ofName? : String → Option α) (names : List String) (v : Value) :
    (readEnum ofName? names v).Concludes allowed := by
  unfold readEnum
  split
  · split
    · trivial
    · exact concludes_problem _
  · split <;> exact concludes_problem _
  · exact concludes_problem _

lemma concludes_integerOfDouble (x : Double) : (integerOfDouble x).Concludes allowed := by
  unfold integerOfDouble
  split
  · exact concludes_problem _
  · exact concludes_ite (concludes_problem _) (concludes_ite trivial (concludes_problem _))

lemma concludes_readInteger (v : Value) : (readInteger v).Concludes allowed := by
  unfold readInteger
  split
  · trivial
  · trivial
  · exact concludes_integerOfDouble _
  · split
    · exact concludes_problem _
    · exact concludes_problem _
    · refine concludes_ite (concludes_problem _) ?_
      split
      · trivial
      · exact concludes_problem _

lemma concludes_readCount (v : Value) : (readCount v).Concludes allowed :=
  (concludes_readInteger v).bind fun _ => concludes_ite trivial (concludes_problem _)

lemma concludes_readColumns (v : Value) : (readColumns v).Concludes allowed := by
  refine (concludes_readInteger v).bind fun i => ?_
  split
  · trivial
  · exact concludes_problem _

lemma concludes_doubleOfInteger (i : Int) : (doubleOfInteger i).Concludes allowed :=
  concludes_ite trivial (concludes_problem _)

lemma concludes_readDouble (v : Value) : (readDouble v).Concludes allowed := by
  unfold readDouble
  split
  · exact concludes_doubleOfInteger _
  · exact concludes_doubleOfInteger _
  · trivial
  · split
    · exact concludes_problem _
    · exact concludes_problem _
    · split
      · trivial
      · exact concludes_problem _

lemma concludes_booleanOfInteger (i : Int) : (booleanOfInteger i).Concludes allowed :=
  concludes_ite trivial (concludes_ite trivial (concludes_problem _))

lemma concludes_readBoolean (v : Value) : (readBoolean v).Concludes allowed := by
  unfold readBoolean
  split
  · trivial
  · exact concludes_ite (concludes_booleanOfInteger _) (concludes_problem _)
  · split
    · exact concludes_booleanOfInteger _
    · exact concludes_problem _
  · split
    · exact concludes_problem _
    · exact concludes_problem _
    · split
      · trivial
      · exact concludes_problem _

end Scalar

open Scalar

/-! ## Members, lists and mappings -/

section

variable {read : Value → Checked α} {es : Members} {spelling other : String}

lemma Members.find?_self : es.find? spelling spelling =
    (Value.lookupText spelling es).map fun v => (spelling, v) := by
  unfold Members.find?
  cases Value.lookupText spelling es <;> rfl

lemma Members.concludes_need (h : ∀ v, (read v).Concludes allowed) :
    (es.need spelling other read).Concludes allowed := by
  unfold Members.need
  split
  · exact (h _).within _
  · exact (concludes_problem _).within _

lemma Members.concludes_take {default : α} (h : ∀ v, (read v).Concludes allowed) :
    (es.take spelling other default read).Concludes allowed := by
  unfold Members.take
  split
  · exact (h _).within _
  · trivial

/-- A member under one spelling ends with the fault of its value. -/
lemma Members.fault?_need : (es.need spelling spelling read).fault? =
    (Value.lookupText spelling es).bind fun v => (read v).fault? := by
  rw [Members.need, Members.find?_self]
  cases Value.lookupText spelling es with
  | none => rfl
  | some v => exact fault?_within _ _

lemma Members.fault?_take {default : α} : (es.take spelling spelling default read).fault? =
    (Value.lookupText spelling es).bind fun v => (read v).fault? := by
  rw [Members.take, Members.find?_self]
  cases Value.lookupText spelling es with
  | none => rfl
  | some v => exact fault?_within _ _

lemma concludes_readPart {name : String} {read : Members → Checked α}
    (h : ∀ es, (read es).Concludes allowed) (v : Value) :
    (readPart name read v).Concludes allowed := by
  unfold readPart
  split
  · exact h _
  · exact concludes_problem _

lemma concludes_readItems (h : ∀ v, (read v).Concludes allowed) (i : Nat) (items : List Value) :
    (readItems read i items).Concludes allowed := by
  induction items generalizing i with
  | nil => trivial
  | cons v vs ih => exact (((h v).within _).map _).seq (ih _)

lemma concludes_readList (h : ∀ v, (read v).Concludes allowed) (v : Value) :
    (readList read v).Concludes allowed := by
  unfold readList
  split
  · exact concludes_readItems h 0 _
  · exact concludes_problem _

lemma concludes_readEntries (h : ∀ v, (read v).Concludes allowed) (es : Members) :
    (readEntries read es).Concludes allowed := by
  induction es with
  | nil => trivial
  | cons e es ih =>
      have hkey := ((@concludes_readText allowed e.1).within (.name "[key]")).within
        (stepTo e.1)
      exact (((hkey.map _).seq ((h e.2).within _)).map _).seq ih

lemma concludes_readMapping (h : ∀ v, (read v).Concludes allowed) (v : Value) :
    (readMapping read v).Concludes allowed := by
  unfold readMapping
  split
  · exact (concludes_readEntries h _).map _
  · exact concludes_problem _

/-- The entries of a mapping end with the first fault of their values. -/
lemma fault?_readEntries : (readEntries read es).fault? =
    es.findSome? fun e => (read e.2).fault? := by
  induction es with
  | nil => rfl
  | cons e es ih =>
      have hkey : (readText e.1).fault? = none := (concludes_readText e.1).fault?_eq_none
      simp only [readEntries, fault?_seq, fault?_map, fault?_within, hkey, Option.none_or, ih,
        List.findSome?_cons]
      cases (read e.2).fault? <;> rfl

end

/-! ## Parts without patterns conclude -/

lemma concludes_readMessage (es : Members) : (readMessage es).Concludes allowed :=
  Members.concludes_take (concludes_orNull concludes_readText)

lemma Rule.concludes_read {name : String} {readDemand : Value → Checked α}
    (h : ∀ v, (readDemand v).Concludes allowed) (v : Value) :
    (Rule.read name readDemand v).Concludes allowed :=
  concludes_readPart
    (fun es => ((Members.concludes_need h).map _).seq (concludes_readMessage es)) v

lemma Requirement.concludes_read (v : Value) : (Requirement.read v).Concludes allowed := by
  unfold Requirement.read
  split
  · trivial
  · split
    · trivial
    · trivial
    · exact (((concludes_readBoolean _).within _).map _).seq ((concludes_readText _).within _)

lemma Predicate.concludes_read (v : Value) (host : Predicate.Host) :
    (Predicate.read v host).Concludes allowed := by
  unfold Predicate.read
  split
  · trivial
  · exact concludes_problem _

lemma Condition.concludes_read (v : Value) : (Condition.read v).Concludes allowed := by
  unfold Condition.read
  split
  · exact concludes_problem _
  · exact (((Members.concludes_need concludes_readName).map _).seq
      (Members.concludes_need concludes_readText)).seq (Members.concludes_take concludes_accepted)

lemma VisibilityRule.concludes_read (v : Value) :
    (VisibilityRule.read v).Concludes allowed := by
  have hone := @Condition.concludes_read allowed v
  have hall := concludes_readList (@Condition.concludes_read allowed) v
  unfold VisibilityRule.read
  split
  · trivial
  · trivial
  · exact ((hone.within _).map _).seq (hall.within _)

lemma Intro.concludes_read (v : Value) : (Intro.read v).Concludes allowed := by
  have htext := concludes_orNull (@concludes_readText allowed)
  refine concludes_readPart (fun es => ?_) v
  exact (((Members.concludes_take concludes_readText).map _).seq
    (Members.concludes_take htext)).seq (Members.concludes_take htext)

namespace Layout

lemma concludes_readOfKind (kind : Kind) (es : Members) {children : Checked (List Layout)}
    (h : children.Concludes allowed) : (readOfKind kind es children).Concludes allowed := by
  have hspan : (readSpan es).Concludes allowed := Members.concludes_take concludes_readColumns
  have hkind : (readKind kind es).Concludes allowed := by
    refine Members.concludes_take fun v => ?_
    split
    · exact concludes_problem _
    · exact concludes_ite trivial (concludes_problem _)
  have hdistance : (readDistance es).Concludes allowed :=
    Members.concludes_take (concludes_readEnum _ _)
  have htext := concludes_orNull (@concludes_readText allowed)
  cases kind with
  | field => exact ((hspan.map _).seq hkind).seq (Members.concludes_need concludes_readName)
  | stack => exact (((hspan.map _).seq hkind).seq hdistance).seq h
  | grid =>
      exact ((((hspan.map _).seq hkind).seq (Members.concludes_take concludes_readColumns)).seq
        hdistance).seq h
  | segment =>
      refine (Concludes.seq ?_ (Members.concludes_take concludes_readBoolean)).seq h
      refine (Concludes.seq ?_ (Members.concludes_take htext)).seq
        (Members.concludes_take concludes_readBoolean)
      exact ((hspan.map _).seq hkind).seq (Members.concludes_take htext)

mutual

/-- Whatever a part of a layout is like, its reading concludes. -/
theorem concludes_read : ∀ v : Value, (Layout.read v).Concludes allowed
  | .map es => by
      unfold Layout.read
      split
      · exact concludes_problem _
      · split
        · exact concludes_problem _
        · exact (concludes_readOfKind _ es (concludes_readChildren es)).within _
  | .null | .bool _ | .int _ | .float _ | .text _ | .bytes _ | .list _ | .tuple _
  | .set _ | .date _ | .dateTime _ | .prepared .. => by
      unfold Layout.read
      exact concludes_problem _

/-- The same of its children. -/
theorem concludes_readChildren : ∀ es : Members, (readChildren es).Concludes allowed
  | [] => trivial
  | (key, v) :: es => by
      unfold readChildren
      exact concludes_ite ((concludes_readAll v).within _) (concludes_readChildren es)

/-- The same of a list of parts. -/
theorem concludes_readAll : ∀ v : Value, (readAll v).Concludes allowed
  | .list items | .tuple items | .set items => concludes_readNumbered 0 items
  | .null | .bool _ | .int _ | .float _ | .text _ | .bytes _ | .map _ | .date _
  | .dateTime _ | .prepared .. => concludes_problem _

/-- The same of numbered parts. -/
theorem concludes_readNumbered :
    ∀ (i : Nat) (items : List Value), (readNumbered i items).Concludes allowed
  | _, [] => trivial
  | i, v :: vs => (((concludes_read v).within _).map _).seq (concludes_readNumbered (i + 1) vs)

end

end Layout

/-! ## Parts with patterns -/

section

variable {host : Predicate.Host}

lemma concludes_readPatternSource (h : ∀ fault, allowed fault) (v : Value) :
    (readPatternSource v).Concludes allowed := by
  refine (concludes_readText v).bind fun source => ?_
  split
  · trivial
  · exact concludes_objected fun _ => h _
  · exact concludes_objected fun _ => h _
  · exact h _

lemma Rules.concludes_read (h : ∀ fault, allowed fault) (v : Value) :
    (Rules.read v host).Concludes allowed := by
  have hlength : ∀ v, (Scalar.orNull Rule.readLength v).Concludes allowed :=
    concludes_orNull (Rule.concludes_read concludes_readCount)
  have hbound : ∀ v, (Scalar.orNull Rule.readBound v).Concludes allowed :=
    concludes_orNull (Rule.concludes_read concludes_readDouble)
  have hpattern : ∀ v, (Scalar.orNull Rule.readPattern v).Concludes allowed :=
    concludes_orNull (Rule.concludes_read (concludes_readPatternSource h))
  have hpredicate : ∀ v, (Scalar.orNull (Predicate.read · host) v).Concludes allowed :=
    concludes_orNull (Predicate.concludes_read · host)
  refine concludes_readPart (fun es => ?_) v
  refine Concludes.seq (Concludes.seq ?_ (Members.concludes_take hpattern))
    (Members.concludes_take hpredicate)
  refine Concludes.seq (Concludes.seq ?_ (Members.concludes_take hbound))
    (Members.concludes_take hbound)
  exact (((Members.concludes_take Requirement.concludes_read).map _).seq
    (Members.concludes_take hlength)).seq (Members.concludes_take hlength)

lemma Field.concludes_read (h : ∀ fault, allowed fault) (v : Value) :
    (Field.read v host).Concludes allowed := by
  have htext := concludes_orNull (@concludes_readText allowed)
  have hrules : ∀ v, (Scalar.orNull (Rules.read · host) v).Concludes allowed :=
    concludes_orNull (Rules.concludes_read h)
  have hvisible := concludes_orNull (@VisibilityRule.concludes_read allowed)
  unfold Field.read
  split
  · exact concludes_problem _
  · refine Concludes.seq (Concludes.seq ?_ (Members.concludes_take hrules))
      (Members.concludes_take hvisible)
    refine Concludes.seq (Concludes.seq ?_ (Members.concludes_take fun v =>
      concludes_accepted (some v))) (Members.concludes_take (concludes_readMapping
        concludes_accepted))
    refine Concludes.seq (Concludes.seq ?_ (Members.concludes_take htext))
      (Members.concludes_take htext)
    exact (((Members.concludes_take htext).map _).seq
      (Members.concludes_take concludes_readText)).seq
      (Members.concludes_need (concludes_readEnum _ _))

end

end FormEngine
