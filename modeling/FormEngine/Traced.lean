import FormEngine.Fault

/-!
# Results with what happened on the way

An operation on a form answers or ends with a fault; on the way it may write to the log, ask a
predicate, or hand over submitted data.  `Traced` keeps these events in order beside the result, so
that they can be stated and proved like any other value.
-/

namespace FormEngine

/-- How much a line of the log matters. -/
inductive Level where
  | debug
  | info
  | warning
deriving DecidableEq, Repr

/-- The part of the library that writes a line. -/
inductive Source where
  | checklist
  | visibility
  | draft
  | store
  | document
  | service
deriving DecidableEq, Repr

/-- A line of the log. -/
structure LogLine where
  level : Level
  source : Source
  message : Text
deriving DecidableEq, Repr

/-- Something that happens during an operation. -/
inductive Event where
  | logged (line : LogLine)
  /-- The predicate of a field is asked about a value and all values. -/
  | asked (field : Text) (value : Value) (values : Mapping Value)
  /-- Submitted data is handed to the receiver of the draft, or to the one of the call. -/
  | submitted (ownReceiver : Bool) (data : Mapping Value)

/-- A result, or a fault, and what happened on the way. -/
structure Traced (α : Type) where
  events : List Event
  result : Except Fault α

namespace Traced

variable {α β : Type}

/-- An answer without events. -/
def answer (a : α) : Traced α := ⟨[], .ok a⟩

/-- A fault without events. -/
def fault (f : Fault) : Traced α := ⟨[], .error f⟩

/-- A result without events. -/
def ofExcept (r : Except Fault α) : Traced α := ⟨[], r⟩

/-- One event. -/
def event (e : Event) : Traced Unit := ⟨[e], .ok ()⟩

/-- A line of the log. -/
def log (level : Level) (source : Source) (message : Text) : Traced Unit :=
  event (.logged ⟨level, source, message⟩)

/-- One operation after the other; a fault ends them. -/
def bind (t : Traced α) (f : α → Traced β) : Traced β :=
  match t.result with
  | .error fault => ⟨t.events, .error fault⟩
  | .ok a => ⟨t.events ++ (f a).events, (f a).result⟩

instance : Inhabited (Traced α) := ⟨⟨[], .error .fractionLost⟩⟩

instance : Monad Traced where
  pure := answer
  bind := bind

@[simp] theorem pure_events (a : α) : (pure a : Traced α).events = [] := rfl

@[simp] theorem pure_result (a : α) : (pure a : Traced α).result = .ok a := rfl

/-- What happens during two operations, if the first has an answer. -/
theorem events_bind_of_ok {t : Traced α} {a : α} (h : t.result = .ok a) (f : α → Traced β) :
    (t >>= f).events = t.events ++ (f a).events := by
  show (bind t f).events = _
  rw [bind, h]

/-- A fault keeps the second operation from happening. -/
theorem events_bind_of_error {t : Traced α} {fault : Fault} (h : t.result = .error fault)
    (f : α → Traced β) : (t >>= f).events = t.events := by
  show (bind t f).events = _
  rw [bind, h]

@[simp] theorem bind_result_eq_ok {t : Traced α} {f : α → Traced β} {b : β} :
    (t >>= f).result = .ok b ↔ ∃ a, t.result = .ok a ∧ (f a).result = .ok b := by
  show (bind t f).result = _ ↔ _
  unfold bind
  cases h : t.result <;> simp

theorem bind_result_eq_error {t : Traced α} {f : α → Traced β} {fault : Fault} :
    (t >>= f).result = .error fault ↔
      t.result = .error fault ∨ ∃ a, t.result = .ok a ∧ (f a).result = .error fault := by
  show (bind t f).result = _ ↔ _
  unfold bind
  cases h : t.result <;> simp

end Traced

end FormEngine
