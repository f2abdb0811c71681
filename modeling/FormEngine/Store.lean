import FormEngine.Number.Basic
import FormEngine.Draft

/-!
# Stores of sessions

A session is a draft under a text id, dropped after a time without access.  A session has expired
once more time than the timeout has passed since its last access; it may still lie in the store, but
nobody gets it any more.  Mounting a form removes all expired sessions first, and then replaces only
what lies under its own id.

Times are the readings of a clock.  `Clock` says when one is later than another by more than a
number of seconds: exactly for rational readings, and with the rounding of binary64 subtraction for
binary64 ones.
-/

namespace FormEngine

/-- Readings of a clock that can be compared. -/
class Clock (τ : Type) where
  /-- Whether more than so many seconds have passed from one reading to a later one. -/
  exceeds (now earlier : τ) (seconds : Number) : Bool

/-- The time that has passed is a binary64 difference. -/
instance : Clock Double where
  exceeds now earlier seconds := Number.lt seconds (.float (now.sub earlier))

/-- The time that has passed is exact; not-a-number of seconds is never exceeded. -/
instance : Clock Rat where
  exceeds now earlier seconds := seconds.extent?.any fun e => e.lt (.at (now - earlier))

/-- A draft in a store.  The serial number tells apart sessions that have had the same id. -/
structure Session (τ : Type) where
  serial : Nat
  draft : Draft
  created : τ
  accessed : τ
deriving Inhabited

namespace Session

variable {τ : Type} [Clock τ]

/-- Whether a session has been left alone for longer than a timeout. -/
def hasExpired (s : Session τ) (now : τ) (timeout : Number) : Bool :=
  Clock.exceeds now s.accessed timeout

/-- Marks a session as accessed. -/
def touch (s : Session τ) (now : τ) : Session τ := { s with accessed := now }

end Session

/-- Seconds without access after which a session expires, unless a store says otherwise. -/
def defaultTimeout : Number := .int 1800

/-- Sessions under their ids in the order of arrival. -/
structure Store (τ : Type) where
  timeout : Number := defaultTimeout
  sessions : Mapping (Session τ) := .empty
  /-- How many sessions have been mounted. -/
  mounted : Nat := 0

namespace Store

variable {τ : Type} [Clock τ]

/-- The ids in order. -/
def ids (st : Store τ) : List Text := st.sessions.keys

/-- The number of sessions. -/
def size (st : Store τ) : Nat := st.sessions.size

/-- Removes the expired sessions and says how many there were. -/
def dropExpired (st : Store τ) (now : τ) : Nat × Store τ :=
  let live := st.sessions.filter fun _ s => !s.hasExpired now st.timeout
  (st.sessions.size - live.size, { st with sessions := live })

/-- A line of the log. -/
def note (message : Text) : Traced Unit := Traced.log .info .store message

/-- Removes the expired sessions and says so in the log if there were any. -/
def sweep (st : Store τ) (now : τ) : Traced (Store τ) := do
  let (removed, st) := st.dropExpired now
  if removed ≠ 0 then
    note ("Removed " ++ toString removed ++ " expired session(s)")
  return st

/-- Mounts a form under an id, given its checklist: expired sessions go first, then a new session
is started and takes the place of the one under the id.  If the session cannot be started, only the
expired ones are gone. -/
def mount (st : Store τ) (today : Date) (now : τ) (id : Text) (form : Form)
    (compiled : Traced Checklist) : Traced (Session τ) × Store τ :=
  let swept := st.sweep now
  let live := (st.dropExpired now).2
  let mounted : Traced (Session τ) := do
    let _ ← swept
    let checklist ← compiled
    let draft ← Draft.start today form checklist none
    note ("Mounted form '" ++ form.id ++ "' as session " ++ id)
    return ⟨live.mounted, draft, now, now⟩
  match mounted.result with
  | .error _ => (mounted, live)
  | .ok s =>
    (mounted, { live with sessions := live.sessions.set id s, mounted := live.mounted + 1 })

/-- The session under an id, marked as accessed; an expired one is removed instead. -/
def access (st : Store τ) (now : τ) (id : Text) : Traced (Option (Session τ)) × Store τ :=
  match st.sessions.get? id with
  | none => (pure none, st)
  | some s =>
    if s.hasExpired now st.timeout then
      let expired := do
        note ("Session " ++ id ++ " expired")
        return none
      (expired, { st with sessions := st.sessions.erase id })
    else
      let s := s.touch now
      (pure (some s), { st with sessions := st.sessions.set id s })

/-- Removes the session under an id, and says whether there was one. -/
def remove (st : Store τ) (id : Text) : Bool × Store τ :=
  (st.sessions.contains id, { st with sessions := st.sessions.erase id })

/-- Puts a session that has changed back under its id, unless another has taken its place. -/
def update (st : Store τ) (id : Text) (s : Session τ) : Store τ :=
  match st.sessions.get? id with
  | none => st
  | some stored =>
    if stored.serial = s.serial then { st with sessions := st.sessions.set id s } else st

end Store

end FormEngine
