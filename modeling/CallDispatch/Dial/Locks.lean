/-!
# One dial at a time

Callers that want the same uri dialed share a lock, and only the caller that holds the lock dials. A
lock comes into being with the first caller for its uri and is forgotten by a caller that leaves
when no other one shares it. A caller may also be cancelled at any time; then it forgets nothing.
-/

namespace CallDispatch

/-- What a caller is doing. -/
inductive CallerPhase
  /-- Waiting for its lock. -/
  | waiting
  /-- Holding its lock. -/
  | holding
  /-- Past its lock, with the result. -/
  | leaving
deriving DecidableEq

/-- Someone who wants a uri dialed. -/
structure Caller where
  uri : String
  /-- The number of the lock it shares. -/
  lock : Nat
  phase : CallerPhase
deriving DecidableEq

/-- The locks in use and the callers at them, by the numbers of both. -/
structure Locks where
  locks : List (String × Nat) := []
  callers : List (Nat × Caller) := []
  nextLock : Nat := 0
deriving DecidableEq

namespace Locks

/-- How many uris have a lock. -/
def size (locks : Locks) : Nat :=
  locks.locks.length

/-- How many callers share a lock. -/
def sharers (locks : Locks) (lock : Nat) : Nat :=
  locks.callers.countP fun (_, caller) => caller.lock == lock

/-- Whether a caller holds the lock. -/
def isHeld (locks : Locks) (lock : Nat) : Bool :=
  locks.callers.any fun (_, caller) => caller.lock == lock && caller.phase == .holding

/-- Lets a new caller wait at the lock for its uri, which is made if there is none. -/
def enter (locks : Locks) (caller : Nat) (uri : String) : Locks :=
  match locks.locks.lookup uri with
  | some lock => { locks with callers := (caller, ⟨uri, lock, .waiting⟩) :: locks.callers }
  | none =>
    { locks := (uri, locks.nextLock) :: locks.locks
      callers := (caller, ⟨uri, locks.nextLock, .waiting⟩) :: locks.callers
      nextLock := locks.nextLock + 1 }

/-- Moves a caller on. -/
def move (locks : Locks) (caller : Nat) (phase : CallerPhase) : Locks :=
  { locks with callers := locks.callers.map fun (other, state) =>
      (other, if other = caller then { state with phase } else state) }

/-- Lets a caller that waits take its lock, if nobody holds it. -/
def acquire (locks : Locks) (caller : Nat) : Locks × Bool :=
  match locks.callers.lookup caller with
  | some state =>
    if state.phase = .waiting ∧ ¬ locks.isHeld state.lock then (locks.move caller .holding, true)
    else (locks, false)
  | none => (locks, false)

/-- Lets a caller give its lock free. -/
def release (locks : Locks) (caller : Nat) : Locks :=
  locks.move caller .leaving

/-- Forgets the lock of a uri if at most one caller shares it. -/
def tidy (locks : Locks) (uri : String) : Locks :=
  match locks.locks.lookup uri with
  | some lock =>
    if locks.sharers lock ≤ 1 then { locks with locks := locks.locks.filter (·.1 ≠ uri) } else locks
  | none => locks

/-- Forgets a caller, whatever it was doing. -/
def cancel (locks : Locks) (caller : Nat) : Locks :=
  { locks with callers := locks.callers.filter (·.1 ≠ caller) }

/-- Lets a caller that is past its lock go. -/
def leave (locks : Locks) (caller : Nat) : Locks :=
  match locks.callers.lookup caller with
  | some state => (locks.tidy state.uri).cancel caller
  | none => locks

end Locks

end CallDispatch
