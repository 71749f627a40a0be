import CallDispatch.Proofs.Registry.Changes

/-!
# Runs of the registry

A registry changes only by its operations and by the operations on the reservations it hands out.
`Op` lists them, each with whatever arguments a caller may give it, and `run` lets any sequence of
them happen. What holds of an empty registry and is kept by the elementary operations holds after
every run (`Kept.run`); what draining and closing keep is kept by every operation that does no more
than that (`Closing.after`), a sweep of many connections included, and what ending a call keeps as
well is kept by those that settle reservations (`Waning.after`).
-/

namespace CallDispatch

namespace Registry

/-- An operation of a registry, or of a reservation made by it. -/
inductive Op
  | add (entry : Entry)
  | remove (id : EntryId)
  | beginDrain (now : Nat) (id : EntryId)
  | subscribe (id : EntryId) (method : String)
  | reserve (selector : Selector) (method : Option String) (excluded : List EntryId)
  | reserveEntry (id : EntryId)
  /-- Keeping a reserved call counted, which leaves the registry alone. -/
  | commit (reservation : Reservation)
  | rollBack (reservation : Reservation)
  | abandonDead (now : Nat) (reservation : Reservation)
  | release (id : EntryId)
  | prune (now : Nat) (isAlive : Handle → Bool)
  | expire (now timeout : Nat)
  | clear

/-- The registry after an operation. -/
def after (registry : Registry) : Op → Registry
  | .add entry => (registry.add entry).1
  | .remove id => (registry.remove id).1
  | .beginDrain now id => (registry.beginDrain now id).1
  | .subscribe id method => (registry.subscribe id method).1
  | .reserve selector method excluded => (registry.reserve selector method excluded).1
  | .reserveEntry id => (registry.reserveEntry id).1
  | .commit _ => registry
  | .rollBack reservation => registry.rollBack reservation
  | .abandonDead now reservation => registry.abandonDead now reservation
  | .release id => (registry.release id).1
  | .prune now isAlive => (registry.prune now isAlive).1
  | .expire now timeout => (registry.expire now timeout).1
  | .clear => registry.clear.1

/-- The registry after an operation, if one is made. -/
def afterAny (registry : Registry) : Option Op → Registry
  | none => registry
  | some op => registry.after op

/-- The registry after a sequence of operations. -/
def run (registry : Registry) (ops : List Op) : Registry :=
  ops.foldl after registry

@[simp] lemma run_nil (registry : Registry) : registry.run [] = registry := rfl

@[simp] lemma run_cons (registry : Registry) (op : Op) (ops : List Op) :
    registry.run (op :: ops) = (registry.after op).run ops := rfl

/-- The reservation that an operation makes, if it makes one. -/
def reserved? (registry : Registry) : Op → Option Reservation
  | .reserve selector method excluded => (registry.reserve selector method excluded).2
  | .reserveEntry id => (registry.reserveEntry id).2
  | _ => none

/-- The id that an operation registers, if it registers one. -/
def added? (registry : Registry) : Op → Option EntryId
  | .add entry =>
    match (registry.add entry).2 with
    | .ok handle => some handle.id
    | .error _ => none
  | _ => none

/-- The connection on which an operation ends a call. -/
def Op.released? : Op → Option EntryId
  | .rollBack reservation | .abandonDead _ reservation => some reservation.handle.id
  | .release id => some id
  | _ => none

/-! ## Draining and closing -/

/-- Whether an operation does no more than drain and close. -/
def Op.closes : Op → Bool
  | .remove _ | .beginDrain .. | .commit _ | .prune .. | .expire .. | .clear => true
  | _ => false

/-- A property that is kept when a connection drains or closes. -/
structure Closing (P : Registry → Prop) : Prop where
  close : ∀ {registry} id, P registry → P (registry.close id).1
  beginDrain : ∀ {registry} now id, P registry → P (registry.beginDrain now id).1

namespace Closing

variable {P : Registry → Prop} {registry : Registry}

/-- Closing connections one after another. -/
lemma closeAll (h : Closing P) (ids : List EntryId) (hP : P registry) :
    P (registry.closeAll ids).1 := by
  induction ids generalizing registry with
  | nil => exact hP
  | cons id rest ih => exact ih (h.close id hP)

/-- Draining connections one after another. -/
lemma drainAll (h : Closing P) (now : Nat) (ids : List EntryId) (hP : P registry) :
    P (registry.drainAll now ids) := by
  induction ids generalizing registry with
  | nil => exact hP
  | cons id rest ih => exact ih (h.beginDrain now id hP)

/-- The property is kept by every operation that drains and closes. -/
lemma after (h : Closing P) {op : Op} (hop : op.closes = true) (hP : P registry) :
    P (registry.after op) := by
  cases op with
  | remove id => exact h.close id hP
  | beginDrain now id => exact h.beginDrain now id hP
  | commit => exact hP
  | prune now isAlive => exact h.drainAll now _ hP
  | expire now timeout => exact h.closeAll _ hP
  | clear => exact h.closeAll _ hP
  | _ => cases hop

end Closing

/-! ## Ending calls -/

/-- Whether an operation does no more than end calls, drain and close. -/
def Op.wanes (op : Op) : Bool :=
  op.closes || op.released?.isSome

/-- A property that is kept when a call ends, a connection drains or one closes. -/
structure Waning (P : Registry → Prop) : Prop extends Closing P where
  release : ∀ {registry} id, P registry → P (registry.release id).1

/-- The property is kept by every operation that ends calls, drains and closes. -/
lemma Waning.after {P : Registry → Prop} {registry : Registry} (h : Waning P) {op : Op}
    (hop : op.wanes = true) (hP : P registry) : P (registry.after op) := by
  cases op with
  | add | subscribe | reserve | reserveEntry => cases hop
  | rollBack reservation => exact h.release _ hP
  | abandonDead now reservation => exact h.beginDrain now _ (h.release _ hP)
  | release id => exact h.release id hP
  | _ => exact h.toClosing.after rfl hP

/-! ## All operations -/

/-- A property that every elementary operation keeps. -/
structure Kept (P : Registry → Prop) : Prop extends Waning P where
  add : ∀ {registry} entry, P registry → P (registry.add entry).1
  subscribe : ∀ {registry} id method, P registry → P (registry.subscribe id method).1
  reserve : ∀ {registry} selector method excluded, P registry →
    P (registry.reserve selector method excluded).1
  reserveEntry : ∀ {registry} id, P registry → P (registry.reserveEntry id).1

namespace Kept

variable {P : Registry → Prop} {registry : Registry}

/-- The property is kept by every operation. -/
lemma after (h : Kept P) (op : Op) (hP : P registry) : P (registry.after op) := by
  cases op with
  | add entry => exact h.add entry hP
  | subscribe id method => exact h.subscribe id method hP
  | reserve selector method excluded => exact h.reserve selector method excluded hP
  | reserveEntry id => exact h.reserveEntry id hP
  | _ => exact h.toWaning.after rfl hP

/-- The property is kept whether an operation is made or not. -/
lemma afterAny (h : Kept P) (op : Option Op) (hP : P registry) : P (registry.afterAny op) := by
  cases op with
  | none => exact hP
  | some op => exact h.after op hP

/-- The property is kept by every run. -/
lemma run (h : Kept P) (ops : List Op) (hP : P registry) : P (registry.run ops) := by
  induction ops generalizing registry with
  | nil => exact hP
  | cons op rest ih => exact ih (h.after op hP)

end Kept

end Registry

end CallDispatch
