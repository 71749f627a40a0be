import CallDispatch.Registry.Basic

/-!
# Sweeping the registry

What happens to connections without anyone asking for it: those whose link is dead are drained, and
those that drain for too long are closed.
-/

namespace CallDispatch.Registry

/-- Closes connections one after another, and returns those that were registered. -/
def closeAll (registry : Registry) : List EntryId → Registry × List Handle
  | [] => (registry, [])
  | id :: rest =>
    let (registry, closed) := registry.close id
    let (registry, more) := registry.closeAll rest
    (registry, closed.toList ++ more)

/-- Drains connections one after another. -/
def drainAll (registry : Registry) (now : Nat) (ids : List EntryId) : Registry :=
  ids.foldl (fun registry id => (registry.beginDrain now id).1) registry

/-- The active connections whose link is dead. -/
def dead (registry : Registry) (isAlive : Handle → Bool) : List EntryId :=
  (registry.slots.filter fun slot => slot.state.isSelectable && !isAlive slot.handle).map Slot.id

/-- Drains every active connection whose link is dead, and returns their ids. -/
def prune (registry : Registry) (now : Nat) (isAlive : Handle → Bool) : Registry × List EntryId :=
  let dead := registry.dead isAlive
  (registry.drainAll now dead, dead)

/-- Whether a slot has been draining for at least `timeout`. -/
def isOverdue (now timeout : Nat) (slot : Slot) : Bool :=
  slot.drainingSince.any fun since => timeout ≤ now - since

/-- Closes every connection that has been draining for at least `timeout`. -/
def expire (registry : Registry) (now timeout : Nat) : Registry × List Handle :=
  registry.closeAll ((registry.slots.filter (isOverdue now timeout)).map Slot.id)

/-- Closes every connection. -/
def clear (registry : Registry) : Registry × List Handle :=
  registry.closeAll (registry.slots.map Slot.id)

end CallDispatch.Registry
