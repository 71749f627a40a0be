import CallDispatch.Switchboard.Basic
import Mathlib.Logic.Function.Iterate

/-!
# Links on the switchboard

Letting the reader of a link run is letting it read once, again and again
(`Switchboard.read_eq_iterate`). Single readings are what others can get in between, so it is they
that a conversation with an application is made of. For each change of the switchboard there is what
it makes of one link.
-/

namespace CallDispatch

open Text

namespace Switchboard

variable {board : Switchboard} {id : LinkId} {link : FramedLink}

/-! ## Single readings -/

/-- What the reader of a link works on. -/
def intake (board : Switchboard) (link : FramedLink) : Intake :=
  ⟨board.registry, link.wire, board.mailbox, board.nextMessage⟩

/-- The switchboard when the reader of a link has worked on it and perhaps stopped for good. -/
def withIntake (board : Switchboard) (id : LinkId) (link : FramedLink) (intake : Intake)
    (stopped : Bool) : Switchboard :=
  let link := { link with
    wire := intake.wire, alive := link.alive && !stopped, reading := !stopped }
  let board := { (board.withRegistry intake.registry).setLink id (.framed link) with
    mailbox := intake.mailbox, nextMessage := intake.nextMessage }
  if stopped then { board with disconnected := board.disconnected ++ [link.entry] } else board

/-- Lets the reader of a link read once, if it has one that has not stopped. -/
def readOnce (board : Switchboard) (id : LinkId) : Switchboard :=
  match board.framed? id with
  | some link =>
    if link.reading then
      let (intake, verdict) := (board.intake link).step link.entry
      board.withIntake id link intake (verdict == .stop)
    else board
  | none => board

lemma runReader_eq (board : Switchboard) (id : LinkId) (link : FramedLink) :
    board.runReader id link =
      board.withIntake id link ((board.intake link).run link.entry).1
        ((board.intake link).run link.entry).2 := rfl

lemma readOnce_eq (hframed : board.framed? id = some link) (hreading : link.reading = true) :
    board.readOnce id =
      board.withIntake id link ((board.intake link).step link.entry).1
        (((board.intake link).step link.entry).2 == .stop) := by
  unfold readOnce
  rw [hframed]
  simp only [hreading, if_true]

/-! ## One link -/

lemma framed?_eq_some_iff :
    board.framed? id = some link ↔ board.links[id]? = some (.framed link) := by
  unfold framed?
  cases hlink : board.links[id]? with
  | none => simp
  | some other => cases other <;> simp

/-- The link that is set is the link then. -/
lemma framed?_setLink (hframed : board.framed? id = some link) (link' : FramedLink) :
    (board.setLink id (.framed link')).framed? id = some link' := by
  have hlt : id < board.links.length :=
    (List.getElem?_eq_some_iff.1 (framed?_eq_some_iff.1 hframed)).1
  rw [framed?_eq_some_iff]
  exact List.getElem?_set_self hlt

lemma framed?_withIntake (hframed : board.framed? id = some link) (intake : Intake)
    (stopped : Bool) :
    (board.withIntake id link intake stopped).framed? id = some { link with
      wire := intake.wire, alive := link.alive && !stopped, reading := !stopped } := by
  cases stopped <;> exact framed?_setLink hframed _

lemma registry_withIntake (intake : Intake) (stopped : Bool) :
    (board.withIntake id link intake stopped).registry = intake.registry := by
  cases stopped <;> rfl

lemma find?_withIntake {intake : Intake} {entry : EntryId} {slot : Slot}
    (hfind : intake.registry.find? entry = some slot) (stopped : Bool) :
    (board.withIntake id link intake stopped).registry.find? entry = some slot := by
  rw [registry_withIntake]
  exact hfind

lemma mailbox_withIntake (intake : Intake) (stopped : Bool) :
    (board.withIntake id link intake stopped).mailbox = intake.mailbox := by
  cases stopped <;> rfl

lemma disconnected_withIntake (intake : Intake) (stopped : Bool) :
    (board.withIntake id link intake stopped).disconnected =
      board.disconnected ++ if stopped then [link.entry] else [] := by
  cases stopped
  · exact (List.append_nil _).symm
  · rfl

lemma wake_eq (board : Switchboard) (id : LinkId) :
    ∃ woken, board.wake id = { board with woken } := by
  unfold wake
  by_cases hwoken : board.woken.contains id = true
  · exact ⟨board.woken, if_pos hwoken⟩
  · exact ⟨board.woken ++ [id], if_neg hwoken⟩

/-- What an application does to its stream changes its link, and besides only which readers have
something to do. -/
lemma touch_eq (hframed : board.framed? id = some link) (change : Wire → Wire) :
    ∃ woken, board.touch id change =
      { board.setLink id (.framed { link with wire := change link.wire }) with woken } := by
  unfold touch
  rw [hframed]
  exact wake_eq _ id

lemma framed?_touch (hframed : board.framed? id = some link) (change : Wire → Wire) :
    (board.touch id change).framed? id = some { link with wire := change link.wire } := by
  obtain ⟨woken, htouch⟩ := touch_eq hframed change
  rw [htouch]
  exact framed?_setLink hframed _

lemma registry_touch (board : Switchboard) (id : LinkId) (change : Wire → Wire) :
    (board.touch id change).registry = board.registry := by
  cases hframed : board.framed? id with
  | none =>
    unfold touch
    rw [hframed]
  | some link =>
    obtain ⟨woken, htouch⟩ := touch_eq hframed change
    rw [htouch]
    rfl

/-- A connection with a new id is registered with a link of its own. -/
lemma enroll_of_new (entry : Entry) (hnew : board.registry.contains entry.handle.id = false)
    (hstate : entry.state = .connecting) (peer : SocketAddress) (wire : Wire) :
    board.enroll peer entry wire =
      ({ board.withRegistry (board.registry.add
            { entry with handle := { entry.handle with link := board.links.length } }).1 with
          links := board.links ++ [.framed { entry := entry.handle.id, peer, wire }]
          woken := board.woken ++ [board.links.length] },
        .ok { entry.handle with link := board.links.length }) := by
  unfold enroll connect Registry.add Entry.transition
  simp only [hnew, hstate]
  rfl

/-! ## Running the reader -/

/-- A reader that has done nothing has changed nothing. -/
lemma withIntake_self (hframed : board.framed? id = some link) (hreading : link.reading = true) :
    board.withIntake id link (board.intake link) false = board := by
  have hlink : ({ link with wire := link.wire, alive := link.alive && !false, reading := !false } :
      FramedLink) = link := by
    cases link
    cases hreading
    simp
  obtain ⟨hlt, hget⟩ := List.getElem?_eq_some_iff.1 (framed?_eq_some_iff.1 hframed)
  have hlinks : board.links.set id (.framed link) = board.links := by
    rw [← hget]
    exact List.set_getElem_self hlt
  unfold withIntake intake withRegistry setLink
  simp only [hlink, hlinks]
  rfl

/-- What a reader does in two goes, it does in one. -/
lemma withIntake_withIntake (intake intake' : Intake) (stopped : Bool) :
    (board.withIntake id link intake false).withIntake id
        { link with wire := intake.wire, alive := link.alive && !false, reading := !false } intake'
        stopped =
      board.withIntake id link intake' stopped := by
  have hlinks : ∀ other other' : Link,
      (board.links.set id other).set id other' = board.links.set id other' :=
    fun other other' => List.set_set other
  cases stopped <;>
    simp only [withIntake, withRegistry, setLink, hlinks, Bool.not_false, Bool.and_true, if_true,
      Bool.false_eq_true, if_false]

/-- Running for a while is reading once, a number of times. -/
lemma runFor_eq_iterate (hframed : board.framed? id = some link) (fuel : Nat) (intake : Intake) :
    ∃ n, board.withIntake id link (Intake.runFor link.entry fuel intake).1
        (Intake.runFor link.entry fuel intake).2 =
      (fun board => board.readOnce id)^[n] (board.withIntake id link intake false) := by
  induction fuel generalizing intake with
  | zero => exact ⟨0, rfl⟩
  | succ fuel ih =>
    have honce : (board.withIntake id link intake false).readOnce id =
        board.withIntake id link (intake.step link.entry).1
          ((intake.step link.entry).2 == .stop) := by
      rw [readOnce_eq (framed?_withIntake hframed intake false) rfl]
      exact withIntake_withIntake intake _ _
    cases hstep : intake.step link.entry with
    | mk intake' verdict =>
      rw [hstep] at honce
      unfold Intake.runFor
      rw [hstep]
      cases verdict with
      | goOn =>
        obtain ⟨n, hrest⟩ := ih intake'
        refine ⟨n + 1, ?_⟩
        rw [Function.iterate_succ_apply, honce]
        exact hrest
      | wait => exact ⟨1, honce.symm⟩
      | stop => exact ⟨1, honce.symm⟩

/-- Letting the reader of a link run is letting it read once, a number of times. -/
theorem read_eq_iterate (board : Switchboard) (id : LinkId) :
    ∃ n, board.read id = (fun board => board.readOnce id)^[n] board := by
  unfold read
  cases hframed : board.framed? id with
  | none => exact ⟨0, rfl⟩
  | some link =>
    by_cases hreading : link.reading = true
    · obtain ⟨n, hrun⟩ := runFor_eq_iterate hframed (link.wire.inbox.buffer.length + 2)
        (board.intake link)
      rw [withIntake_self hframed hreading] at hrun
      simp only [hreading, if_true, runReader_eq]
      exact ⟨n, hrun⟩
    · simp only [hreading]
      exact ⟨0, rfl⟩

end Switchboard

end CallDispatch
