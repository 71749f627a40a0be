import CallDispatch.Dispatch.Calls
import CallDispatch.Proofs.Dispatch.Flights
import CallDispatch.Proofs.Registry.Phases
import CallDispatch.Proofs.Registry.Settling

/-!
# Losing a peer

That a peer is gone is noticed in several places, and the calls of the connection end in others, in
no particular order: the connection is told to drain, its transport goes away, the sweep finds its
link dead, calls end, and attempts that were waiting for the link are given up. Each of these may
close the connection, and those behind it then find nothing. In the end it is the same whatever came
first (`noticeAll_perm`), apart from the time that is noted by the first one that drains; from then
on that time stays.

## Main definitions

* `Notice`, `Dispatcher.notice`: what is noticed, and what the dispatcher does.
* `Dispatcher.noticeAll`: any number of notices, each at its own time.
-/

namespace CallDispatch

open Registry

/-- What may be noticed about a connection whose peer is lost. -/
inductive Notice
  /-- Somebody tells it to drain. -/
  | drain
  /-- Its transport went away. -/
  | disconnected
  /-- The sweep asks for each connection if its link is alive. -/
  | swept (isAlive : Handle → Bool)
  /-- A call of it ended. -/
  | callEnded
  /-- An attempt for which a call was reserved found the peer dead. -/
  | abandoned (reservation : Reservation)

namespace Notice

/-- The notice is about this connection, and the sweep finds no other link dead. -/
def On (registry : Registry) (id : EntryId) : Notice → Prop
  | drain | disconnected | callEnded => True
  | swept isAlive => ∀ slot ∈ registry.slots, isAlive slot.handle = decide (slot.id ≠ id)
  | abandoned reservation => reservation.handle.id = id

/-- How many calls a notice ends. -/
def ended : Notice → Nat
  | drain | disconnected | swept _ => 0
  | callEnded | abandoned _ => 1

/-- Whether a notice drains the connection. -/
def drains : Notice → Bool
  | drain | disconnected | swept _ | abandoned _ => true
  | callEnded => false

/-- The operation of the registry that a notice makes. -/
def op (id : EntryId) (now : Nat) : Notice → Op
  | drain | disconnected => .beginDrain now id
  | swept isAlive => .prune now isAlive
  | callEnded => .release id
  | abandoned reservation => .abandonDead now reservation

end Notice

namespace Dispatcher

/-- What a dispatcher does about a notice. -/
def notice (dispatcher : Dispatcher) (id : EntryId) (now : Nat) : Notice → Dispatcher
  | .drain => { dispatcher with registry := (dispatcher.registry.beginDrain now id).1 }
  | .disconnected => (dispatcher.peerDisconnected now id).1
  | .swept isAlive => { dispatcher with registry := (dispatcher.registry.prune now isAlive).1 }
  | .callEnded => { dispatcher with registry := (dispatcher.registry.release id).1 }
  | .abandoned reservation =>
    { dispatcher with registry := dispatcher.registry.abandonDead now reservation }

/-- What a dispatcher does about notices that come one after another. -/
def noticeAll (dispatcher : Dispatcher) (id : EntryId) (notices : List (Nat × Notice)) :
    Dispatcher :=
  notices.foldl (fun dispatcher timed => dispatcher.notice id timed.1 timed.2) dispatcher

variable {dispatcher : Dispatcher} {id : EntryId} {notice : Notice}

@[simp] lemma noticeAll_nil : dispatcher.noticeAll id [] = dispatcher := rfl

@[simp] lemma noticeAll_cons (timed : Nat × Notice) (rest : List (Nat × Notice)) :
    dispatcher.noticeAll id (timed :: rest) =
      (dispatcher.notice id timed.1 timed.2).noticeAll id rest := rfl

/-! ## One notice -/

/-- A notice makes its operation, and nothing else. -/
lemma notice_eq_operate (dispatcher : Dispatcher) (id : EntryId) (now : Nat) (notice : Notice) :
    dispatcher.notice id now notice = dispatcher.operate (notice.op id now) := by
  cases notice <;> rfl

lemma consistent_notice (h : dispatcher.registry.Consistent) (now : Nat) (notice : Notice) :
    (dispatcher.notice id now notice).registry.Consistent := by
  rw [notice_eq_operate]
  exact kept_consistent.after (notice.op id now) h

/-- What a notice is about stays the same behind another one. -/
lemma on_notice (h : dispatcher.registry.Consistent) {other : Notice}
    (hon : other.On dispatcher.registry id) (now : Nat) (notice : Notice) :
    other.On (dispatcher.notice id now notice).registry id := by
  cases other with
  | swept isAlive =>
    intro slot' hslot'
    rw [notice_eq_operate] at hslot'
    have hadded : dispatcher.registry.added? (notice.op id now) ≠ some slot'.id := by
      cases notice <;> simp [Notice.op, added?]
    obtain ⟨slot, hslot, hhandle⟩ := exists_same_handle h hslot' hadded
    have hid : slot.id = slot'.id := congrArg Handle.id hhandle
    rw [← hhandle, ← hid]
    exact hon slot hslot
  | _ => exact hon

/-- A notice may be counted before whatever comes behind it. -/
lemma notice_settled (h : dispatcher.registry.Consistent) (hon : notice.On dispatcher.registry id)
    (now ended : Nat) (drains : Bool) :
    (dispatcher.notice id now notice).registry.become id (Slot.settled ended drains) =
      dispatcher.registry.become id
        (Slot.settled (notice.ended + ended) (notice.drains || drains)) := by
  cases notice with
  | drain | disconnected =>
    rw [Notice.ended, Nat.zero_add]
    exact h.beginDrain_settled now ended drains
  | swept isAlive =>
    rw [Notice.ended, Nat.zero_add]
    show (dispatcher.registry.prune now isAlive).1.become id _ = _
    rw [h.prune_eq_beginDrain now hon]
    exact h.beginDrain_settled now ended drains
  | callEnded =>
    rw [Notice.ended, Nat.add_comm]
    exact h.release_settled ended drains
  | abandoned reservation =>
    obtain rfl : reservation.handle.id = id := hon
    rw [Notice.ended, Nat.add_comm]
    show (dispatcher.registry.abandonDead now reservation).become reservation.handle.id _ = _
    rw [abandonDead, rollBack, (h.release _).beginDrain_settled now ended drains]
    exact h.release_settled ended true

/-! ## Any number of notices -/

lemma calls_noticeAll (notices : List (Nat × Notice)) :
    (dispatcher.noticeAll id notices).calls = dispatcher.calls := by
  induction notices generalizing dispatcher with
  | nil => rfl
  | cons timed rest ih =>
    rw [noticeAll_cons, ih, notice_eq_operate]
    rfl

lemma consistent_noticeAll (h : dispatcher.registry.Consistent) (notices : List (Nat × Notice)) :
    (dispatcher.noticeAll id notices).registry.Consistent := by
  induction notices generalizing dispatcher with
  | nil => exact h
  | cons timed rest ih => exact ih (consistent_notice h timed.1 timed.2)

/-- What notices leave of a connection, apart from the time at which it began to drain: the calls
that they end are taken off, and it drains or closes if one of them drains it. -/
lemma noticeAll_settled (h : dispatcher.registry.Consistent) {notices : List (Nat × Notice)}
    (hon : ∀ timed ∈ notices, timed.2.On dispatcher.registry id) :
    ((dispatcher.noticeAll id notices).registry.update id
        fun slot => { slot with drainingSince := none }) =
      dispatcher.registry.become id (Slot.settled ((notices.map Prod.snd).map Notice.ended).sum
        ((notices.map Prod.snd).any Notice.drains)) := by
  induction notices generalizing dispatcher with
  | nil => exact (h.become_settled_zero id).symm
  | cons timed rest ih =>
    have hfirst : timed.2.On dispatcher.registry id := hon timed List.mem_cons_self
    have hrest : ∀ later ∈ rest,
        later.2.On (dispatcher.notice id timed.1 timed.2).registry id := by
      intro later hlater
      exact on_notice h (hon later (List.mem_cons_of_mem timed hlater)) timed.1 timed.2
    rw [noticeAll_cons, ih (consistent_notice h timed.1 timed.2) hrest,
      notice_settled h hfirst]
    rfl

/-- A connection that drains keeps the time at which it began. -/
lemma drainsSince_noticeAll (h : dispatcher.registry.Consistent) {since : Option Nat}
    (hdrains : dispatcher.registry.DrainsSince id since) (notices : List (Nat × Notice)) :
    (dispatcher.noticeAll id notices).registry.DrainsSince id since := by
  induction notices generalizing dispatcher with
  | nil => exact hdrains
  | cons timed rest ih =>
    have hwanes : (timed.2.op id timed.1).wanes = true := by
      cases timed.2 <;> rfl
    have hnext := (waning_drainsSince id since).after hwanes ⟨h, hdrains⟩
    rw [noticeAll_cons, notice_eq_operate]
    exact ih hnext.1 hnext.2

/-! ## The main result -/

/-- **In any order.** Whenever the registry has come about by its operations, it does not matter in
which order the same notices about a connection come, nor when: apart from the time at which the
connection began to drain, the registry is the same afterwards, and so are the calls. From the
notice on behind which it drains, the time stays that is noted then. -/
theorem noticeAll_perm {ops : List Op} {dispatcher : Dispatcher}
    (hreachable : dispatcher.registry = ({} : Registry).run ops) {id : EntryId}
    {first second : List (Nat × Notice)}
    (hon : ∀ timed ∈ first, timed.2.On dispatcher.registry id)
    (hperm : (first.map Prod.snd).Perm (second.map Prod.snd)) :
    ((dispatcher.noticeAll id first).registry.update id
        fun slot => { slot with drainingSince := none }) =
      ((dispatcher.noticeAll id second).registry.update id
        fun slot => { slot with drainingSince := none }) ∧
    (dispatcher.noticeAll id first).calls = (dispatcher.noticeAll id second).calls ∧
    ∀ earlier later, first = earlier ++ later →
      ∀ slot ∈ (dispatcher.noticeAll id earlier).registry.slots, slot.id = id →
        slot.state = .draining →
        ∀ slot' ∈ (dispatcher.noticeAll id first).registry.slots, slot'.id = id →
          slot'.drainingSince = slot.drainingSince := by
  have h : dispatcher.registry.Consistent := by
    rw [hreachable]
    exact consistent_run ops
  refine ⟨?_, ?_, ?_⟩
  · have hon' : ∀ timed ∈ second, timed.2.On dispatcher.registry id := by
      intro timed htimed
      obtain ⟨same, hsame, heq⟩ := List.mem_map.1
        (hperm.mem_iff.2 (List.mem_map_of_mem htimed))
      rw [← heq]
      exact hon same hsame
    have hended : ((first.map Prod.snd).map Notice.ended).sum =
        ((second.map Prod.snd).map Notice.ended).sum := (hperm.map Notice.ended).sum_nat
    have hdrains : (first.map Prod.snd).any Notice.drains =
        (second.map Prod.snd).any Notice.drains := hperm.any_eq
    rw [noticeAll_settled h hon, noticeAll_settled h hon', hended, hdrains]
  · rw [calls_noticeAll, calls_noticeAll]
  · rintro earlier later rfl slot hslot hid hdraining slot' hslot' hid'
    have hbetween : (dispatcher.noticeAll id earlier).registry.Consistent :=
      consistent_noticeAll h earlier
    have hdrains : (dispatcher.noticeAll id earlier).registry.DrainsSince id
        slot.drainingSince := by
      intro other hother hsame
      have heq : other = slot := hbetween.ascending.eq_of_id_eq hother hslot (hsame.trans hid.symm)
      rw [heq]
      exact ⟨hdraining, rfl⟩
    have happend : dispatcher.noticeAll id (earlier ++ later) =
        (dispatcher.noticeAll id earlier).noticeAll id later := List.foldl_append
    rw [happend] at hslot'
    exact (drainsSince_noticeAll hbetween hdrains later slot' hslot' hid').2

/-- A dialed application has four calls, and another application is connected. -/
def fourCalls : List Op :=
  [.add ⟨⟨1, .outbound, .plain, .empty, some "sip:app", none, 1⟩, .connecting⟩,
    .add ⟨⟨2, .inbound, .plain, .empty, none, none, 2⟩, .connecting⟩,
    .reserveEntry 1, .reserveEntry 1, .reserveEntry 1, .reserveEntry 1]

/-- The transport goes away first. -/
def transportFirst : List (Nat × Notice) :=
  [(5, .disconnected), (6, .callEnded), (7, .swept (·.id != 1)),
    (8, .abandoned ⟨⟨1, .outbound, .plain, .empty, some "sip:app", none, 1⟩⟩), (9, .callEnded)]

/-- The same is noticed the other way round. -/
def transportLast : List (Nat × Notice) :=
  [(1, .callEnded),
    (2, .abandoned ⟨⟨1, .outbound, .plain, .empty, some "sip:app", none, 1⟩⟩),
    (3, .swept (·.id != 1)), (4, .callEnded), (5, .disconnected)]

theorem noticeAll_perm_fourCalls :
    let dispatcher : Dispatcher := { registry := ({} : Registry).run fourCalls }
    let first := dispatcher.noticeAll 1 transportFirst
    let second := dispatcher.noticeAll 1 transportLast
    first.registry.phase 1 = .draining ∧ first.registry ≠ second.registry ∧
      (first.registry.update 1 fun slot => { slot with drainingSince := none }) =
        (second.registry.update 1 fun slot => { slot with drainingSince := none }) ∧
      ∀ slot' ∈ first.registry.slots, slot'.id = 1 → slot'.drainingSince = some 5 := by
  intro dispatcher first second
  have hdead : ∀ slot ∈ dispatcher.registry.slots,
      (slot.handle.id != 1) = decide (slot.id ≠ 1) := by decide
  have hon : ∀ timed ∈ transportFirst, timed.2.On dispatcher.registry 1 := by
    simp only [transportFirst, List.forall_mem_cons]
    exact ⟨trivial, trivial, hdead, rfl, trivial, by simp⟩
  have hperm : (transportFirst.map Prod.snd).Perm (transportLast.map Prod.snd) :=
    (List.reverse_perm (transportFirst.map Prod.snd)).symm
  have hall := noticeAll_perm rfl hon hperm
  exact ⟨by decide, by decide, hall.1,
    hall.2.2 [(5, .disconnected)] (transportFirst.drop 1) rfl
      { handle := ⟨1, .outbound, .plain, .empty, some "sip:app", none, 1⟩
        state := .draining
        calls := 4
        drainingSince := some 5 } (by decide) rfl rfl⟩

end Dispatcher

end CallDispatch
