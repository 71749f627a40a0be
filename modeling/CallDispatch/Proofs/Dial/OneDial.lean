import CallDispatch.Proofs.Dial.Errands
import CallDispatch.Proofs.Registry.Cache

/-!
# One dial for each uri

Callers that dial one uri share its lock, although the lock comes into being with the first of them
and is forgotten by one that leaves: as long as a caller has still to touch the lock of its uri, the
lock that it shares is the one that the uri has (`Attended.mapped`), since a lock is forgotten only
by a caller that shares it with nobody. So nobody who comes meanwhile gets another one, and of those
that share it one at most dials. Whoever dials has looked for a connection before and found none,
and nobody else can bring one about while the attempt lasts (`Settled`).

## Main definitions

* `Errand.place?`: what a caller at some stage does at its lock.
* `Exchange.Attended`: the locks know where the callers are.
* `Exchange.Settled`: nobody dials a uri at which a connection is found.
-/

namespace CallDispatch

open Registry

/-! ## Stages and places -/

/-- What a caller at a stage does at its lock; nothing before it shares one and when it is gone. -/
def Errand.Stage.phase? : Errand.Stage → Option CallerPhase
  | looking | approaching | ended _ => none
  | waiting => some .waiting
  | holding | dialing | done _ => some .holding
  | leaving _ | parting _ => some .leaving

/-- Whether a caller at a stage shares the lock that its uri has now. -/
def Errand.Stage.isAttached : Errand.Stage → Bool
  | waiting | holding | dialing | done _ | leaving _ => true
  | looking | approaching | parting _ | ended _ => false

/-- The uri of a caller, and what it does at its lock. -/
def Errand.place? (errand : Errand) : Option (String × CallerPhase) :=
  errand.stage.phase?.map fun phase => (errand.uri, phase)

namespace Exchange

variable {registry : Registry} {locks locks' : Locks} {errands : List Errand} {i : Nat}
  {errand : Errand} {stage : Errand.Stage}

/-! ## Callers and locks -/

/-- The locks know what each caller does at its lock, nobody shares a lock that its uri has not any
more and yet has to touch it, and no lock is held twice. -/
structure Attended (locks : Locks) (errands : List Errand) : Prop where
  placed : ∀ i : Nat, (locks.caller? i).map (fun place => (place.uri, place.phase)) =
    errands[i]?.bind Errand.place?
  mapped : ∀ (i : Nat) errand place, errands[i]? = some errand → errand.stage.isAttached = true →
    locks.caller? i = some place → locks.lock? errand.uri = some place.lock
  exclusive : locks.Exclusive

lemma attended_empty : Attended {} [] where
  placed i := rfl
  mapped i errand place herrand := by cases herrand
  exclusive := Locks.exclusive_empty

/-- The place of a caller that shares a lock. -/
lemma Attended.exists_place (h : Attended locks errands) (hi : errands[i]? = some errand)
    {phase : CallerPhase} (hphase : errand.stage.phase? = some phase) :
    ∃ lock, locks.caller? i = some ⟨errand.uri, lock, phase⟩ := by
  have hplaced := h.placed i
  rw [hi, Option.bind_some, Errand.place?, hphase] at hplaced
  obtain ⟨⟨uri, lock, phase'⟩, hplace, hsame⟩ := Option.map_eq_some_iff.1 hplaced
  cases hsame
  exact ⟨lock, hplace⟩

/-- Callers that dial the same uri are the same caller. -/
lemma Attended.eq_of_dialing (h : Attended locks errands) {i j : Nat} {a b : Errand}
    (hi : errands[i]? = some a) (hj : errands[j]? = some b) (ha : a.stage = .dialing)
    (hb : b.stage = .dialing) (huri : a.uri = b.uri) : i = j := by
  obtain ⟨lock, hplace⟩ := h.exists_place hi (by rw [ha]; rfl)
  obtain ⟨lock', hplace'⟩ := h.exists_place hj (by rw [hb]; rfl)
  have hlock : locks.lock? a.uri = some lock := h.mapped i a _ hi (by rw [ha]; rfl) hplace
  have hlock' : locks.lock? b.uri = some lock' := h.mapped j b _ hj (by rw [hb]; rfl) hplace'
  rw [← huri, hlock] at hlock'
  exact h.exclusive i j _ _ hplace hplace' (Option.some.inj hlock') rfl rfl

/-- What is known of the callers stays true if one of them goes to another stage, with its place at
its lock, while the others keep theirs, and their locks if they have to touch them. -/
lemma Attended.set (h : Attended locks errands) (hi : errands[i]? = some errand)
    (hexclusive : locks'.Exclusive)
    (hself : (locks'.caller? i).map (fun place => (place.uri, place.phase)) =
      ({ errand with stage } : Errand).place?)
    (hattached : stage.isAttached = true → ∀ place, locks'.caller? i = some place →
      locks'.lock? errand.uri = some place.lock)
    (hothers : ∀ j, j ≠ i → locks'.caller? j = locks.caller? j)
    (hkept : ∀ j other place, j ≠ i → locks.caller? j = some place →
      locks.lock? other = some place.lock → locks'.lock? other = some place.lock) :
    Attended locks' (errands.set i { errand with stage }) := by
  have hset : (errands.set i { errand with stage })[i]? = some { errand with stage } :=
    List.getElem?_set_self (List.getElem?_eq_some_iff.1 hi).1
  refine ⟨fun j => ?_, fun j other place hj hstage hplace => ?_, hexclusive⟩
  · by_cases hsame : j = i
    · rw [hsame, hset]
      exact hself
    · rw [hothers j hsame, List.getElem?_set_ne (Ne.symm hsame)]
      exact h.placed j
  · by_cases hsame : j = i
    · rw [hsame, hset] at hj
      cases hj
      exact hattached hstage place (hsame ▸ hplace)
    · rw [List.getElem?_set_ne (Ne.symm hsame)] at hj
      rw [hothers j hsame] at hplace
      exact hkept j other.uri place hsame hplace (h.mapped j other place hj hstage hplace)

/-- A caller goes to another stage at which it does the same at its lock. -/
lemma Attended.stay (h : Attended locks errands) (hi : errands[i]? = some errand)
    (hphase : stage.phase? = errand.stage.phase?)
    (hattached : stage.isAttached = true → errand.stage.isAttached = true) :
    Attended locks (errands.set i { errand with stage }) := by
  apply h.set hi h.exclusive
  · rw [h.placed i, hi, Option.bind_some, Errand.place?, Errand.place?, hphase]
  · intro hstage place hplace
    exact h.mapped i errand place hi (hattached hstage) hplace
  · exact fun j _ => rfl
  · exact fun j other place _ _ hlock => hlock

/-- A new caller shares the lock of its uri. -/
lemma Attended.enter (h : Attended locks errands) (hi : errands[i]? = some errand) :
    Attended (locks.enter i errand.uri) (errands.set i { errand with stage := .waiting }) := by
  obtain ⟨lock, hlock, hself⟩ := locks.caller?_enter_self i errand.uri
  apply h.set hi (h.exclusive.enter i errand.uri)
  · rw [hself]
    rfl
  · intro _ place hplace
    rw [hself] at hplace
    cases hplace
    exact hlock
  · exact fun j hne => Locks.caller?_enter_of_ne errand.uri hne
  · exact fun j other place _ _ hlock => Locks.lock?_enter hlock

/-- A caller that shares a lock does something else there. -/
lemma Attended.move (h : Attended locks errands) (hi : errands[i]? = some errand)
    {phase : CallerPhase} (hexclusive : (locks.move i phase).Exclusive)
    (hshares : errand.stage.phase? ≠ none) (hphase : stage.phase? = some phase)
    (hattached : stage.isAttached = true → errand.stage.isAttached = true) :
    Attended (locks.move i phase) (errands.set i { errand with stage }) := by
  obtain ⟨before, hbefore⟩ := Option.ne_none_iff_exists'.1 hshares
  obtain ⟨lock, hplace⟩ := h.exists_place hi hbefore
  have hmoved : (locks.move i phase).caller? i = some ⟨errand.uri, lock, phase⟩ := by
    rw [Locks.caller?_move, if_pos rfl, hplace]
    rfl
  apply h.set hi hexclusive
  · rw [hmoved, Errand.place?, hphase]
    rfl
  · intro hstage place hplace'
    rw [hmoved] at hplace'
    cases hplace'
    have hlock := h.mapped i errand ⟨errand.uri, lock, before⟩ hi (hattached hstage) hplace
    exact hlock
  · intro j hne
    rw [Locks.caller?_move, if_neg hne]
  · exact fun j other place _ _ hlock => hlock

/-- A caller that has left its lock forgets it if nobody else shares it. -/
lemma Attended.tidy (h : Attended locks errands) (hi : errands[i]? = some errand)
    {result : Except DialError Handle} (hstage : errand.stage = .leaving result)
    (result' : Option (Except DialError Handle)) :
    Attended (locks.tidy errand.uri) (errands.set i { errand with stage := .parting result' }) := by
  obtain ⟨lock, hplace⟩ := h.exists_place hi (by rw [hstage]; rfl)
  have hlock : locks.lock? errand.uri = some lock :=
    h.mapped i errand _ hi (by rw [hstage]; rfl) hplace
  apply h.set hi (h.exclusive.tidy errand.uri)
  · rw [Locks.caller?_tidy, hplace]
    rfl
  · intro hattached
    cases hattached
  · exact fun j _ => Locks.caller?_tidy
  · intro j other place hne hother hmapped
    apply Locks.lock?_tidy hmapped
    -- another caller that needs the lock of this uri shares it with the one that leaves
    intro huri
    rw [huri, hlock] at hmapped
    exact Locks.two_le_sharers hne hother hplace rfl (Option.some.inj hmapped)

/-- A caller gives up its share of a lock that it does not touch any more. -/
lemma Attended.part (h : Attended locks errands) (hi : errands[i]? = some errand)
    (result : Option (Except DialError Handle)) :
    Attended (locks.cancel i) (errands.set i { errand with stage := .ended result }) := by
  apply h.set hi (h.exclusive.cancel i)
  · rw [Locks.caller?_cancel, if_pos rfl]
    rfl
  · intro hattached
    cases hattached
  · intro j hne
    rw [Locks.caller?_cancel, if_neg hne]
  · exact fun j other place _ _ hlock => hlock

/-- One more caller comes. -/
lemma Attended.come (h : Attended locks errands) (uri : String) :
    Attended locks (errands ++ [⟨uri, .looking⟩]) := by
  have hsplit : ∀ (i : Nat) errand, (errands ++ [⟨uri, .looking⟩])[i]? = some errand →
      errands[i]? = some errand ∨ errand = ⟨uri, .looking⟩ := by
    intro i errand herrand
    rcases Nat.lt_or_ge i errands.length with hlt | hge
    · rw [List.getElem?_append_left hlt] at herrand
      exact Or.inl herrand
    · rw [List.getElem?_append_right hge] at herrand
      exact Or.inr (List.mem_singleton.1 (List.mem_of_getElem? herrand))
  refine ⟨fun i => ?_, fun i errand place herrand hstage hplace => ?_, h.exclusive⟩
  · rw [h.placed i]
    rcases Nat.lt_or_ge i errands.length with hlt | hge
    · rw [List.getElem?_append_left hlt]
    · rw [List.getElem?_append_right hge, List.getElem?_eq_none hge]
      cases i - errands.length <;> rfl
  · rcases hsplit i errand herrand with hold | rfl
    · exact h.mapped i errand place hold hstage hplace
    · cases hstage

/-! ## Callers and the registry -/

/-- Nobody dials a uri at which a connection is found, and no active connection has been replaced
at its uri. -/
structure Settled (registry : Registry) (errands : List Errand) : Prop where
  consistent : registry.Consistent
  sole : registry.Sole
  unfound : ∀ (i : Nat) errand, errands[i]? = some errand → errand.stage = .dialing →
    registry.findTarget errand.uri = none

lemma settled_empty : Settled {} [] where
  consistent := consistent_empty
  sole slot hslot := by cases hslot
  unfound i errand hi := by cases hi

/-- A caller goes to another stage; it dials only if no connection is found. -/
lemma Settled.set (h : Settled registry errands)
    (hdialing : stage = .dialing → registry.findTarget errand.uri = none) :
    Settled registry (errands.set i { errand with stage }) := by
  refine ⟨h.consistent, h.sole, fun j other hj hstage => ?_⟩
  rcases List.mem_or_eq_of_mem_set (List.mem_of_getElem? hj) with hmem | rfl
  · obtain ⟨k, hk⟩ := List.getElem?_of_mem hmem
    exact h.unfound k other hk hstage
  · exact hdialing hstage

/-- One more caller comes. -/
lemma Settled.come (h : Settled registry errands) (uri : String) :
    Settled registry (errands ++ [⟨uri, .looking⟩]) := by
  refine ⟨h.consistent, h.sole, fun j other hj hstage => ?_⟩
  rcases List.mem_append.1 (List.mem_of_getElem? hj) with hmem | hmem
  · obtain ⟨k, hk⟩ := List.getElem?_of_mem hmem
    exact h.unfound k other hk hstage
  · rw [List.mem_singleton.1 hmem] at hstage
    cases hstage

/-- An operation that dials nobody brings about no connection that anybody would find. -/
lemma Settled.operate (h : Settled registry errands) {op : Op}
    (hop : ∀ entry, op = .add entry → entry.handle.target = none) :
    Settled (registry.after op) errands := by
  have hnone : ∀ uri, registry.dialed? uri op = none := by
    intro uri
    by_contra hne
    obtain ⟨handle, hdialed⟩ := Option.ne_none_iff_exists'.1 hne
    obtain ⟨-, htarget, entry, hadd, rfl⟩ := added?_of_dialed hdialed
    rw [hop entry hadd] at htarget
    cases htarget
  refine ⟨kept_consistent.after op h.consistent, ?_, fun i errand hi hstage => ?_⟩
  · apply h.sole.after h.consistent
    intro uri handle hdialed
    rw [hnone uri] at hdialed
    cases hdialed
  · exact findTarget_after_eq_none h.consistent (hnone errand.uri) (h.unfound i errand hi hstage)

/-- What a caller brings about is the only connection at its uri, and nobody else dials that. -/
lemma Settled.dial (h : Settled registry errands) (hattended : Attended locks errands)
    (hi : errands[i]? = some errand) (hdialing : errand.stage = .dialing) {op : Op}
    (honly : ∀ uri handle, registry.dialed? uri op = some handle → uri = errand.uri)
    (result : Except DialError Handle) :
    Settled (registry.after op) (errands.set i { errand with stage := .done result }) := by
  have hnone : registry.findTarget errand.uri = none := h.unfound i errand hi hdialing
  refine ⟨kept_consistent.after op h.consistent, ?_, fun j other hj hstage => ?_⟩
  · apply h.sole.after h.consistent
    intro uri handle hdialed
    rw [honly uri handle hdialed]
    exact hnone
  · -- another caller dials another uri
    have hother : errands[j]? = some other ∧ other.uri ≠ errand.uri := by
      by_cases hsame : j = i
      · rw [hsame, List.getElem?_set_self (List.getElem?_eq_some_iff.1 hi).1] at hj
        cases hj
        cases hstage
      · rw [List.getElem?_set_ne (Ne.symm hsame)] at hj
        exact ⟨hj, fun huri => hsame (hattended.eq_of_dialing hj hi hstage hdialing huri)⟩
    apply findTarget_after_eq_none h.consistent _ (h.unfound j other hother.1 hstage)
    by_contra hne
    obtain ⟨handle, hdialed⟩ := Option.ne_none_iff_exists'.1 hne
    exact hother.2 (honly other.uri handle hdialed)

/-- The end of an attempt to connect, with a connection or without. -/
lemma Settled.receive (h : Settled registry errands) (hattended : Attended locks errands)
    (hi : errands[i]? = some errand) (hdialing : errand.stage = .dialing)
    (outcome : Except DialError Entry) (result : Except DialError Handle) :
    Settled (registry.receive errand.uri outcome).1
      (errands.set i { errand with stage := .done result }) := by
  cases outcome with
  | error e => exact h.set fun hstage => by cases hstage
  | ok entry =>
    rw [receive_ok]
    apply h.dial hattended hi hdialing
    intro uri handle hdialed
    obtain ⟨-, htarget, dialed, hadd, rfl⟩ := added?_of_dialed hdialed
    rw [← Op.add.inj hadd] at htarget
    exact (Option.some.inj htarget).symm

/-! ## Everything that happens -/

/-- What holds whatever has happened. -/
structure Sound (exchange : Exchange) : Prop where
  attended : Attended exchange.locks exchange.errands
  settled : Settled exchange.registry exchange.errands

variable {exchange : Exchange}

lemma sound_empty : ({} : Exchange).Sound where
  attended := attended_empty
  settled := settled_empty

/-- A caller that goes on by itself. -/
lemma Sound.step (h : exchange.Sound) (hi : exchange.errands[i]? = some errand) :
    (exchange.step i errand).Sound := by
  have hshares : ∀ {phase}, errand.stage.phase? = some phase → errand.stage.phase? ≠ none := by
    intro phase hphase hnone
    rw [hphase] at hnone
    cases hnone
  unfold Exchange.step
  cases hstage : errand.stage with
  | looking =>
    cases exchange.registry.findTarget errand.uri with
    | some handle =>
      exact ⟨h.attended.stay hi (by rw [hstage]; rfl) (by simp [Errand.Stage.isAttached]),
        h.settled.set fun hdialing => by cases hdialing⟩
    | none =>
      exact ⟨h.attended.stay hi (by rw [hstage]; rfl) (by simp [Errand.Stage.isAttached]),
        h.settled.set fun hdialing => by cases hdialing⟩
  | approaching =>
    exact ⟨h.attended.enter hi, h.settled.set fun hdialing => by cases hdialing⟩
  | waiting =>
    have hexclusive := h.attended.exclusive.acquire i
    rcases exchange.locks.acquire_cases i with hsame | ⟨place, -, -, -, hacquire⟩
    · simp only [hsame]
      exact h
    · simp only [hacquire] at hexclusive ⊢
      exact ⟨h.attended.move hi hexclusive (hshares (by rw [hstage]; rfl)) rfl
          (by rw [hstage]; exact fun _ => rfl),
        h.settled.set fun hdialing => by cases hdialing⟩
  | holding =>
    cases hfound : exchange.registry.findTarget errand.uri with
    | some handle =>
      exact ⟨h.attended.stay hi (by rw [hstage]; rfl) (by rw [hstage]; exact fun _ => rfl),
        h.settled.set fun hdialing => by cases hdialing⟩
    | none =>
      exact ⟨h.attended.stay hi (by rw [hstage]; rfl) (by rw [hstage]; exact fun _ => rfl),
        h.settled.set fun _ => hfound⟩
  | done result =>
    exact ⟨h.attended.move hi (h.attended.exclusive.release i) (hshares (by rw [hstage]; rfl)) rfl
        (by rw [hstage]; exact fun _ => rfl),
      h.settled.set fun hdialing => by cases hdialing⟩
  | leaving result =>
    exact ⟨h.attended.tidy hi hstage (some result),
      h.settled.set fun hdialing => by cases hdialing⟩
  | parting result =>
    exact ⟨h.attended.part hi result, h.settled.set fun hdialing => by cases hdialing⟩
  | dialing => exact h
  | ended result => exact h

/-- A caller whose attempt to connect has ended. -/
lemma Sound.conclude (h : exchange.Sound) (hi : exchange.errands[i]? = some errand)
    (outcome : Except DialError Entry) : (exchange.conclude i errand outcome).Sound := by
  unfold Exchange.conclude
  cases hstage : errand.stage with
  | dialing =>
    exact ⟨h.attended.stay hi (by rw [hstage]; rfl) (by rw [hstage]; exact fun _ => rfl),
      h.settled.receive h.attended hi hstage outcome _⟩
  | _ => exact h

/-- A caller that gives up. -/
lemma Sound.cancel (h : exchange.Sound) (hi : exchange.errands[i]? = some errand) :
    (exchange.cancel i errand).Sound := by
  have hpart : errand.stage.phase? ≠ none →
      ({ exchange with locks := exchange.locks.release i }.put i errand (.parting none)).Sound := by
    intro hshares
    exact ⟨h.attended.move hi (h.attended.exclusive.release i) hshares rfl
        (by simp [Errand.Stage.isAttached]),
      h.settled.set fun hdialing => by cases hdialing⟩
  unfold Exchange.cancel
  cases hstage : errand.stage with
  | looking | approaching =>
    exact ⟨h.attended.stay hi (by rw [hstage]; rfl) (by simp [Errand.Stage.isAttached]),
      h.settled.set fun hdialing => by cases hdialing⟩
  | waiting | holding | dialing | done | leaving =>
    exact hpart (by rw [hstage]; simp [Errand.Stage.phase?])
  | parting | ended => exact h

/-- What holds stays true, whatever happens next, if connections are dialed by callers only. -/
lemma Sound.perform (h : exchange.Sound) {act : Act}
    (hact : ∀ entry, act = .operate (.add entry) → entry.handle.target = none) :
    (exchange.perform act).Sound := by
  have hwith : ∀ (i : Nat) (next : Errand → Exchange),
      (∀ errand, exchange.errands[i]? = some errand → (next errand).Sound) →
      (exchange.with? i next).Sound := by
    intro i next hnext
    unfold with?
    split
    · exact h
    · next errand hi => exact hnext errand hi
  cases act with
  | operate op =>
    refine ⟨h.attended, h.settled.operate fun entry hop => ?_⟩
    exact hact entry (congrArg Act.operate hop)
  | come uri => exact ⟨h.attended.come uri, h.settled.come uri⟩
  | step i => exact hwith i _ fun errand hi => h.step hi
  | conclude i outcome => exact hwith i _ fun errand hi => h.conclude hi outcome
  | cancel i => exact hwith i _ fun errand hi => h.cancel hi

/-- What holds at first holds whatever has happened, if connections are dialed by callers only. -/
lemma Sound.run (h : exchange.Sound) {acts : List Act}
    (hacts : ∀ entry, Act.operate (.add entry) ∈ acts → entry.handle.target = none) :
    (exchange.run acts).Sound := by
  induction acts generalizing exchange with
  | nil => exact h
  | cons act acts ih =>
    apply ih
    · apply h.perform
      intro entry hact
      exact hacts entry (hact ▸ List.mem_cons_self)
    · intro entry hmem
      exact hacts entry (List.mem_cons_of_mem act hmem)

/-! ## Beginning to dial -/

/-- A caller stays at its stage or goes to another one; it dials only where no connection is found.
-/
def Turns (exchange : Exchange) (i : Nat) (errand : Errand) (exchange' : Exchange) : Prop :=
  exchange'.errands = exchange.errands ∨
    ∃ stage, exchange'.errands = exchange.errands.set i { errand with stage } ∧
      (stage = .dialing → exchange.registry.findTarget errand.uri = none)

/-- Going on to any other stage than that of dialing. -/
lemma Turns.of_ne {exchange' : Exchange} (h : exchange'.errands = exchange.errands)
    (hne : stage ≠ .dialing) : exchange.Turns i errand (exchange'.put i errand stage) := by
  refine Or.inr ⟨stage, ?_, fun hdialing => absurd hdialing hne⟩
  rw [put, h]

lemma turns_step (exchange : Exchange) (i : Nat) (errand : Errand) :
    exchange.Turns i errand (exchange.step i errand) := by
  unfold Exchange.step
  cases errand.stage with
  | looking =>
    cases exchange.registry.findTarget errand.uri with
    | some handle => exact .of_ne rfl (by simp)
    | none => exact .of_ne rfl (by simp)
  | waiting =>
    rcases exchange.locks.acquire i with ⟨locks, taken | taken⟩
    · exact Or.inl rfl
    · exact .of_ne rfl (by simp)
  | holding =>
    cases hfound : exchange.registry.findTarget errand.uri with
    | some handle => exact .of_ne rfl (by simp)
    | none => exact Or.inr ⟨.dialing, rfl, fun _ => hfound⟩
  | approaching | done | leaving | parting => exact .of_ne rfl (by simp)
  | dialing | ended => exact Or.inl rfl

lemma turns_conclude (exchange : Exchange) (i : Nat) (errand : Errand)
    (outcome : Except DialError Entry) :
    exchange.Turns i errand (exchange.conclude i errand outcome) := by
  unfold Exchange.conclude
  cases errand.stage with
  | dialing => exact .of_ne rfl (by simp)
  | _ => exact Or.inl rfl

lemma turns_cancel (exchange : Exchange) (i : Nat) (errand : Errand) :
    exchange.Turns i errand (exchange.cancel i errand) := by
  unfold Exchange.cancel
  cases errand.stage with
  | parting | ended => exact Or.inl rfl
  | _ => exact .of_ne rfl (by simp)

/-- A caller begins to dial only where no connection is found. -/
lemma findTarget_of_begins {act : Act} {b : Errand}
    (hb : (exchange.perform act).errands[i]? = some b) (hdialing : b.stage = .dialing)
    (hbefore : ∀ a, exchange.errands[i]? = some a → a.stage ≠ .dialing) :
    exchange.registry.findTarget b.uri = none := by
  have hsame : exchange.errands[i]? ≠ some b := fun hi => hbefore b hi hdialing
  have hturn : ∀ (j : Nat) (next : Errand → Exchange),
      (∀ errand, exchange.Turns j errand (next errand)) →
      (exchange.with? j next).errands[i]? = some b → exchange.registry.findTarget b.uri = none := by
    intro j next hnext hi
    unfold with? at hi
    split at hi
    · exact absurd hi hsame
    · next errand hj =>
      rcases hnext errand with hstay | ⟨stage, hset, hnone⟩
      · rw [hstay] at hi
        exact absurd hi hsame
      · -- it is the caller whose turn it is
        rw [hset] at hi
        by_cases hij : j = i
        · rw [hij, List.getElem?_set_self (List.getElem?_eq_some_iff.1 (hij ▸ hj)).1] at hi
          cases hi
          exact hnone hdialing
        · rw [List.getElem?_set_ne hij] at hi
          exact absurd hi hsame
  cases act with
  | operate op => exact absurd hb hsame
  | come uri =>
    have happend : (exchange.errands ++ [⟨uri, .looking⟩])[i]? = some b := hb
    rcases Nat.lt_or_ge i exchange.errands.length with hlt | hge
    · rw [List.getElem?_append_left hlt] at happend
      exact absurd happend hsame
    · rw [List.getElem?_append_right hge] at happend
      rw [List.mem_singleton.1 (List.mem_of_getElem? happend)] at hdialing
      cases hdialing
  | step j => exact hturn j _ (exchange.turns_step j) hb
  | conclude j outcome => exact hturn j _ (exchange.turns_conclude j · outcome) hb
  | cancel j => exact hturn j _ (exchange.turns_cancel j) hb

/-! ## The main result -/

/-- **One dial at a time.** Let callers come for any uris and take their steps in any order, let
attempts to connect fail or succeed and callers be cancelled, and let anything be done with the
registry besides, except that connections are dialed by callers only. Then at any moment at most one
caller dials a uri; a caller begins to dial only where no connection is found, and while it dials
there is no active connection that was dialed at its uri; and there are never two of them. -/
theorem one_dial_at_a_time {acts : List Act}
    (hacts : ∀ entry, Act.operate (.add entry) ∈ acts → entry.handle.target = none)
    {exchange : Exchange} (hexchange : exchange = ({} : Exchange).run acts) :
    (∀ (i j : Nat) (a b : Errand), exchange.errands[i]? = some a →
      exchange.errands[j]? = some b → a.stage = .dialing → b.stage = .dialing → a.uri = b.uri →
      i = j) ∧
    (∀ (act : Act) (i : Nat) (b : Errand), (exchange.perform act).errands[i]? = some b →
      b.stage = .dialing → (∀ a, exchange.errands[i]? = some a → a.stage ≠ .dialing) →
      exchange.registry.findTarget b.uri = none) ∧
    (∀ (i : Nat) (a : Errand), exchange.errands[i]? = some a → a.stage = .dialing →
      ∀ slot ∈ exchange.registry.slots, slot.handle.target = some a.uri →
        slot.state ≠ .active) ∧
    ∀ (uri : String), ∀ a ∈ exchange.registry.slots, ∀ b ∈ exchange.registry.slots,
      a.state = .active → b.state = .active → a.handle.target = some uri →
      b.handle.target = some uri → a = b := by
  subst hexchange
  have h : (({} : Exchange).run acts).Sound := sound_empty.run hacts
  refine ⟨?_, ?_, ?_, ?_⟩
  · intro i j a b hi hj ha hb huri
    exact h.attended.eq_of_dialing hi hj ha hb huri
  · intro act i b hb hdialing hbefore
    exact findTarget_of_begins hb hdialing hbefore
  · intro i a hi hdialing slot hslot htarget hactive
    have hnone := h.settled.unfound i a hi hdialing
    rw [h.settled.sole.findTarget h.settled.consistent hslot hactive htarget] at hnone
    cases hnone
  · intro uri a ha b hb hactive hactive' htarget htarget'
    exact h.settled.sole.eq_of_target h.settled.consistent ha hb hactive hactive' htarget htarget'

/-- Three callers come, two of them for the same uri. The first one fails; the second one is
cancelled while it dials, and a third caller for the uri, who has come meanwhile, dials instead. The
connection closes, and a fourth caller dials the uri again; the attempt for the other uri lasts. -/
def retried : List Act :=
  [.come "a:1", .come "a:1", .come "b:1", .step 0, .step 1, .step 2, .step 0, .step 1, .step 2,
    .step 0, .step 1, .step 2, .step 0, .step 2,
    .conclude 0 (.error (.connectRefused "a:1")), .step 0, .step 1, .step 1, .step 0,
    .come "a:1", .step 3, .step 3, .cancel 1, .step 3, .step 1, .step 0, .step 3,
    .conclude 3 (.ok ⟨⟨1, .outbound, .plain, .empty, none, none, 1⟩, .connecting⟩),
    .step 3, .step 3, .step 3, .operate (.beginDrain 0 1),
    .come "a:1", .step 4, .step 4, .step 4, .step 4,
    .conclude 4 (.ok ⟨⟨2, .outbound, .plain, .empty, none, none, 2⟩, .connecting⟩)]

theorem one_dial_at_a_time_of_retried :
    let exchange := ({} : Exchange).run retried
    let first : Handle := ⟨1, .outbound, .plain, .empty, some "a:1", none, 1⟩
    let second : Handle := ⟨2, .outbound, .plain, .empty, some "a:1", none, 2⟩
    exchange.errands =
        [⟨"a:1", .ended (some (.error (.connectRefused "a:1")))⟩, ⟨"a:1", .ended none⟩,
          ⟨"b:1", .dialing⟩, ⟨"a:1", .ended (some (.ok first))⟩, ⟨"a:1", .done (.ok second)⟩] ∧
      exchange.registry.slots = [{ handle := second }] ∧
      (∀ (j : Nat) (b : Errand), exchange.errands[j]? = some b → b.stage = .dialing →
        "b:1" = b.uri → 2 = j) ∧
      ∀ a ∈ exchange.registry.slots, ∀ b ∈ exchange.registry.slots, a.state = .active →
        b.state = .active → a.handle.target = some "a:1" → b.handle.target = some "a:1" →
        a = b := by
  intro exchange first second
  have hacts : ∀ entry, Act.operate (.add entry) ∈ retried → entry.handle.target = none := by
    intro entry hmem
    simp [retried] at hmem
  have herrands : exchange.errands =
      [⟨"a:1", .ended (some (.error (.connectRefused "a:1")))⟩, ⟨"a:1", .ended none⟩,
        ⟨"b:1", .dialing⟩, ⟨"a:1", .ended (some (.ok first))⟩, ⟨"a:1", .done (.ok second)⟩] := by
    decide
  have hsecond : exchange.errands[2]? = some ⟨"b:1", .dialing⟩ := by
    rw [herrands]
    rfl
  refine ⟨herrands, by decide, fun j b hj hb huri => ?_, ?_⟩
  · exact (one_dial_at_a_time hacts rfl).1 2 j _ b hsecond hj rfl hb huri
  · exact (one_dial_at_a_time hacts rfl).2.2.2 "a:1"

end Exchange

end CallDispatch
