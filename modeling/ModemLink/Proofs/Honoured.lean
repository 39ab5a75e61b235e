/-
Module: ModemLink.Proofs.Honoured
Purpose: Which timers of the wake locks are honoured, whatever the locks are asked to do.
Main exports:
  LockCall, LockSession, WakeLock.Touch, LockSession.Touched, touched_perform, HeldThroughout,
  heldThroughout_of_latest, count_heldThroughout, timers_honoured_once
-/
import Mathlib.Data.List.Chain
import ModemLink.Proofs.LockUsage

namespace ModemLink

/-!
Whoever runs the timers of the locks may show one late, again, or after its lock was given back and
taken anew.  A session is any sequence of calls to the two locks, with the timers they handed out,
each of which may be shown at any later point.  Five things can happen to a lock in a call
(`Touch`), and only where a timer is handed out can a free lock become held.  So a timer that is
still the latest one of its lock, which is held, belongs to the present hold; and it is the only one
that the generation of the lock lets through.
-/

/-! ## Calls to the system -/

/-- Whether an effect takes a lock from the system, or gives it back. -/
def Effect.holdCall? (id : LockId) : Effect → Option Bool
  | lockTaken other => if other = id then some true else none
  | lockGivenBack other => if other = id then some false else none
  | _ => none

/-- The calls to the system about a lock, in order: `true` takes it, `false` gives it back. -/
def holdCalls (id : LockId) (effects : List Effect) : List Bool :=
  effects.filterMap (Effect.holdCall? id)

theorem holdCalls_append (id : LockId) (effects more : List Effect) :
    holdCalls id (effects ++ more) = holdCalls id effects ++ holdCalls id more :=
  List.filterMap_append

theorem holdCalls_of_elsewhere {id : LockId} {effects : List Effect}
    (elsewhere : ∀ effect ∈ effects, effect.lock? ≠ some id) : holdCalls id effects = [] := by
  apply List.filterMap_eq_nil_iff.mpr
  intro effect member
  have apart := elsewhere effect member
  cases effect with
  | lockTaken other | lockGivenBack other =>
      exact if_neg fun same => apart (congrArg some same)
  | handed | acknowledged | settled | indicated | statusTold | measured => rfl

/-! ## One lock -/

namespace WakeLock

/-- What a call can do to a lock: the lock afterwards, the timer handed out, and the calls to the
system. -/
inductive Touch (lock : WakeLock) : WakeLock → Option LockTimer → List Bool → Prop where
  | left : Touch lock lock none []
  /-- One more reference to a held lock. -/
  | taken (now : Instant) (held : lock.count ≠ 0) (room : lock.count.toNat + 1 < UInt32.size) :
      Touch lock (lock.take now).1 none []
  /-- One more reference, with a timer. -/
  | armed (now : Instant) (room : lock.count.toNat + 1 < UInt32.size) :
      Touch lock ((lock.take now).1.arm now).2 (some ((lock.take now).1.arm now).1)
        (if lock.count = 0 then [true] else [])
  /-- One reference less of several. -/
  | dropped (several : 1 < lock.count.toNat) :
      Touch lock { lock with count := lock.count - 1 } none []
  | givenBack (now : Instant) (held : lock.count ≠ 0) :
      Touch lock (lock.giveBack now).1 none [false]

variable {lock after : WakeLock} {timer : Option LockTimer} {calls : List Bool}

theorem isHeld_iff_ne_zero : lock.isHeld = true ↔ lock.count ≠ 0 := by
  rw [Ne, ← isHeld_eq_false_iff, Bool.not_eq_false]

theorem toNat_pred {count : UInt32} (some : 0 < count.toNat) :
    (count - 1).toNat = count.toNat - 1 :=
  UInt32.toNat_sub_of_le _ _ (UInt32.le_iff_toNat_le.mpr some)

theorem holdCalls_take (lock : WakeLock) (now : Instant) :
    holdCalls lock.id (lock.take now).2 = if lock.count = 0 then [true] else [] := by
  unfold take
  split <;> simp [holdCalls, Effect.holdCall?]

theorem holdCalls_giveBack (lock : WakeLock) (now : Instant) :
    holdCalls lock.id (lock.giveBack now).2 = [false] := by
  cases since : lock.heldSince <;> simp [giveBack, since, holdCalls, Effect.holdCall?]

variable {name : LockId}

theorem touch_take (named : lock.id = name) (now : Instant) (held : lock.count ≠ 0)
    (room : lock.count.toNat + 1 < UInt32.size) :
    lock.Touch (lock.take now).1 none (holdCalls name (lock.take now).2) := by
  rw [← named, holdCalls_take, if_neg held]
  exact .taken now held room

theorem touch_arm (named : lock.id = name) (now : Instant)
    (room : lock.count.toNat + 1 < UInt32.size) :
    lock.Touch ((lock.take now).1.arm now).2 (some ((lock.take now).1.arm now).1)
      (holdCalls name (lock.take now).2) := by
  rw [← named, holdCalls_take]
  exact .armed now room

theorem touch_giveBack (named : lock.id = name) (now : Instant) (held : lock.count ≠ 0) :
    lock.Touch (lock.giveBack now).1 none (holdCalls name (lock.giveBack now).2) := by
  rw [← named, holdCalls_giveBack]
  exact .givenBack now held

theorem touch_drop (named : lock.id = name) (now : Instant) :
    lock.Touch (lock.drop now).1 none (holdCalls name (lock.drop now).2) := by
  by_cases free : lock.count = 0
  · rw [drop, if_pos free]
    exact .left
  · by_cases last : lock.count = 1
    · rw [drop, if_neg free, if_pos last]
      exact touch_giveBack named now free
    · rw [drop, if_neg free, if_neg last]
      have several : 1 < lock.count.toNat := by
        have one : lock.count.toNat ≠ 1 := fun single => last (UInt32.toNat_inj.mp single)
        have some := mt count_eq_zero_iff.mpr free
        omega
      exact .dropped several

theorem touch_clear (named : lock.id = name) (now : Instant) :
    lock.Touch (lock.clear now).1 none (holdCalls name (lock.clear now).2) := by
  by_cases free : lock.count = 0
  · rw [clear, if_pos free]
    exact .left
  · rw [clear, if_neg free]
    exact touch_giveBack named now free

theorem touch_expire (named : lock.id = name) (generation : UInt64) (now : Instant) :
    lock.Touch (lock.expire generation now).2.1 none
      (holdCalls name (lock.expire generation now).2.2) := by
  unfold expire
  split
  · rename_i honoured
    exact touch_giveBack named now honoured.2
  · exact .left

namespace Touch

theorem id (touch : lock.Touch after timer calls) : after.id = lock.id := by
  cases touch with
  | left | dropped | givenBack => rfl
  | taken now | armed now => exact id_take lock now

/-- The system is called exactly where the hold changes. -/
theorem calls_eq (touch : lock.Touch after timer calls) :
    calls = if after.isHeld = lock.isHeld then [] else [after.isHeld] := by
  cases touch with
  | left => exact (if_pos rfl).symm
  | taken now held room => rw [isHeld_take now room, isHeld_iff_ne_zero.mpr held, if_pos rfl]
  | armed now room =>
      have armed : ((lock.take now).1.arm now).2.isHeld = true := isHeld_take now room
      rw [armed]
      by_cases free : lock.count = 0
      · rw [if_pos free, isHeld_eq_false_iff.mpr free]
        rfl
      · rw [if_neg free, isHeld_iff_ne_zero.mpr free, if_pos rfl]
  | dropped several =>
      have kept : ({ lock with count := lock.count - 1 } : WakeLock).isHeld = true := by
        rw [isHeld_iff]
        show 0 < (lock.count - 1).toNat
        rw [toNat_pred (Nat.lt_of_succ_lt several)]
        exact Nat.sub_pos_of_lt several
      have held : lock.isHeld = true := isHeld_iff.mpr (Nat.lt_of_succ_lt several)
      rw [kept, held, if_pos rfl]
  | givenBack now held =>
      rw [isHeld_iff_ne_zero.mpr held]
      rfl

/-- The generation counts the timers. -/
theorem generation (touch : lock.Touch after timer calls) :
    after.generation = lock.generation + UInt64.ofNat timer.toList.length := by
  have kept : ∀ now, (lock.take now).1.generation = lock.generation := by
    intro now
    unfold take
    split <;> rfl
  cases touch with
  | left | dropped | givenBack => exact (UInt64.add_zero _).symm
  | taken now => exact (kept now).trans (UInt64.add_zero _).symm
  | armed now => exact congrArg (· + 1) (kept now)

/-- A timer that is handed out is the lock's own and its latest. -/
theorem own {one : LockTimer} (touch : lock.Touch after (some one) calls) :
    one.lock = lock.id ∧ one.generation = after.generation ∧ after.isHeld = true := by
  cases touch with
  | armed now room => exact ⟨id_take lock now, rfl, isHeld_take now room⟩

/-- Without a timer handed out no free lock is taken. -/
theorem held_before (touch : lock.Touch after none calls) (held : after.isHeld = true) :
    lock.isHeld = true := by
  cases touch with
  | left => exact held
  | taken now taken => exact isHeld_iff_ne_zero.mpr taken
  | dropped several => exact isHeld_iff.mpr (Nat.lt_of_succ_lt several)
  | givenBack now given => cases held

end Touch

end WakeLock

/-! ## Sessions -/

/-- One thing that the locks can be asked to do.  A timer is shown to them by its place among those
they handed out. -/
inductive LockCall where
  | acquire (now : Instant)
  | release (now : Instant)
  | holdForAck (now : Instant)
  | releaseAll (now : Instant)
  | fire (place : Nat) (now : Instant)

/-- Two locks, and what came of the calls to them. -/
structure LockSession where
  locks : WakeLocks
  /-- The timers handed out, oldest first. -/
  timers : List LockTimer
  /-- What was done to the system, oldest first. -/
  history : List Effect

namespace LockSession

/-- Both locks free, and nothing done yet. -/
def opened (ceiling ackHold : Span) : LockSession :=
  ⟨.free ceiling ackHold, [], []⟩

/-- The session after a call that leaves other locks, and may hand out a timer. -/
def grow (session : LockSession) (timer : Option LockTimer) (locks : WakeLocks)
    (effects : List Effect) : LockSession :=
  ⟨locks, session.timers ++ timer.toList, session.history ++ effects⟩

/-- One call. -/
def perform (session : LockSession) : LockCall → LockSession
  | .acquire now =>
    match session.locks.acquire now with
    | (timer, locks, effects) => session.grow timer locks effects
  | .release now =>
    match session.locks.release now with
    | (locks, effects) => session.grow none locks effects
  | .holdForAck now =>
    match session.locks.holdForAck now with
    | (timer, locks, effects) => session.grow (some timer) locks effects
  | .releaseAll now =>
    match session.locks.releaseAll now with
    | (locks, effects) => session.grow none locks effects
  | .fire place now =>
    match session.timers[place]? with
    | none => session
    | some timer =>
      match session.locks.onTimer timer now with
      | (_, locks, effects) => session.grow none locks effects

/-- Some calls, one after the other. -/
def performAll (session : LockSession) (calls : List LockCall) : LockSession :=
  calls.foldl perform session

/-- The counter that a call increases has room for one more reference. -/
def HasRoomFor (session : LockSession) : LockCall → Prop
  | .acquire _ => session.locks.primary.count.toNat + 1 < UInt32.size
  | .holdForAck _ => session.locks.ack.count.toNat + 1 < UInt32.size
  | .release _ | .releaseAll _ | .fire _ _ => True

/-- Each of some calls finds room. -/
def HasRoom : LockSession → List LockCall → Prop
  | _, [] => True
  | session, call :: rest => session.HasRoomFor call ∧ (session.perform call).HasRoom rest

instance (session : LockSession) : (call : LockCall) → Decidable (session.HasRoomFor call)
  | .acquire _ | .holdForAck _ => inferInstanceAs (Decidable (_ < _))
  | .release _ | .releaseAll _ | .fire _ _ => inferInstanceAs (Decidable True)

instance decidableHasRoom : (session : LockSession) → (calls : List LockCall) →
    Decidable (session.HasRoom calls)
  | _, [] => inferInstanceAs (Decidable True)
  | session, call :: rest =>
    have := decidableHasRoom (session.perform call) rest
    inferInstanceAs (Decidable (session.HasRoomFor call ∧ (session.perform call).HasRoom rest))

/-- Whether a call is about a lock. -/
def concerns (session : LockSession) (id : LockId) : LockCall → Bool
  | .acquire _ | .release _ => id = .primary
  | .holdForAck _ => id = .ack
  | .releaseAll _ => true
  | .fire place _ => session.timers[place]?.any (·.lock = id)

/-- The timers of a lock that were handed out, oldest first. -/
def timersOf (session : LockSession) (id : LockId) : List LockTimer :=
  session.timers.filter (·.lock = id)

/-- The calls to the system about a lock, oldest first. -/
def usage (session : LockSession) (id : LockId) : List Bool :=
  holdCalls id session.history

/-- A lock is held all along some calls, from before the first to after the last. -/
def HeldThroughout (id : LockId) : LockSession → List LockCall → Prop
  | session, [] => (session.locks.lock id).isHeld = true
  | session, call :: rest =>
    (session.locks.lock id).isHeld = true ∧ (session.perform call).HeldThroughout id rest

instance decidableHeldThroughout (id : LockId) : (session : LockSession) →
    (calls : List LockCall) → Decidable (session.HeldThroughout id calls)
  | session, [] => inferInstanceAs (Decidable ((session.locks.lock id).isHeld = true))
  | session, call :: rest =>
    have := decidableHeldThroughout id (session.perform call) rest
    inferInstanceAs (Decidable
      ((session.locks.lock id).isHeld = true ∧ (session.perform call).HeldThroughout id rest))

/-! ## One call -/

/-- The session after a call that replaces one lock. -/
def put (session : LockSession) (id : LockId) (timer : Option LockTimer) (lock : WakeLock)
    (effects : List Effect) : LockSession :=
  match id with
  | .primary => session.grow timer { session.locks with primary := lock } effects
  | .ack => session.grow timer { session.locks with ack := lock } effects

/-- Nothing about a lock changed. -/
structure Untouched (id : LockId) (before after : LockSession) : Prop where
  lock : after.locks.lock id = before.locks.lock id
  timers : after.timersOf id = before.timersOf id
  usage : after.usage id = before.usage id

/-- One thing at most happened to a lock. -/
def Touched (id : LockId) (before after : LockSession) : Prop :=
  ∃ timer calls, (before.locks.lock id).Touch (after.locks.lock id) timer calls ∧
    after.timersOf id = before.timersOf id ++ timer.toList ∧
    after.usage id = before.usage id ++ calls

variable {session before after first middle last : LockSession} {id other : LockId}
  {timer : Option LockTimer} {lock : WakeLock} {effects : List Effect}

theorem Untouched.refl (session : LockSession) : Untouched id session session :=
  ⟨rfl, rfl, rfl⟩

theorem Untouched.touched (untouched : Untouched id before after) : Touched id before after := by
  refine ⟨none, [], ?_, ?_, ?_⟩
  · rw [untouched.lock]
    exact .left
  · rw [untouched.timers]
    exact (List.append_nil _).symm
  · rw [untouched.usage]
    exact (List.append_nil _).symm

theorem Touched.andThen (touched : Touched id first middle) (untouched : Untouched id middle last) :
    Touched id first last := by
  obtain ⟨timer, calls, touch, timers, usage⟩ := touched
  exact ⟨timer, calls, untouched.lock ▸ touch, untouched.timers.trans timers,
    untouched.usage.trans usage⟩

theorem Untouched.andThen (untouched : Untouched id first middle)
    (touched : Touched id middle last) : Touched id first last := by
  obtain ⟨timer, calls, touch, timers, usage⟩ := touched
  rw [untouched.lock] at touch
  rw [untouched.timers] at timers
  rw [untouched.usage] at usage
  exact ⟨timer, calls, touch, timers, usage⟩

theorem locks_put_self : (session.put id timer lock effects).locks.lock id = lock := by
  cases id <;> rfl

theorem timersOf_put : (session.put id timer lock effects).timersOf other =
    session.timersOf other ++ timer.toList.filter (·.lock = other) := by
  cases id <;> exact List.filter_append _ _

theorem usage_put : (session.put id timer lock effects).usage other =
    session.usage other ++ holdCalls other effects := by
  cases id <;> exact holdCalls_append _ _ _

theorem touched_put (named : (session.locks.lock id).id = id)
    (touch : (session.locks.lock id).Touch lock timer (holdCalls id effects)) :
    Touched id session (session.put id timer lock effects) := by
  refine ⟨timer, _, ?_, ?_, usage_put⟩
  · rw [locks_put_self]
    exact touch
  · rw [timersOf_put, List.filter_eq_self.mpr]
    intro one handed
    cases timer with
    | none => cases handed
    | some fresh =>
        rw [List.mem_singleton.mp handed]
        exact decide_eq_true (touch.own.1.trans named)

theorem untouched_put (apart : other ≠ id) (own : ∀ one ∈ timer.toList, one.lock = id)
    (about : ∀ effect ∈ effects, effect.lock? = some id) :
    Untouched other session (session.put id timer lock effects) := by
  refine ⟨?_, ?_, ?_⟩
  · cases id <;> cases other <;> first | rfl | exact absurd rfl apart
  · rw [timersOf_put, List.filter_eq_nil_iff.mpr, List.append_nil]
    intro one handed same
    exact apart ((of_decide_eq_true same).symm.trans (own one handed))
  · rw [usage_put, holdCalls_of_elsewhere, List.append_nil]
    intro effect member here
    exact apart (Option.some.inj (here.symm.trans (about effect member)))

/-- What a call about one lock comes to. -/
structure OnOne (session after : LockSession) (id : LockId) (timer : Option LockTimer)
    (lock : WakeLock) (effects : List Effect) : Prop where
  put : after = session.put id timer lock effects
  touch : (session.locks.lock id).Touch lock timer (holdCalls id effects)
  about : ∀ effect ∈ effects, effect.lock? = some id

theorem OnOne.untouched_put_of_ne (onOne : session.OnOne after id timer lock effects)
    (named : session.locks.Named) (apart : other ≠ id) :
    Untouched other session (session.put id timer lock effects) := by
  refine untouched_put apart ?_ onOne.about
  intro one handed
  have touch := onOne.touch
  cases timer with
  | none => cases handed
  | some fresh =>
      rw [List.mem_singleton.mp handed]
      exact touch.own.1.trans (named id)

theorem onOne_acquire (named : session.locks.Named) (now : Instant)
    (room : session.HasRoomFor (.acquire now)) :
    ∃ timer lock effects, session.OnOne (session.perform (.acquire now)) .primary timer lock
      effects := by
  have own : session.locks.primary.id = .primary := named .primary
  have about : ∀ effect ∈ (session.locks.primary.take now).2, effect.lock? = some .primary :=
    fun effect member => own ▸ WakeLock.lock_of_mem_take member
  by_cases free : session.locks.primary.count = 0
  · refine ⟨_, _, _, ?_, WakeLock.touch_arm own now room, about⟩
    simp only [perform, WakeLocks.acquire, if_pos free]
    rfl
  · refine ⟨_, _, _, ?_, WakeLock.touch_take own now free room, about⟩
    simp only [perform, WakeLocks.acquire, if_neg free]
    rfl

/-- A timer that is shown touches its own lock. -/
theorem onOne_onTimer (named : session.locks.Named) (shown : LockTimer) (now : Instant) :
    ∃ lock effects, session.OnOne
      (session.grow none (session.locks.onTimer shown now).2.1
        (session.locks.onTimer shown now).2.2)
      shown.lock none lock effects := by
  have touch := fun id => WakeLock.touch_expire (named id) shown.generation now
  have about : ∀ id, ∀ effect ∈ ((session.locks.lock id).expire shown.generation now).2.2,
      effect.lock? = some id := by
    intro id effect member
    rw [WakeLock.lock_of_mem_expire member, named id]
  cases own : shown.lock with
  | primary =>
      have touch := touch .primary
      have about := about .primary
      rcases expired : session.locks.primary.expire shown.generation now with
        ⟨_ | told, primary, effects⟩
      · simp only [WakeLocks.onTimer, own, expired]
        exact ⟨session.locks.primary, [], rfl, .left, by simp⟩
      · simp only [WakeLocks.onTimer, own, expired]
        simp only [WakeLocks.lock, expired] at touch about
        refine ⟨primary, effects ++ [.measured (.lockTimedOut .primary)], rfl, ?_, ?_⟩
        · have same : holdCalls .primary (effects ++ [.measured (.lockTimedOut .primary)]) =
              holdCalls .primary effects := by
            rw [holdCalls_append]
            exact List.append_nil _
          rw [same]
          exact touch
        · intro effect member
          rcases List.mem_append.mp member with given | sample
          · exact about effect given
          · rw [List.mem_singleton.mp sample]
            rfl
  | ack =>
      have touch := touch .ack
      have about := about .ack
      rcases expired : session.locks.ack.expire shown.generation now with ⟨_ | told, ack, effects⟩
      · simp only [WakeLocks.onTimer, own, expired]
        exact ⟨session.locks.ack, [], rfl, .left, by simp⟩
      · simp only [WakeLocks.onTimer, own, expired]
        simp only [WakeLocks.lock, expired] at touch about
        exact ⟨ack, effects, rfl, touch, about⟩

theorem perform_cases (named : session.locks.Named) {call : LockCall}
    (room : session.HasRoomFor call) (single : ∀ now, call ≠ .releaseAll now) :
    session.perform call = session ∨
      ∃ id timer lock effects, session.concerns id call = true ∧
        session.OnOne (session.perform call) id timer lock effects := by
  cases call with
  | acquire now =>
      obtain ⟨timer, lock, effects, onOne⟩ := onOne_acquire named now room
      exact Or.inr ⟨.primary, timer, lock, effects, rfl, onOne⟩
  | release now =>
      have own : session.locks.primary.id = .primary := named .primary
      have about : ∀ effect ∈ (session.locks.primary.drop now).2, effect.lock? = some .primary :=
        fun effect member => own ▸ WakeLock.lock_of_mem_drop member
      exact Or.inr ⟨.primary, none, _, _, rfl, rfl, WakeLock.touch_drop own now, about⟩
  | holdForAck now =>
      have own : session.locks.ack.id = .ack := named .ack
      have about : ∀ effect ∈ (session.locks.ack.take now).2, effect.lock? = some .ack :=
        fun effect member => own ▸ WakeLock.lock_of_mem_take member
      exact Or.inr ⟨.ack, some _, _, _, rfl, rfl, WakeLock.touch_arm own now room, about⟩
  | releaseAll now => exact absurd rfl (single now)
  | fire place now =>
      cases handed : session.timers[place]? with
      | none =>
          refine Or.inl ?_
          simp only [perform, handed]
      | some shown =>
          obtain ⟨lock, effects, onOne⟩ := onOne_onTimer named shown now
          refine Or.inr ⟨shown.lock, none, lock, effects, ?_, ?_⟩
          · simp [concerns, handed]
          · simp only [perform, handed]
            exact onOne

theorem OnOne.touched (onOne : session.OnOne after id timer lock effects)
    (named : session.locks.Named) (other : LockId) : Touched other session after := by
  rw [onOne.put]
  by_cases same : other = id
  · rw [same]
    exact touched_put (named id) onOne.touch
  · exact (onOne.untouched_put_of_ne named same).touched

/-- Both locks are given back, one after the other. -/
theorem perform_releaseAll (session : LockSession) (now : Instant) :
    session.perform (.releaseAll now) =
      (session.put .primary none (session.locks.primary.clear now).1
        (session.locks.primary.clear now).2).put .ack none (session.locks.ack.clear now).1
        (session.locks.ack.clear now).2 := by
  simp [perform, WakeLocks.releaseAll, put, grow]

theorem touched_perform (named : session.locks.Named) {call : LockCall}
    (room : session.HasRoomFor call) (id : LockId) : Touched id session (session.perform call) := by
  by_cases both : ∃ now, call = .releaseAll now
  · obtain ⟨now, rfl⟩ := both
    have aboutPrimary : ∀ effect ∈ (session.locks.primary.clear now).2,
        effect.lock? = some .primary := by
      intro effect member
      exact (WakeLock.lock_of_mem_clear member).trans (congrArg some (named .primary))
    have aboutAck : ∀ effect ∈ (session.locks.ack.clear now).2, effect.lock? = some .ack := by
      intro effect member
      exact (WakeLock.lock_of_mem_clear member).trans (congrArg some (named .ack))
    rw [perform_releaseAll]
    cases id with
    | primary =>
        exact (touched_put (named .primary) (WakeLock.touch_clear (named .primary) now)).andThen
          (untouched_put (by simp) (by simp) aboutAck)
    | ack =>
        exact (untouched_put (by simp) (by simp) aboutPrimary).andThen
          (touched_put (named .ack) (WakeLock.touch_clear (named .ack) now))
  · rcases perform_cases named room (not_exists.mp both) with same | ⟨one, _, _, _, _, onOne⟩
    · rw [same]
      exact (Untouched.refl session).touched
    · exact onOne.touched named id

/-- A call that is not about a lock does nothing to it. -/
theorem untouched_perform (named : session.locks.Named) {call : LockCall}
    (room : session.HasRoomFor call) (aside : session.concerns id call = false) :
    Untouched id session (session.perform call) := by
  have single : ∀ now, call ≠ .releaseAll now := by
    rintro now rfl
    cases aside
  rcases perform_cases named room single with same | ⟨one, _, _, _, about, onOne⟩
  · rw [same]
    exact .refl session
  · rw [onOne.put]
    apply onOne.untouched_put_of_ne named
    rintro rfl
    rw [about] at aside
    cases aside

theorem named_perform (named : session.locks.Named) {call : LockCall}
    (room : session.HasRoomFor call) : (session.perform call).locks.Named := by
  intro id
  obtain ⟨timer, calls, touch, -, -⟩ := touched_perform named room id
  exact touch.id.trans (named id)

/-! ## Many calls -/

theorem performAll_append (session : LockSession) (earlier later : List LockCall) :
    session.performAll (earlier ++ later) = (session.performAll earlier).performAll later :=
  List.foldl_append

theorem HasRoom.split {earlier later : List LockCall} (room : session.HasRoom (earlier ++ later)) :
    session.HasRoom earlier ∧ (session.performAll earlier).HasRoom later := by
  induction earlier generalizing session with
  | nil => exact ⟨trivial, room⟩
  | cons call rest ih =>
      obtain ⟨inRest, inLater⟩ := ih room.2
      exact ⟨⟨room.1, inRest⟩, inLater⟩

theorem named_performAll (named : session.locks.Named) {calls : List LockCall}
    (room : session.HasRoom calls) : (session.performAll calls).locks.Named := by
  induction calls generalizing session with
  | nil => exact named
  | cons call rest ih => exact ih (named_perform named room.1) room.2

/-- The calls to the system about a lock alternate, and tell whether it is held. -/
structure Alternates (id : LockId) (session : LockSession) : Prop where
  chain : (false :: session.usage id).IsChain (· ≠ ·)
  last : (false :: session.usage id).getLast? = some (session.locks.lock id).isHeld

theorem Alternates.onward (alternates : Alternates id before) (touched : Touched id before after) :
    Alternates id after := by
  obtain ⟨timer, calls, touch, -, usage⟩ := touched
  have called := touch.calls_eq
  by_cases same : (after.locks.lock id).isHeld = (before.locks.lock id).isHeld
  · rw [if_pos same] at called
    rw [called, List.append_nil] at usage
    exact ⟨usage ▸ alternates.chain, by rw [usage, same]; exact alternates.last⟩
  · rw [if_neg same] at called
    rw [called] at usage
    refine ⟨?_, ?_⟩
    · rw [usage, ← List.cons_append, List.isChain_append]
      refine ⟨alternates.chain, .singleton _, ?_⟩
      intro earlier last later first
      rw [alternates.last] at last
      cases last
      cases first
      exact Ne.symm same
    · rw [usage, ← List.cons_append, List.getLast?_concat]

theorem Alternates.taken_iff (alternates : Alternates id session) :
    (session.usage id).getLast? = some true ↔ 0 < (session.locks.lock id).count := by
  have last := alternates.last
  rw [List.getLast?_cons] at last
  have held : (session.usage id).getLast?.getD false = (session.locks.lock id).isHeld :=
    Option.some.inj last
  have counter : (session.locks.lock id).isHeld = true ↔ 0 < (session.locks.lock id).count :=
    decide_eq_true_iff
  rw [← counter, ← held]
  cases (session.usage id).getLast? <;> simp

theorem alternates_performAll (named : session.locks.Named) {calls : List LockCall}
    (room : session.HasRoom calls) (alternates : Alternates id session) :
    Alternates id (session.performAll calls) := by
  induction calls generalizing session with
  | nil => exact alternates
  | cons call rest ih =>
      exact ih (named_perform named room.1) room.2
        (alternates.onward (touched_perform named room.1 id))

/-- The generation of a lock counts the timers it handed out. -/
theorem generation_performAll (named : session.locks.Named) {calls : List LockCall}
    (room : session.HasRoom calls) (id : LockId) :
    ∃ later, (session.performAll calls).timersOf id = session.timersOf id ++ later ∧
      ((session.performAll calls).locks.lock id).generation =
        (session.locks.lock id).generation + UInt64.ofNat later.length := by
  induction calls generalizing session with
  | nil => exact ⟨[], (List.append_nil _).symm, (UInt64.add_zero _).symm⟩
  | cons call rest ih =>
      obtain ⟨timer, _, touch, handed, -⟩ := touched_perform named room.1 id
      obtain ⟨later, grown, generation⟩ := ih (named_perform named room.1) room.2
      refine ⟨timer.toList ++ later, ?_, ?_⟩
      · rw [← List.append_assoc, ← handed]
        exact grown
      · rw [List.length_append, UInt64.ofNat_add, ← UInt64.add_assoc, ← touch.generation]
        exact generation

theorem isHeld_of_heldThroughout {calls : List LockCall}
    (held : session.HeldThroughout id calls) : (session.locks.lock id).isHeld = true := by
  cases calls with
  | nil => exact held
  | cons call rest => exact held.1

/-- A lock that is held in the end, and has handed out no timer meanwhile, was held throughout. -/
theorem heldThroughout_of_latest (named : session.locks.Named) {calls : List LockCall}
    (room : session.HasRoom calls)
    (latest : (session.performAll calls).timersOf id = session.timersOf id)
    (held : ((session.performAll calls).locks.lock id).isHeld = true) :
    session.HeldThroughout id calls := by
  induction calls generalizing session with
  | nil => exact held
  | cons call rest ih =>
      obtain ⟨timer, _, touch, handed, -⟩ := touched_perform named room.1 id
      have afterwards := named_perform named room.1
      obtain ⟨later, grown, -⟩ := generation_performAll afterwards room.2 id
      have none : timer.toList ++ later = [] := by
        rw [handed, List.append_assoc] at grown
        exact List.append_right_eq_self.mp (grown.symm.trans latest)
      obtain ⟨noTimer, noLater⟩ := List.append_eq_nil_iff.mp none
      rw [noLater, List.append_nil] at grown
      have rest := ih afterwards room.2 grown held
      cases Option.toList_eq_nil_iff.mp noTimer
      exact ⟨touch.held_before (isHeld_of_heldThroughout rest), rest⟩

theorem heldThroughout_end {calls : List LockCall} (held : session.HeldThroughout id calls) :
    ((session.performAll calls).locks.lock id).isHeld = true := by
  induction calls generalizing session with
  | nil => exact held
  | cons call rest ih => exact ih held.2

/-! ## References in a hold -/

/-- How many references to the primary lock some calls take. -/
def acquires (calls : List LockCall) : Nat :=
  calls.countP fun | .acquire _ => true | _ => false

/-- How many references to the primary lock some calls drop, if it is held. -/
def releases (calls : List LockCall) : Nat :=
  calls.countP fun | .release _ => true | _ => false

theorem acquires_cons (call : LockCall) (rest : List LockCall) :
    acquires (call :: rest) = acquires [call] + acquires rest := by
  rw [acquires, acquires, acquires, ← List.countP_append]
  rfl

theorem releases_cons (call : LockCall) (rest : List LockCall) :
    releases (call :: rest) = releases [call] + releases rest := by
  rw [releases, releases, releases, ← List.countP_append]
  rfl

/-- A call in a hold of the primary lock that does not end it. -/
theorem count_perform {call : LockCall} (room : session.HasRoomFor call)
    (before : session.locks.primary.isHeld = true)
    (after : (session.perform call).locks.primary.isHeld = true) :
    (session.perform call).locks.primary.count.toNat + releases [call] =
      session.locks.primary.count.toNat + acquires [call] := by
  cases call with
  | acquire now =>
      have held : session.locks.primary.count ≠ 0 := WakeLock.isHeld_iff_ne_zero.mp before
      have taken : (session.perform (.acquire now)).locks.primary =
          (session.locks.primary.take now).1 := by
        simp only [perform, WakeLocks.acquire, if_neg held]
        rfl
      rw [taken, WakeLock.count_take now room]
      rfl
  | release now =>
      have some : session.locks.primary.count.toNat ≠ 0 :=
        Nat.ne_of_gt (WakeLock.isHeld_iff.mp before)
      obtain ⟨left, references⟩ := Nat.exists_eq_succ_of_ne_zero some
      have dropped : (session.perform (.release now)).locks.primary.count.toNat = left :=
        WakeLock.count_drop now references
      rw [dropped, references]
      rfl
  | holdForAck now => rfl
  | releaseAll now =>
      exact absurd (WakeLock.count_clear _ now) (WakeLock.isHeld_iff_ne_zero.mp after)
  | fire place now =>
      cases handed : session.timers[place]? with
      | none =>
          simp only [perform, handed]
          rfl
      | some shown =>
          simp only [perform, handed] at after ⊢
          cases own : shown.lock with
          | primary =>
              rcases expired : session.locks.primary.expire shown.generation now with
                ⟨_ | told, primary, effects⟩
              · simp only [WakeLocks.onTimer, own, expired]
                rfl
              · simp only [WakeLocks.onTimer, own, expired] at after
                have free := (WakeLock.expire_eq_some expired).2.1
                exact absurd free (WakeLock.isHeld_iff_ne_zero.mp after)
          | ack =>
              rcases expired : session.locks.ack.expire shown.generation now with
                ⟨_ | told, ack, effects⟩
              · simp only [WakeLocks.onTimer, own, expired]
                rfl
              · simp only [WakeLocks.onTimer, own, expired]
                rfl

theorem count_heldThroughout {calls : List LockCall} (room : session.HasRoom calls)
    (held : session.HeldThroughout .primary calls) :
    (session.performAll calls).locks.primary.count.toNat + releases calls =
      session.locks.primary.count.toNat + acquires calls := by
  induction calls generalizing session with
  | nil => rfl
  | cons call rest ih =>
      have one := count_perform room.1 held.1 (isHeld_of_heldThroughout held.2)
      have later : (session.performAll (call :: rest)).locks.primary.count.toNat + releases rest =
          (session.perform call).locks.primary.count.toNat + acquires rest := ih room.2 held.2
      rw [acquires_cons, releases_cons]
      omega

/-! ## Timers -/

/-- A timer is handed out as the latest of its lock, which is held then. -/
theorem handed_out (named : session.locks.Named) {call : LockCall}
    (room : session.HasRoomFor call) {timer : LockTimer}
    (handed : (session.perform call).timers = session.timers ++ [timer]) :
    timer.generation = ((session.perform call).locks.lock timer.lock).generation ∧
      ((session.perform call).locks.lock timer.lock).isHeld = true := by
  obtain ⟨started, _, touch, timers, -⟩ := touched_perform named room timer.lock
  have own : (session.perform call).timersOf timer.lock =
      session.timersOf timer.lock ++ [timer] := by
    rw [timersOf, handed, List.filter_append]
    simp [timersOf]
  have same : started.toList = [timer] := List.append_cancel_left (timers.symm.trans own)
  cases started with
  | none => cases same
  | some one =>
      cases same
      exact touch.own.2

/-- The primary lock hands out a timer only where a hold begins. -/
theorem handed_out_primary (named : session.locks.Named) {call : LockCall}
    (room : session.HasRoomFor call) {timer : LockTimer}
    (handed : (session.perform call).timers = session.timers ++ [timer])
    (own : timer.lock = .primary) :
    session.locks.primary.count = 0 ∧
      (session.perform call).locks.primary.count.toNat + releases [call] = acquires [call] := by
  have started : ∀ {none : List LockTimer}, session.timers ++ none = session.timers ++ [timer] →
      none = [timer] := List.append_cancel_left
  cases call with
  | acquire now =>
      by_cases free : session.locks.primary.count = 0
      · have taken : (session.perform (.acquire now)).locks.primary =
            ((session.locks.primary.take now).1.arm now).2 := by
          simp only [perform, WakeLocks.acquire, if_pos free]
          rfl
        refine ⟨free, ?_⟩
        rw [taken]
        show (session.locks.primary.take now).1.count.toNat + 0 = 1
        rw [WakeLock.count_take now room, WakeLock.count_eq_zero_iff.mp free]
      · simp only [perform, WakeLocks.acquire, if_neg free] at handed
        cases started handed
  | holdForAck now =>
      have same : ((session.locks.ack.take now).1.arm now).1 = timer :=
        List.singleton_inj.mp (started handed)
      have ack : timer.lock = .ack :=
        same ▸ (WakeLock.id_take session.locks.ack now).trans (named .ack)
      cases own.symm.trans ack
  | release now | releaseAll now => cases started handed
  | fire place now =>
      simp only [perform] at handed
      split at handed
      · cases started ((List.append_nil _).trans handed)
      · cases started handed

/-- A timer of the latest generation of a held lock is honoured. -/
theorem onTimer_of_latest (locks : WakeLocks) {timer : LockTimer}
    (latest : timer.generation = (locks.lock timer.lock).generation)
    (held : (locks.lock timer.lock).isHeld = true) (now : Instant) :
    (locks.onTimer timer now).1 =
        (match timer.lock with
        | .primary => .timedOut locks.primary.count
        | .ack => .released) ∧
      ((locks.onTimer timer now).2.1.lock timer.lock).count = 0 := by
  have some : (locks.lock timer.lock).count ≠ 0 := WakeLock.isHeld_iff_ne_zero.mp held
  have expired : (locks.lock timer.lock).expire timer.generation now =
      (.some (locks.lock timer.lock).count, (locks.lock timer.lock).giveBack now) :=
    if_pos ⟨latest, some⟩
  cases own : timer.lock with
  | primary =>
      rw [own] at expired
      have expired : locks.primary.expire timer.generation now =
        (.some locks.primary.count, locks.primary.giveBack now) := expired
      simp only [WakeLocks.onTimer, own, expired, true_and]
      rfl
  | ack =>
      rw [own] at expired
      have expired : locks.ack.expire timer.generation now =
        (.some locks.ack.count, locks.ack.giveBack now) := expired
      simp only [WakeLocks.onTimer, own, expired, true_and]
      rfl

/-- Every other timer is stale and does nothing. -/
theorem onTimer_of_stale (locks : WakeLocks) {timer : LockTimer}
    (stale : ¬ (timer.generation = (locks.lock timer.lock).generation ∧
      (locks.lock timer.lock).isHeld = true)) (now : Instant) :
    locks.onTimer timer now = (.stale, locks, []) := by
  have refused : (locks.lock timer.lock).expire timer.generation now =
      (none, locks.lock timer.lock, []) := by
    apply if_neg
    rintro ⟨latest, some⟩
    exact stale ⟨latest, WakeLock.isHeld_iff_ne_zero.mpr some⟩
  cases own : timer.lock with
  | primary =>
      rw [own] at refused
      have refused : locks.primary.expire timer.generation now = (none, locks.primary, []) :=
        refused
      simp only [WakeLocks.onTimer, own, refused]
  | ack =>
      rw [own] at refused
      have refused : locks.ack.expire timer.generation now = (none, locks.ack, []) := refused
      simp only [WakeLocks.onTimer, own, refused]

section LatestTimer

variable (named : session.locks.Named) {calls : List LockCall} (room : session.HasRoom calls)
  {timer : LockTimer} (latest : timer.generation = (session.locks.lock timer.lock).generation)

include named room latest

/-- A timer with no newer one of its lock, which is held throughout, is of the generation there. -/
theorem current_of_live
    (none : ((session.performAll calls).timersOf timer.lock).drop
      (session.timersOf timer.lock).length = [])
    (held : session.HeldThroughout timer.lock calls) :
    timer.generation = ((session.performAll calls).locks.lock timer.lock).generation ∧
      ((session.performAll calls).locks.lock timer.lock).isHeld = true := by
  obtain ⟨newer, timers, generation⟩ := generation_performAll named room timer.lock
  rw [timers, List.drop_left] at none
  rw [none] at generation
  exact ⟨latest.trans (generation.trans (UInt64.add_zero _)).symm, heldThroughout_end held⟩

/-- Fewer newer timers than there are generations do not bring one back: a timer that is of the
present generation of a lock that is held has no newer one, and the lock was held throughout. -/
theorem live_of_current
    (short : (((session.performAll calls).timersOf timer.lock).drop
      (session.timersOf timer.lock).length).length < UInt64.size)
    (current : timer.generation = ((session.performAll calls).locks.lock timer.lock).generation)
    (held : ((session.performAll calls).locks.lock timer.lock).isHeld = true) :
    ((session.performAll calls).timersOf timer.lock).drop
        (session.timersOf timer.lock).length = [] ∧ session.HeldThroughout timer.lock calls := by
  obtain ⟨newer, timers, generation⟩ := generation_performAll named room timer.lock
  rw [timers, List.drop_left] at short ⊢
  have none : newer = [] := by
    rw [latest, generation, UInt64.left_eq_add, ← UInt64.toNat_inj,
      UInt64.toNat_ofNat_of_lt' short, UInt64.toNat_zero] at current
    exact List.eq_nil_of_length_eq_zero current
  rw [none, List.append_nil] at timers
  exact ⟨none, heldThroughout_of_latest named room timers held⟩

end LatestTimer

/-- The references to the primary lock in the hold that a call began. -/
theorem count_of_hold (named : session.locks.Named) {call : LockCall} {later : List LockCall}
    (room : session.HasRoom (call :: later)) {timer : LockTimer}
    (handed : (session.perform call).timers = session.timers ++ [timer])
    (own : timer.lock = .primary)
    (held : (session.perform call).HeldThroughout .primary later) :
    (session.performAll (call :: later)).locks.primary.count.toNat + releases (call :: later) =
      acquires (call :: later) := by
  have first := (handed_out_primary named room.1 handed own).2
  have rest : (session.performAll (call :: later)).locks.primary.count.toNat + releases later =
      (session.perform call).locks.primary.count.toNat + acquires later :=
    count_heldThroughout room.2 held
  rw [acquires_cons, releases_cons]
  omega

/-- Whatever the two locks are asked to do from the start on, as long as their counters have room:

* the calls to the system about each lock alternate and begin with taking it, and the last one took
  it exactly while its counter is positive;
* a call that is not about a lock does nothing to it;
* a timer is honoured exactly while it is the latest of its lock and this was held ever since the
  timer was handed out.  Then the lock is free afterwards, so the timer is not honoured again, and
  for the primary lock the number told is that of the references taken less those dropped from the
  call on that began the hold, which is the one that handed out the timer.  Otherwise showing it
  does nothing, unless 2⁶⁴ newer timers of the lock have brought its generation back. -/
theorem timers_honoured_once (ceiling ackHold : Span) (calls : List LockCall)
    (room : (opened ceiling ackHold).HasRoom calls) :
    let session := (opened ceiling ackHold).performAll calls
    (∀ id, (false :: session.usage id).IsChain (· ≠ ·) ∧
      ((session.usage id).getLast? = some true ↔ 0 < (session.locks.lock id).count)) ∧
    (∀ earlier call later, calls = earlier ++ call :: later →
      let before := (opened ceiling ackHold).performAll earlier
      let after := before.perform call
      (∀ id, before.concerns id call = false → Untouched id before after) ∧
      ∀ timer, after.timers = before.timers ++ [timer] →
        let newer := (session.timersOf timer.lock).drop (after.timersOf timer.lock).length
        let live := newer = [] ∧ after.HeldThroughout timer.lock later
        ∀ now,
          let answer := session.locks.onTimer timer now
          (live → (answer.2.1.lock timer.lock).count = 0 ∧
            match timer.lock with
            | .primary => before.locks.primary.count = 0 ∧ ∃ outstanding,
              answer.1 = .timedOut outstanding ∧
                outstanding.toNat + releases (call :: later) = acquires (call :: later)
            | .ack => answer.1 = .released) ∧
          (¬ live → newer.length < UInt64.size → answer = (.stale, session.locks, []))) := by
  intro session
  have named : (opened ceiling ackHold).locks.Named := fun id => by cases id <;> rfl
  refine ⟨?_, ?_⟩
  · intro id
    have start : Alternates id (opened ceiling ackHold) := by
      cases id <;> exact ⟨.singleton _, rfl⟩
    have alternates := alternates_performAll named room start
    exact ⟨alternates.chain, alternates.taken_iff⟩
  · rintro earlier call later rfl before after
    obtain ⟨early, onward⟩ := room.split
    have namedBefore : before.locks.Named := named_performAll named early
    have namedAfter : after.locks.Named := named_perform namedBefore onward.1
    refine ⟨fun id => untouched_perform namedBefore onward.1, ?_⟩
    intro timer handed newer live now answer
    have whole : session = after.performAll later := performAll_append _ earlier (call :: later)
    have latest := (handed_out namedBefore onward.1 handed).1
    refine ⟨?honoured, ?stale⟩
    case honoured =>
      rintro ⟨none, throughout⟩
      obtain ⟨own, held⟩ : timer.generation = (session.locks.lock timer.lock).generation ∧
          (session.locks.lock timer.lock).isHeld = true := by
        simp only [newer, whole] at none ⊢
        exact current_of_live namedAfter onward.2 latest none throughout
      obtain ⟨judged, free⟩ := onTimer_of_latest session.locks own held now
      refine ⟨free, ?_⟩
      cases lock : timer.lock with
      | ack =>
          rw [lock] at judged
          exact judged
      | primary =>
          rw [lock] at judged throughout
          refine ⟨(handed_out_primary namedBefore onward.1 handed lock).1, _, judged, ?_⟩
          rw [whole]
          exact count_of_hold namedBefore onward handed lock throughout
    case stale =>
      intro dead short
      apply onTimer_of_stale
      rintro ⟨current, held⟩
      simp only [live, newer, whole] at dead short current held
      exact dead (live_of_current namedAfter onward.2 latest short current held)

/-- Two references to the primary lock are taken and one is dropped, while two frames are
acknowledged.  The ceiling tells of the reference that is left; the timer of the first frame comes
too late to give back what the second one holds. -/
theorem timers_honoured_once_around_frames :
    let calls : List LockCall :=
      [.acquire 0, .holdForAck 10, .acquire 20, .release 30, .holdForAck 40, .fire 1 210]
    let session := (opened 1000 200).performAll calls
    (session.locks.onTimer ⟨.primary, 1, 1000⟩ 1000).1 = .timedOut 1 ∧
      session.locks.onTimer ⟨.ack, 1, 210⟩ 220 = (.stale, session.locks, []) ∧
      session.usage .ack = [true] := by
  intro calls session
  obtain ⟨-, each⟩ := timers_honoured_once 1000 200 calls (by decide)
  obtain ⟨-, primary⟩ := each [] (.acquire 0) _ rfl
  obtain ⟨-, ack⟩ := each [.acquire 0] (.holdForAck 10) _ rfl
  have ceiling := (primary ⟨.primary, 1, 1000⟩ (by decide) 1000).1 (by decide)
  have late := (ack ⟨.ack, 1, 210⟩ (by decide) 220).2 (by decide) (by decide)
  obtain ⟨-, -, outstanding, told, references⟩ := ceiling
  have left : outstanding = 1 := UInt32.toNat_inj.mp (Nat.add_right_cancel references)
  exact ⟨left ▸ told, late, by decide⟩

end LockSession

end ModemLink
