/-
Module: ModemLink.Proofs.LockUsage
Purpose: A recording wake lock shows what a bridge holds.
Main exports:
  LockUsage.counts_afterAll, LockUsage.returned, LockUsages.afterAll_eq, WakeLocks.lock,
  WakeLocks.Shows, Shown, LockStep.shown, LockCourse.primaryShown, LockCourse.ackShown
-/
import ModemLink.Proofs.Teardown

namespace ModemLink

/-!
A recording wake lock knows nothing of references.  It sees the lock taken and given back, counts
both, and shows as its hold whichever came last.  This is the hold of the lock in the bridge as long
as the counter of references does not overflow.
-/

/-! ## What a recording lock counts -/

namespace LockUsage

theorem afterAll_append (id : LockId) (usage : LockUsage) (effects more : List Effect) :
    usage.afterAll id (effects ++ more) = (usage.afterAll id effects).afterAll id more :=
  List.foldl_append

theorem after_of_elsewhere {id : LockId} {effect : Effect} (elsewhere : effect.lock? ≠ some id)
    (usage : LockUsage) : usage.after id effect = usage := by
  unfold after
  split
  · exact if_neg fun same => elsewhere (congrArg some same)
  · exact if_neg fun same => elsewhere (congrArg some same)
  · rfl

theorem afterAll_of_elsewhere {id : LockId} {effects : List Effect}
    (elsewhere : ∀ effect ∈ effects, effect.lock? ≠ some id) (usage : LockUsage) :
    usage.afterAll id effects = usage := by
  induction effects with
  | nil => rfl
  | cons effect rest ih =>
      obtain ⟨first, later⟩ := List.forall_mem_cons.mp elsewhere
      rw [afterAll, List.foldl_cons, after_of_elsewhere first]
      exact ih later

/-- A recording lock counts how often the lock is taken and given back. -/
theorem counts_afterAll (usage : LockUsage) (id : LockId) (effects : List Effect) :
    (usage.afterAll id effects).acquisitions =
        usage.acquisitions + effects.count (.lockTaken id) ∧
      (usage.afterAll id effects).releases =
        usage.releases + effects.count (.lockGivenBack id) := by
  induction effects generalizing usage with
  | nil => exact ⟨rfl, rfl⟩
  | cons effect rest ih =>
      obtain ⟨acquisitions, releases⟩ := ih (usage.after id effect)
      have one : (usage.after id effect).acquisitions =
            usage.acquisitions + [effect].count (.lockTaken id) ∧
          (usage.after id effect).releases =
            usage.releases + [effect].count (.lockGivenBack id) := by
        cases effect with
        | lockTaken lock | lockGivenBack lock =>
            by_cases same : lock = id <;> simp [after, same]
        | handed | acknowledged | settled | indicated | statusTold | measured => simp [after]
      have parts : ∀ mark, ([effect] ++ rest).count mark = [effect].count mark + rest.count mark :=
        fun _ => List.count_append
      rw [one.1, Nat.add_assoc, ← parts] at acquisitions
      rw [one.2, Nat.add_assoc, ← parts] at releases
      exact ⟨acquisitions, releases⟩

/-- What was given back as often as taken is counted so. -/
theorem returned {id : LockId} {effects : List Effect}
    (even : effects.count (.lockTaken id) = effects.count (.lockGivenBack id)) :
    (untouched.afterAll id effects).acquisitions = (untouched.afterAll id effects).releases := by
  obtain ⟨acquisitions, releases⟩ := untouched.counts_afterAll id effects
  rw [acquisitions, releases, even]
  rfl

end LockUsage

/-- Each of two recording locks sees what concerns it. -/
theorem LockUsages.afterAll_eq (usages : LockUsages) (effects : List Effect) :
    usages.afterAll effects =
      ⟨usages.primary.afterAll .primary effects, usages.ack.afterAll .ack effects⟩ := by
  induction effects generalizing usages with
  | nil => rfl
  | cons effect rest ih => exact ih (usages.after effect)

/-! ## What a recording lock shows -/

namespace WakeLock

/-- A recording lock that showed `before` shows `after` when some effects have come. -/
def Shows (before after : WakeLock) (effects : List Effect) : Prop :=
  ∀ usage : LockUsage, usage.held = before.isHeld →
    (usage.afterAll before.id effects).held = after.isHeld

theorem shows_take {lock : WakeLock} (now : Instant)
    (room : lock.count.toNat + 1 < UInt32.size) :
    lock.Shows (lock.take now).1 (lock.take now).2 := by
  intro usage shown
  rw [isHeld_take now room]
  by_cases free : lock.count = 0
  · simp [take, free, LockUsage.afterAll, LockUsage.after]
  · have held : lock.isHeld = true := by
      rw [isHeld_iff]
      exact Nat.pos_of_ne_zero (mt count_eq_zero_iff.mpr free)
    simp only [take, free, if_false]
    exact shown.trans held

theorem shows_giveBack (lock : WakeLock) (now : Instant) :
    lock.Shows (lock.giveBack now).1 (lock.giveBack now).2 := by
  intro usage _
  cases since : lock.heldSince <;>
    simp [giveBack, since, LockUsage.afterAll, LockUsage.after, isHeld]

theorem shows_drop (lock : WakeLock) (now : Instant) :
    lock.Shows (lock.drop now).1 (lock.drop now).2 := by
  by_cases free : lock.count = 0
  · simp only [drop, free, if_true]
    exact fun _ shown => shown
  · by_cases last : lock.count = 1
    · have gives : lock.drop now = lock.giveBack now := by simp [drop, last]
      rw [gives]
      exact shows_giveBack lock now
    · obtain ⟨left, references⟩ := Nat.exists_eq_succ_of_ne_zero (mt count_eq_zero_iff.mpr free)
      have several : left ≠ 0 := by
        rintro rfl
        exact last (UInt32.toNat_inj.mp references)
      have before : lock.isHeld = true := by
        rw [isHeld_iff, references]
        exact Nat.succ_pos left
      have after : (lock.drop now).1.isHeld = true := by
        rw [isHeld_iff, count_drop now references]
        exact Nat.pos_of_ne_zero several
      have quiet : (lock.drop now).2 = [] := by simp [drop, free, last]
      intro usage shown
      rw [after, quiet]
      exact shown.trans before

theorem shows_clear (lock : WakeLock) (now : Instant) :
    lock.Shows (lock.clear now).1 (lock.clear now).2 := by
  unfold clear
  split
  · exact fun _ shown => shown
  · exact shows_giveBack lock now

theorem shows_expire (lock : WakeLock) (generation : UInt64) (now : Instant) :
    lock.Shows (lock.expire generation now).2.1 (lock.expire generation now).2.2 := by
  unfold expire
  split
  · exact shows_giveBack lock now
  · exact fun _ shown => shown

end WakeLock

namespace WakeLocks

/-- The lock of a name. -/
def lock (locks : WakeLocks) : LockId → WakeLock
  | .primary => locks.primary
  | .ack => locks.ack

/-- Each lock goes by its own name. -/
def Named (locks : WakeLocks) : Prop :=
  ∀ id, (locks.lock id).id = id

/-- A recording lock that showed the lock `id` of `before` shows the one of `after` when some effects
have come. -/
def Shows (id : LockId) (before after : WakeLocks) (effects : List Effect) : Prop :=
  ∀ usage : LockUsage, usage.held = (before.lock id).isHeld →
    (usage.afterAll id effects).held = (after.lock id).isHeld

variable {locks : WakeLocks} {effects : List Effect}

/-- Effects about the other lock do not show. -/
theorem shows_of_elsewhere {id other : LockId} {after : WakeLocks} (apart : other ≠ id)
    (about : ∀ effect ∈ effects, effect.lock? = some other)
    (same : after.lock id = locks.lock id) : Shows id locks after effects := by
  have elsewhere : ∀ effect ∈ effects, effect.lock? ≠ some id := by
    intro effect member here
    exact apart (Option.some.inj ((about effect member).symm.trans here))
  intro usage shown
  rw [LockUsage.afterAll_of_elsewhere elsewhere, same]
  exact shown

/-- What concerns the primary lock only. -/
theorem shows_primary {primary : WakeLock} (named : locks.Named) (id : LockId)
    (about : ∀ effect ∈ effects, effect.lock? = some locks.primary.id)
    (shows : locks.primary.Shows primary effects) :
    Shows id locks { locks with primary := primary } effects := by
  have own : locks.primary.id = .primary := named .primary
  cases id with
  | primary =>
      unfold WakeLock.Shows at shows
      rw [own] at shows
      exact shows
  | ack => exact shows_of_elsewhere (by simp) (own ▸ about) rfl

/-- What concerns the ack lock only. -/
theorem shows_ack {ack : WakeLock} (named : locks.Named) (id : LockId)
    (about : ∀ effect ∈ effects, effect.lock? = some locks.ack.id)
    (shows : id = .ack → locks.ack.Shows ack effects) :
    Shows id locks { locks with ack := ack } effects := by
  have own : locks.ack.id = .ack := named .ack
  cases id with
  | primary => exact shows_of_elsewhere (by simp) (own ▸ about) rfl
  | ack =>
      have shows := shows rfl
      unfold WakeLock.Shows at shows
      rw [own] at shows
      exact shows

theorem Shows.trans {id : LockId} {first middle last : WakeLocks} {more : List Effect}
    (earlier : Shows id first middle effects) (later : Shows id middle last more) :
    Shows id first last (effects ++ more) := by
  intro usage shown
  rw [LockUsage.afterAll_append]
  exact later _ (earlier usage shown)

theorem shows_releaseAll (named : locks.Named) (id : LockId) (now : Instant) :
    Shows id locks (locks.releaseAll now).1 (locks.releaseAll now).2 := by
  have named_after : ({ locks with primary := (locks.primary.clear now).1 } : WakeLocks).Named := by
    intro other
    cases other with
    | primary => exact (WakeLock.id_clear _ now).trans (named .primary)
    | ack => exact named .ack
  exact (shows_primary named id (fun _ => WakeLock.lock_of_mem_clear)
      (WakeLock.shows_clear _ now)).trans
    (shows_ack named_after id (fun _ => WakeLock.lock_of_mem_clear)
      fun _ => WakeLock.shows_clear _ now)

/-- A timer that fires gives its lock back, or does nothing. -/
theorem shows_onTimer (named : locks.Named) (id : LockId) (timer : LockTimer) (now : Instant) :
    Shows id locks (locks.onTimer timer now).2.1 (locks.onTimer timer now).2.2 := by
  have untouched : Shows id locks locks [] := fun _ shown => shown
  cases lock : timer.lock with
  | primary =>
      have shows := shows_primary named id (fun _ => WakeLock.lock_of_mem_expire)
        (locks.primary.shows_expire timer.generation now)
      rcases expired : locks.primary.expire timer.generation now with ⟨_ | told, primary, effects⟩
      · simp only [onTimer, lock, expired]
        exact untouched
      · simp only [onTimer, lock, expired]
        rw [expired] at shows
        have sampled : Shows id { locks with primary := primary } { locks with primary := primary }
            [.measured (.lockTimedOut .primary)] := fun _ shown => shown
        exact shows.trans sampled
  | ack =>
      have shows := shows_ack named id (fun _ => WakeLock.lock_of_mem_expire)
        fun _ => locks.ack.shows_expire timer.generation now
      rcases expired : locks.ack.expire timer.generation now with ⟨_ | told, ack, effects⟩
      · simp only [onTimer, lock, expired]
        exact untouched
      · simp only [onTimer, lock, expired]
        rw [expired] at shows
        exact shows

end WakeLocks

namespace Bridge

variable {χ : Type}

theorem Idle.named {bridge : Bridge χ} (idle : Idle bridge) : bridge.locks.Named
  | .primary => idle.primaryId
  | .ack => idle.ackId

theorem Guarding.named {ceiling hold : Span} {bridge : Bridge χ}
    {primaryDue ackDue : Instant → Prop}
    (guarding : Guarding ceiling hold bridge primaryDue ackDue) : bridge.locks.Named
  | .primary => guarding.primaryId
  | .ack => guarding.ackId

/-- A recording lock that saw everything shows whether the bridge holds the lock. -/
def Shown (id : LockId) (bridge : Bridge χ) : Prop :=
  (LockUsage.untouched.afterAll id bridge.history).held = (bridge.locks.lock id).isHeld

namespace Shown

variable {id : LockId} {before after : Bridge χ}

theorem of_shows {effects : List Effect} (shown : Shown id before)
    (grown : after.history = before.history ++ effects)
    (shows : WakeLocks.Shows id before.locks after.locks effects) : Shown id after := by
  rw [Shown, grown, LockUsage.afterAll_append]
  exact shows _ shown

theorem of_same (shown : Shown id before) (same : SameHolds before after) : Shown id after := by
  obtain ⟨effects, grown, beside⟩ := same.history
  apply shown.of_shows grown
  intro usage here
  rw [same.locks, LockUsage.afterAll_of_elsewhere]
  · exact here
  · intro effect member
    simp [(beside effect member).lock]

theorem acquired (shown : Shown id before) (named : before.locks.Named)
    (room : before.locks.primary.count.toNat + 1 < UInt32.size) (now : Instant) :
    Shown id (before.acquireLock now) := by
  have shows := WakeLocks.shows_primary named id (fun _ => WakeLock.lock_of_mem_take)
    (WakeLock.shows_take now room)
  apply shown.of_shows (history_acquireLock before now)
  by_cases free : before.locks.primary.count = 0
  · have own : ((before.locks.primary.take now).1.arm now).1.lock = .primary :=
      (WakeLock.id_take _ now).trans (named .primary)
    rw [acquireLock_of_free free, schedule_primary _ own]
    -- arming a lock changes its generation only
    cases id with
    | primary | ack => exact shows
  · rw [acquireLock_of_held free]
    exact shows

theorem acknowledged [Channel χ] (shown : Shown id before) (named : before.locks.Named)
    (now : Instant) (room : id = .ack →
      before.locks.ack.count.toNat = framesHeld before.history ∧
        FrameRoom (before.sendAck now).history) :
    Shown id (before.sendAck now) := by
  rcases reply : Channel.sendAck before.channel with ⟨_ | reason, channel⟩
  · have own : (before.locks.holdForAck now).1.lock = .ack :=
      (WakeLock.id_take _ now).trans (named .ack)
    have about : ∀ effect ∈ (before.locks.ack.take now).2,
        effect.lock? = some before.locks.ack.id := fun _ => WakeLock.lock_of_mem_take
    rw [sendAck_of_accepted reply] at room ⊢
    have shows := WakeLocks.shows_ack named id about fun isAck => WakeLock.shows_take now (by
      obtain ⟨frames, counted⟩ := room isAck
      rw [history_schedule, history_emit] at counted
      have one := framesHeld_ackEffects before.history before.locks now
      rw [frames, ← one]
      exact counted _ (List.prefix_refl _))
    rw [schedule_ack _ own]
    apply shown.of_shows (history_of_journal rfl)
    -- the acknowledgement itself does not show, nor does the new timer
    cases id with
    | primary | ack => exact shows
  · rw [sendAck_of_refused reply]
    have moved : SameHolds before { before with channel := channel } := .of_eq rfl rfl rfl rfl
    exact shown.of_same (moved.trans (sameHolds_emit_one _ ⟨rfl, by simp⟩))

theorem fired (shown : Shown id before) (named : before.locks.Named) (timer : LockTimer)
    (now : Instant) : Shown id (before.onLockTimer timer now) := by
  have shows := WakeLocks.shows_onTimer named id timer now
  rcases judged : before.locks.onTimer timer now with ⟨expiry, locks, effects⟩
  rw [judged] at shows
  cases expiry with
  | timedOut outstanding =>
      rw [onLockTimer_of_timedOut judged]
      exact (shown.of_shows (history_of_journal rfl) shows).of_same (sameHolds_withDetector _ _)
  | released | stale =>
      rw [onLockTimer_of_not_timedOut judged (by simp)]
      exact shown.of_shows (history_of_journal rfl) shows

end Shown

section

variable [Channel χ] {before after : Bridge χ} {now : Instant}

theorem LockStep.shown {id : LockId} (step : LockStep now before after)
    (named : before.locks.Named) (room : id = .ack →
      before.locks.ack.count.toNat = framesHeld before.history ∧ FrameRoom after.history)
    (shown : Shown id before) : Shown id after := by
  cases step with
  | beside same => exact shown.of_same same
  | acquired counted => exact shown.acquired named counted now
  | released =>
      exact shown.of_shows (history_of_journal rfl)
        (WakeLocks.shows_primary named id (fun _ => WakeLock.lock_of_mem_drop)
          (WakeLock.shows_drop _ now))
  | acknowledged => exact shown.acknowledged named now room
  | primaryFired =>
      have ended : Shown id { before with primaryTimer := none } := shown
      exact ended.fired named _ now
  | ackFired =>
      have ended : Shown id { before with ackTimer := none } := shown
      exact ended.fired named _ now
  | gaveBack =>
      exact shown.of_shows (history_of_journal rfl) (WakeLocks.shows_releaseAll named id now)

theorem LockCourse.primaryShown (course : LockCourse now before after) (idle : Idle before)
    (shown : Shown .primary before) : Shown .primary after := by
  induction course with
  | refl => exact shown
  | tail earlier step ih =>
      exact step.shown (LockCourse.idle earlier idle).named (by simp) ih

/-- As long as the counter has room for the frames of each hold. -/
theorem LockCourse.ackShown {ceiling hold : Span} {primaryDue ackDue : Instant → Prop}
    (course : LockCourse now before after)
    (guarding : Guarding ceiling hold before primaryDue ackDue) (room : FrameRoom after.history)
    (shown : Shown .ack before) : Shown .ack after := by
  induction course with
  | refl => exact shown
  | tail earlier step ih =>
      have earlierRoom := room.of_prefix step.keeps.grows
      obtain ⟨effects, -, kept⟩ := (LockCourse.keeps earlier).guards earlierRoom guarding
      exact step.shown kept.named (fun _ => ⟨kept.frames, room⟩) (ih earlierRoom)

end

end Bridge

end ModemLink
