/-
Module: ModemLink.Proofs.Deadlines
Purpose: Live timers of the wake locks, their deadlines, and what a step does to them.
Main exports:
  framesHeld, FrameRoom, WakeLock.Guarded, Guarding, Keeps, LockStep.keeps, Guarding.handleBatch,
  spans_of_valid
-/
import ModemLink.Proofs.LockAccounting
import ModemLink.Proofs.LockSteps

namespace ModemLink

/-!
A lock is guarded if its timer is live exactly while it is held and bears the lock's latest
generation.  `Guarding` says this of both locks, with a property of each deadline.  Which property,
the step decides: a timer that is started in it has the deadline that the step sets, and any other
live timer keeps its own.
-/

/-! ## Acknowledgements during one hold of the ack lock -/

/-- The number of acknowledgements sent since the ack lock was last given back, one effect later. -/
def Effect.framesAfter (frames : Nat) : Effect → Nat
  | .acknowledged true => frames + 1
  | .lockGivenBack .ack => 0
  | _ => frames

/-- How many acknowledgements were sent since the ack lock was last given back. -/
def framesHeld (effects : List Effect) : Nat :=
  effects.foldl Effect.framesAfter 0

theorem framesHeld_append (old new : List Effect) :
    framesHeld (old ++ new) = new.foldl Effect.framesAfter (framesHeld old) :=
  List.foldl_append

theorem foldl_framesAfter {effects : List Effect} (sent : .acknowledged true ∉ effects)
    (givenBack : .lockGivenBack .ack ∉ effects) (frames : Nat) :
    effects.foldl Effect.framesAfter frames = frames := by
  induction effects with
  | nil => rfl
  | cons effect rest ih =>
      have still : effect.framesAfter frames = frames := by
        unfold Effect.framesAfter
        split
        · exact absurd List.mem_cons_self sent
        · exact absurd List.mem_cons_self givenBack
        · rfl
      rw [List.foldl_cons, still]
      exact ih (mt (List.mem_cons_of_mem effect) sent) (mt (List.mem_cons_of_mem effect) givenBack)

/-- The counter of the ack lock, which has 32 bits, has room for the acknowledgements of every hold
of the lock. -/
def FrameRoom (history : List Effect) : Prop :=
  ∀ earlier, earlier <+: history → framesHeld earlier < UInt32.size

theorem FrameRoom.of_prefix {earlier later : List Effect} (room : FrameRoom later)
    (ahead : earlier <+: later) : FrameRoom earlier :=
  fun _ first => room _ (first.trans ahead)

theorem foldl_framesAfter_le (effects : List Effect) (frames : Nat) :
    effects.foldl Effect.framesAfter frames ≤ frames + effects.count (.acknowledged true) := by
  induction effects generalizing frames with
  | nil => exact Nat.le_refl _
  | cons effect rest ih =>
      have one : effect.framesAfter frames ≤ frames + [effect].count (.acknowledged true) := by
        unfold Effect.framesAfter
        split <;> simp
      have parts : (effect :: rest).count (.acknowledged true) =
          [effect].count (.acknowledged true) + rest.count (.acknowledged true) := by
        rw [← List.count_append, List.singleton_append]
      rw [List.foldl_cons, parts]
      have later := ih (effect.framesAfter frames)
      omega

theorem FrameRoom.nil : FrameRoom [] := by
  intro earlier first
  rw [List.prefix_nil.mp first]
  decide

/-- There is room for some more acknowledgements in the present hold. -/
theorem FrameRoom.append {history effects : List Effect} (room : FrameRoom history)
    (few : framesHeld history + effects.count (.acknowledged true) < UInt32.size) :
    FrameRoom (history ++ effects) := by
  intro earlier first
  rcases List.prefix_or_prefix_of_prefix first (List.prefix_append history effects) with
    before | ⟨part, rfl⟩
  · exact room earlier before
  · have ahead : part <+: effects := (List.prefix_append_right_inj history).mp first
    have frames := foldl_framesAfter_le part (framesHeld history)
    have part_le := ahead.sublist.count_le (.acknowledged true)
    rw [framesHeld_append]
    omega

/-- Where there are few acknowledgements altogether, every hold has room for its own. -/
theorem FrameRoom.of_count {history : List Effect}
    (few : history.count (.acknowledged true) < UInt32.size) : FrameRoom history :=
  FrameRoom.nil.append (by rwa [framesHeld, List.foldl_nil, Nat.zero_add])

/-- A history that is not too long leaves room. -/
theorem FrameRoom.of_length {history : List Effect} (short : history.length < UInt32.size) :
    FrameRoom history :=
  .of_count (Nat.lt_of_le_of_lt List.count_le_length short)

/-! ## One lock and its timer -/

namespace WakeLock

/-- The timer is live exactly while the lock is held; and then it is the lock's own, of the latest
generation, with a deadline that has the property. -/
structure Guarded (lock : WakeLock) (timer : Option LockTimer) (due : Instant → Prop) : Prop where
  live : timer.isSome = lock.isHeld
  own : ∀ one, timer = some one →
    one.lock = lock.id ∧ one.generation = lock.generation ∧ due one.deadline

theorem Guarded.mono {lock : WakeLock} {timer : Option LockTimer} {due later : Instant → Prop}
    (guarded : lock.Guarded timer due) (weaker : ∀ deadline, due deadline → later deadline) :
    lock.Guarded timer later := by
  refine ⟨guarded.live, ?_⟩
  intro one live
  obtain ⟨lock, generation, deadline⟩ := guarded.own one live
  exact ⟨lock, generation, weaker _ deadline⟩

/-- A lock that is held has a live timer, and what is known of live timers in two ways holds of its
deadline. -/
theorem Guarded.both {lock : WakeLock} {timer : Option LockTimer} {due also : Instant → Prop}
    (guarded : lock.Guarded timer due) (again : lock.Guarded timer also)
    (held : lock.isHeld = true) : ∃ deadline, due deadline ∧ also deadline := by
  obtain ⟨one, live⟩ := Option.isSome_iff_exists.mp (guarded.live.trans held)
  exact ⟨one.deadline, (guarded.own one live).2.2, (again.own one live).2.2⟩

theorem isHeld_eq_false_iff {lock : WakeLock} : lock.isHeld = false ↔ lock.count = 0 := by
  rw [← Bool.not_eq_true, isHeld_iff, count_eq_zero_iff]
  omega

/-- A lock that is not held needs no timer. -/
theorem guarded_none {lock : WakeLock} (free : lock.count = 0) (due : Instant → Prop) :
    lock.Guarded none due :=
  ⟨(isHeld_eq_false_iff.mpr free).symm, by simp⟩

theorem Guarded.held_of_live {lock : WakeLock} {timer : LockTimer} {due : Instant → Prop}
    (guarded : lock.Guarded (some timer) due) : lock.count ≠ 0 := by
  intro free
  have live := guarded.live
  rw [isHeld_eq_false_iff.mpr free] at live
  cases live

/-- The live timer of a lock is honoured. -/
theorem Guarded.expire {lock : WakeLock} {timer : LockTimer} {due : Instant → Prop}
    (guarded : lock.Guarded (some timer) due) (now : Instant) :
    lock.expire timer.generation now = (some lock.count, lock.giveBack now) := by
  obtain ⟨-, generation, -⟩ := guarded.own timer rfl
  exact if_pos ⟨generation, guarded.held_of_live⟩

theorem isHeld_take {lock : WakeLock} (now : Instant) (room : lock.count.toNat + 1 < UInt32.size) :
    (lock.take now).1.isHeld = true := by
  rw [isHeld_iff, count_take now room]
  exact Nat.succ_pos _

theorem id_take (lock : WakeLock) (now : Instant) : (lock.take now).1.id = lock.id := by
  unfold take
  split <;> rfl

theorem ceiling_take (lock : WakeLock) (now : Instant) :
    (lock.take now).1.ceiling = lock.ceiling := by
  unfold take
  split <;> rfl

theorem ceiling_drop (lock : WakeLock) (now : Instant) :
    (lock.drop now).1.ceiling = lock.ceiling := by
  unfold drop
  split
  · rfl
  · split <;> rfl

theorem id_drop (lock : WakeLock) (now : Instant) : (lock.drop now).1.id = lock.id := by
  unfold drop
  split
  · rfl
  · split <;> rfl

theorem not_taken_giveBack (lock : WakeLock) (now : Instant) (taken : LockId) :
    .lockTaken taken ∉ (lock.giveBack now).2 := by
  simp [giveBack]

theorem not_taken_drop (lock : WakeLock) (now : Instant) (taken : LockId) :
    .lockTaken taken ∉ (lock.drop now).2 := by
  unfold drop
  split
  · exact List.not_mem_nil
  · split
    · exact lock.not_taken_giveBack now taken
    · exact List.not_mem_nil

theorem not_taken_clear (lock : WakeLock) (now : Instant) (taken : LockId) :
    .lockTaken taken ∉ (lock.clear now).2 := by
  unfold clear
  split
  · exact List.not_mem_nil
  · exact lock.not_taken_giveBack now taken

theorem ceiling_clear (lock : WakeLock) (now : Instant) :
    (lock.clear now).1.ceiling = lock.ceiling := by
  unfold clear
  split <;> rfl

theorem id_clear (lock : WakeLock) (now : Instant) : (lock.clear now).1.id = lock.id :=
  (moves_clear lock now).id

/-- The timer that a held lock hands out guards it, with the lock's whole span before it. -/
theorem guarded_arm {lock : WakeLock} (held : lock.isHeld = true) (now : Instant) :
    (lock.arm now).2.Guarded (some (lock.arm now).1) (· = now + lock.ceiling) := by
  refine ⟨held.symm, ?_⟩
  intro one live
  cases live
  exact ⟨rfl, rfl, rfl⟩

/-- One more reference to a held lock leaves its timer alone. -/
theorem Guarded.take {lock : WakeLock} {timer : Option LockTimer} {due : Instant → Prop}
    (guarded : lock.Guarded timer due) (held : lock.count ≠ 0) (now : Instant)
    (room : lock.count.toNat + 1 < UInt32.size) : (lock.take now).1.Guarded timer due := by
  have before : lock.isHeld = true := by
    rw [← Bool.not_eq_false]
    exact mt isHeld_eq_false_iff.mp held
  have taken : (lock.take now).1.generation = lock.generation := by
    unfold WakeLock.take
    split <;> rfl
  refine ⟨?_, ?_⟩
  · rw [guarded.live, before, isHeld_take now room]
  · rw [id_take, taken]
    exact guarded.own

/-- When a reference is dropped the timer goes on, unless it was the last reference. -/
theorem Guarded.drop {lock : WakeLock} {timer : Option LockTimer} {due : Instant → Prop}
    (guarded : lock.Guarded timer due) (now : Instant) :
    (lock.drop now).1.Guarded (if (lock.drop now).1.isHeld then timer else none) due := by
  cases held : (lock.drop now).1.isHeld with
  | false => exact guarded_none (isHeld_eq_false_iff.mp held) due
  | true =>
      rw [if_pos rfl]
      by_cases free : lock.count = 0
      · rw [WakeLock.drop, if_pos free]
        exact guarded
      · by_cases last : lock.count = 1
        · rw [WakeLock.drop, if_neg free, if_pos last] at held
          simp [giveBack, isHeld] at held
        · have before : lock.isHeld = true := by
            rw [← Bool.not_eq_false]
            exact mt isHeld_eq_false_iff.mp free
          refine ⟨?_, ?_⟩
          · rw [held, guarded.live, before]
          · rw [WakeLock.drop, if_neg free, if_neg last]
            exact guarded.own

theorem frames_giveBack {lock : WakeLock} (ack : lock.id = .ack) (now : Instant) (frames : Nat) :
    (lock.giveBack now).2.foldl Effect.framesAfter frames = 0 := by
  cases since : lock.heldSince with
  | none => simp [giveBack, since, ack, Effect.framesAfter]
  | some start => simp [giveBack, since, ack, Effect.framesAfter]

/-- A free lock has no frames to its hold, and a lock that is cleared loses them. -/
theorem frames_clear {lock : WakeLock} (ack : lock.id = .ack) (now : Instant) :
    (lock.clear now).2.foldl Effect.framesAfter lock.count.toNat = 0 := by
  by_cases free : lock.count = 0
  · rw [clear, if_pos free, free]
    rfl
  · rw [clear, if_neg free]
    exact frames_giveBack ack now _

end WakeLock

theorem not_mem_of_lock {effects : List Effect} {lock : LockId}
    (about : ∀ effect ∈ effects, effect.lock? = some lock) {effect : Effect}
    (elsewhere : effect.lock? ≠ some lock) : effect ∉ effects :=
  fun member => elsewhere (about effect member)

/-- The property of a deadline after some effects: a timer started by them has the deadline they
set, and any other keeps its own. -/
def renewed (effects : List Effect) (mark : Effect) (deadline : Instant) (due : Instant → Prop) :
    Instant → Prop :=
  if mark ∈ effects then (· = deadline) else due

theorem renewed_of_mem {effects : List Effect} {mark : Effect} (started : mark ∈ effects)
    (deadline : Instant) (due : Instant → Prop) :
    renewed effects mark deadline due = (· = deadline) :=
  if_pos started

theorem renewed_of_not_mem {effects : List Effect} {mark : Effect} (kept : mark ∉ effects)
    (deadline : Instant) (due : Instant → Prop) : renewed effects mark deadline due = due :=
  if_neg kept

theorem renewed_append (old new : List Effect) (mark : Effect) (deadline : Instant)
    (due : Instant → Prop) :
    renewed (old ++ new) mark deadline due =
      renewed new mark deadline (renewed old mark deadline due) := by
  by_cases later : mark ∈ new
  · rw [renewed_of_mem later, renewed_of_mem (List.mem_append_right old later)]
  · rw [renewed_of_not_mem later]
    by_cases earlier : mark ∈ old
    · rw [renewed_of_mem earlier, renewed_of_mem (List.mem_append_left new earlier)]
    · rw [renewed_of_not_mem earlier, renewed_of_not_mem]
      exact fun member => (List.mem_append.mp member).elim earlier later

/-- Effects that start no timer. -/
structure StartsNone (effects : List Effect) : Prop where
  taken : .lockTaken .primary ∉ effects
  sent : .acknowledged true ∉ effects

theorem StartsNone.append {old new : List Effect} (earlier : StartsNone old)
    (later : StartsNone new) : StartsNone (old ++ new) :=
  ⟨fun member => (List.mem_append.mp member).elim earlier.taken later.taken,
    fun member => (List.mem_append.mp member).elim earlier.sent later.sent⟩

theorem StartsNone.of_beside {effects : List Effect}
    (beside : ∀ effect ∈ effects, effect.IsBesideLocks) : StartsNone effects :=
  ⟨fun member => by simpa [Effect.lock?] using (beside _ member).lock,
    fun member => (beside _ member).frame rfl⟩

/-- A deadline that is set ahead is to come. -/
theorem lt_of_renewed {effects : List Effect} {mark : Effect} {now : Instant} {span : Span}
    (ahead : 0 < span) {deadline : Instant}
    (due : renewed effects mark (now + span) (now < ·) deadline) : now < deadline := by
  unfold renewed at due
  split at due
  · rw [due]
    exact Nat.lt_add_of_pos_right ahead
  · exact due

namespace Bridge

variable {χ : Type}

/-! ## Both locks -/

/-- Both locks are guarded by the timers of the bridge, with a property for the deadlines of each;
and every acknowledgement of the present hold of the ack lock is a reference to it. -/
structure Guarding (ceiling hold : Span) (bridge : Bridge χ) (primaryDue ackDue : Instant → Prop) :
    Prop where
  primaryId : bridge.locks.primary.id = .primary
  ackId : bridge.locks.ack.id = .ack
  primaryCeiling : bridge.locks.primary.ceiling = ceiling
  ackCeiling : bridge.locks.ack.ceiling = hold
  frames : bridge.locks.ack.count.toNat = framesHeld bridge.history
  primary : bridge.locks.primary.Guarded bridge.primaryTimer primaryDue
  ack : bridge.locks.ack.Guarded bridge.ackTimer ackDue

/-- What was done at `now` between two bridges leaves the locks guarded, with deadlines that are
counted from `now` where a timer was started. -/
structure Keeps (now : Instant) (before after : Bridge χ) : Prop where
  grows : before.history <+: after.history
  guards : ∀ {ceiling hold : Span} {primaryDue ackDue : Instant → Prop},
    FrameRoom after.history → Guarding ceiling hold before primaryDue ackDue →
    ∃ effects, after.history = before.history ++ effects ∧
      Guarding ceiling hold after
        (renewed effects (.lockTaken .primary) (now + ceiling) primaryDue)
        (renewed effects (.acknowledged true) (now + hold) ackDue)

namespace Keeps

theorem refl (now : Instant) (bridge : Bridge χ) : Keeps now bridge bridge :=
  ⟨List.prefix_refl _, fun _ guarding => ⟨[], (List.append_nil _).symm, guarding⟩⟩

theorem trans {now : Instant} {first middle last : Bridge χ} (earlier : Keeps now first middle)
    (later : Keeps now middle last) : Keeps now first last := by
  refine ⟨earlier.grows.trans later.grows, ?_⟩
  intro ceiling hold primaryDue ackDue room guarding
  obtain ⟨old, oldHistory, kept⟩ := earlier.guards (room.of_prefix later.grows) guarding
  obtain ⟨new, newHistory, keptAgain⟩ := later.guards room kept
  refine ⟨old ++ new, ?_, ?_⟩
  · rw [newHistory, oldHistory, List.append_assoc]
  · rw [renewed_append, renewed_append]
    exact keptAgain

end Keeps

/-- What is not about locks leaves them guarded. -/
theorem SameHolds.guarding {ceiling hold : Span} {before after : Bridge χ}
    {primaryDue ackDue : Instant → Prop} (same : SameHolds before after)
    (guarding : Guarding ceiling hold before primaryDue ackDue) :
    Guarding ceiling hold after primaryDue ackDue := by
  obtain ⟨effects, grown, beside⟩ := same.history
  constructor
  · rw [same.locks, guarding.primaryId]
  · rw [same.locks, guarding.ackId]
  · rw [same.locks, guarding.primaryCeiling]
  · rw [same.locks, guarding.ackCeiling]
  · have unsent : .acknowledged true ∉ effects := fun member => (beside _ member).frame rfl
    have kept : .lockGivenBack .ack ∉ effects := fun member => by
      simpa [Effect.lock?] using (beside _ member).lock
    rw [same.locks, grown, framesHeld_append, foldl_framesAfter unsent kept, guarding.frames]
  · rw [same.locks, same.primaryTimer]
    exact guarding.primary
  · rw [same.locks, same.ackTimer]
    exact guarding.ack

/-- Where no timer is started, the deadlines stay as they are. -/
theorem Keeps.of_startsNone {before after : Bridge χ} {effects : List Effect}
    (grown : after.history = before.history ++ effects) (none : StartsNone effects)
    (guards : ∀ {ceiling hold : Span} {primaryDue ackDue : Instant → Prop},
      Guarding ceiling hold before primaryDue ackDue →
      Guarding ceiling hold after primaryDue ackDue)
    (now : Instant) : Keeps now before after := by
  refine ⟨⟨effects, grown.symm⟩, ?_⟩
  intro ceiling hold primaryDue ackDue _ guarding
  refine ⟨effects, grown, ?_⟩
  rw [renewed_of_not_mem none.taken, renewed_of_not_mem none.sent]
  exact guards guarding

theorem SameHolds.keeps {before after : Bridge χ} (same : SameHolds before after)
    (now : Instant) : Keeps now before after := by
  obtain ⟨effects, grown, beside⟩ := same.history
  exact .of_startsNone grown (.of_beside beside) same.guarding now

/-! ## References -/

/-- When only the primary lock and its timer changed, the primary lock has to be looked at only. -/
theorem Guarding.of_primary {ceiling hold : Span} {before after : Bridge χ}
    {primaryDue ackDue due : Instant → Prop} {effects : List Effect}
    (guarding : Guarding ceiling hold before primaryDue ackDue)
    (grown : after.history = before.history ++ effects)
    (about : ∀ effect ∈ effects, effect.lock? = some before.locks.primary.id)
    (ack : after.locks.ack = before.locks.ack) (ackTimer : after.ackTimer = before.ackTimer)
    (id : after.locks.primary.id = before.locks.primary.id)
    (span : after.locks.primary.ceiling = before.locks.primary.ceiling)
    (guarded : after.locks.primary.Guarded after.primaryTimer due) :
    Guarding ceiling hold after due ackDue := by
  constructor
  · rw [id, guarding.primaryId]
  · rw [ack, guarding.ackId]
  · rw [span, guarding.primaryCeiling]
  · rw [ack, guarding.ackCeiling]
  · have unsent : .acknowledged true ∉ effects := not_mem_of_lock about (by simp [Effect.lock?])
    have kept : .lockGivenBack .ack ∉ effects :=
      not_mem_of_lock about (by simp [Effect.lock?, guarding.primaryId])
    rw [ack, grown, framesHeld_append, foldl_framesAfter unsent kept, guarding.frames]
  · exact guarded
  · rw [ack, ackTimer]
    exact guarding.ack

theorem schedule_primary (bridge : Bridge χ) {timer : LockTimer} (own : timer.lock = .primary) :
    bridge.schedule timer = { bridge with primaryTimer := some timer } := by
  simp only [schedule, own]

theorem schedule_ack (bridge : Bridge χ) {timer : LockTimer} (own : timer.lock = .ack) :
    bridge.schedule timer = { bridge with ackTimer := some timer } := by
  simp only [schedule, own]

theorem history_schedule (bridge : Bridge χ) (timer : LockTimer) :
    (bridge.schedule timer).history = bridge.history := by
  unfold schedule
  split <;> rfl

/-- The first reference to the primary lock starts its timer. -/
theorem acquireLock_of_free {bridge : Bridge χ} (free : bridge.locks.primary.count = 0)
    (now : Instant) :
    bridge.acquireLock now =
      ({ bridge with locks := { bridge.locks with
        primary := ((bridge.locks.primary.take now).1.arm now).2 } }.emit
          (bridge.locks.primary.take now).2).schedule
        ((bridge.locks.primary.take now).1.arm now).1 := by
  simp [acquireLock, WakeLocks.acquire, free]

theorem acquireLock_of_held {bridge : Bridge χ} (held : bridge.locks.primary.count ≠ 0)
    (now : Instant) :
    bridge.acquireLock now =
      { bridge with locks := { bridge.locks with
        primary := (bridge.locks.primary.take now).1 } }.emit
          (bridge.locks.primary.take now).2 := by
  simp [acquireLock, WakeLocks.acquire, held]

theorem history_acquireLock (bridge : Bridge χ) (now : Instant) :
    (bridge.acquireLock now).history = bridge.history ++ (bridge.locks.primary.take now).2 := by
  by_cases free : bridge.locks.primary.count = 0
  · rw [acquireLock_of_free free, history_schedule]
    exact history_of_journal rfl
  · rw [acquireLock_of_held free]
    exact history_of_journal rfl

theorem keeps_acquireLock {bridge : Bridge χ}
    (room : bridge.locks.primary.count.toNat + 1 < UInt32.size) (now : Instant) :
    Keeps now bridge (bridge.acquireLock now) := by
  have grown := history_acquireLock bridge now
  have about : ∀ effect ∈ (bridge.locks.primary.take now).2,
      effect.lock? = some bridge.locks.primary.id := fun _ => WakeLock.lock_of_mem_take
  refine ⟨⟨_, grown.symm⟩, ?_⟩
  intro ceiling hold primaryDue ackDue _ guarding
  refine ⟨_, grown, ?_⟩
  rw [renewed_of_not_mem (not_mem_of_lock about (by simp [Effect.lock?]) :
    .acknowledged true ∉ (bridge.locks.primary.take now).2)]
  by_cases free : bridge.locks.primary.count = 0
  · have started : .lockTaken .primary ∈ (bridge.locks.primary.take now).2 := by
      rw [WakeLock.take, if_pos free, guarding.primaryId]
      exact List.mem_cons_self
    have own : ((bridge.locks.primary.take now).1.arm now).1.lock = .primary :=
      (WakeLock.id_take _ now).trans guarding.primaryId
    have armed := WakeLock.guarded_arm (WakeLock.isHeld_take now room) now
    rw [WakeLock.ceiling_take, guarding.primaryCeiling] at armed
    rw [acquireLock_of_free free, schedule_primary _ own] at grown ⊢
    rw [renewed_of_mem started]
    exact guarding.of_primary grown about rfl rfl (WakeLock.id_take _ now)
      (WakeLock.ceiling_take _ now) armed
  · have going : .lockTaken .primary ∉ (bridge.locks.primary.take now).2 := by
      rw [WakeLock.take, if_neg free]
      exact List.not_mem_nil
    rw [acquireLock_of_held free] at grown ⊢
    rw [renewed_of_not_mem going]
    exact guarding.of_primary grown about rfl rfl (WakeLock.id_take _ now)
      (WakeLock.ceiling_take _ now) (guarding.primary.take free now room)

theorem keeps_releaseLock (bridge : Bridge χ) (now : Instant) :
    Keeps now bridge (bridge.releaseLock now) := by
  have about : ∀ effect ∈ (bridge.locks.primary.drop now).2,
      effect.lock? = some bridge.locks.primary.id := fun _ => WakeLock.lock_of_mem_drop
  have grown : (bridge.releaseLock now).history =
      bridge.history ++ (bridge.locks.primary.drop now).2 := history_of_journal rfl
  apply Keeps.of_startsNone grown
  · exact ⟨WakeLock.not_taken_drop _ now _, not_mem_of_lock about (by simp [Effect.lock?])⟩
  · intro ceiling hold primaryDue ackDue guarding
    exact guarding.of_primary grown about rfl rfl (WakeLock.id_drop _ now)
      (WakeLock.ceiling_drop _ now) (guarding.primary.drop now)

/-! ## Acknowledgements -/

/-- What happens when the channel takes an acknowledgement. -/
def ackEffects (locks : WakeLocks) (now : Instant) : List Effect :=
  .acknowledged true :: .measured .ackSent :: (locks.holdForAck now).2.2

theorem framesHeld_ackEffects (history : List Effect) (locks : WakeLocks) (now : Instant) :
    framesHeld (history ++ ackEffects locks now) = framesHeld history + 1 := by
  have about : ∀ effect ∈ (locks.ack.take now).2, effect.lock? = some locks.ack.id :=
    fun _ => WakeLock.lock_of_mem_take
  have kept := locks.ack.not_givenBack_take now .ack
  rw [framesHeld_append]
  exact foldl_framesAfter (not_mem_of_lock about (by simp [Effect.lock?])) kept _

theorem not_taken_ackEffects {locks : WakeLocks} (ack : locks.ack.id = .ack) (now : Instant) :
    .lockTaken .primary ∉ ackEffects locks now := by
  have about : ∀ effect ∈ (locks.ack.take now).2, effect.lock? = some locks.ack.id :=
    fun _ => WakeLock.lock_of_mem_take
  simp only [ackEffects, List.mem_cons, reduceCtorEq, false_or]
  exact not_mem_of_lock about (by simp [Effect.lock?, ack])

/-- An acknowledgement that the channel took starts the timer of the ack lock anew. -/
theorem keeps_holdForAck (bridge : Bridge χ) (channel : χ) (totals : Totals) (now : Instant) :
    Keeps now bridge
      (({ bridge with
        channel := channel
        totals := totals
        locks := (bridge.locks.holdForAck now).2.1 }.emit (ackEffects bridge.locks now)).schedule
        (bridge.locks.holdForAck now).1) := by
  have grown : (({ bridge with
      channel := channel
      totals := totals
      locks := (bridge.locks.holdForAck now).2.1 }.emit (ackEffects bridge.locks now)).schedule
        (bridge.locks.holdForAck now).1).history =
      bridge.history ++ ackEffects bridge.locks now := by
    rw [history_schedule]
    exact history_of_journal rfl
  have frames := framesHeld_ackEffects bridge.history bridge.locks now
  refine ⟨⟨_, grown.symm⟩, ?_⟩
  intro ceiling hold primaryDue ackDue room guarding
  refine ⟨_, grown, ?_⟩
  have own : (bridge.locks.holdForAck now).1.lock = .ack :=
    (WakeLock.id_take _ now).trans guarding.ackId
  -- Each frame of the hold is one reference, so the history bounds the counter.
  have references : bridge.locks.ack.count.toNat + 1 < UInt32.size := by
    have counted := room _ (List.prefix_refl _)
    rw [grown, frames] at counted
    rw [guarding.frames]
    exact counted
  have armed := WakeLock.guarded_arm (WakeLock.isHeld_take now references) now
  rw [WakeLock.ceiling_take, guarding.ackCeiling] at armed
  have acked : .acknowledged true ∈ ackEffects bridge.locks now := List.mem_cons_self
  rw [renewed_of_not_mem (not_taken_ackEffects guarding.ackId now), renewed_of_mem acked,
    schedule_ack _ own]
  constructor
  · exact guarding.primaryId
  · exact own
  · exact guarding.primaryCeiling
  · exact (WakeLock.ceiling_take _ now).trans guarding.ackCeiling
  · show (bridge.locks.ack.take now).1.count.toNat = framesHeld (history (emit _ _))
    rw [WakeLock.count_take now references, guarding.frames, history_emit]
    exact frames.symm
  · exact guarding.primary
  · exact armed

theorem keeps_sendAck [Channel χ] (bridge : Bridge χ) (now : Instant) :
    Keeps now bridge (bridge.sendAck now) := by
  cases reply : Channel.sendAck bridge.channel with
  | mk refusal channel =>
      cases refusal with
      | some reason =>
          rw [sendAck_of_refused reply]
          have moved : SameHolds bridge { bridge with channel := channel } :=
            .of_eq rfl rfl rfl rfl
          exact (moved.trans (sameHolds_emit_one _ ⟨rfl, by simp⟩)).keeps now
      | none =>
          rw [sendAck_of_accepted reply]
          exact keeps_holdForAck bridge channel _ now

/-! ## Timers -/

section

variable {ceiling hold : Span} {primaryDue ackDue : Instant → Prop}

/-- The live timer of the primary lock takes it away. -/
theorem Guarding.judged_primary {bridge : Bridge χ} {timer : LockTimer}
    (guarding : Guarding ceiling hold bridge primaryDue ackDue)
    (live : bridge.primaryTimer = some timer) (now : Instant) :
    bridge.locks.onTimer timer now =
      (.timedOut bridge.locks.primary.count,
        { bridge.locks with primary := (bridge.locks.primary.giveBack now).1 },
        (bridge.locks.primary.giveBack now).2 ++ [.measured (.lockTimedOut .primary)]) := by
  have guarded := guarding.primary
  rw [live] at guarded
  have own := (guarded.own timer rfl).1.trans guarding.primaryId
  simp only [WakeLocks.onTimer, own, guarded.expire now]

/-- The live timer of the ack lock gives it back. -/
theorem Guarding.judged_ack {bridge : Bridge χ} {timer : LockTimer}
    (guarding : Guarding ceiling hold bridge primaryDue ackDue)
    (live : bridge.ackTimer = some timer) (now : Instant) :
    bridge.locks.onTimer timer now =
      (.released, { bridge.locks with ack := (bridge.locks.ack.giveBack now).1 },
        (bridge.locks.ack.giveBack now).2) := by
  have guarded := guarding.ack
  rw [live] at guarded
  have own := (guarded.own timer rfl).1.trans guarding.ackId
  simp only [WakeLocks.onTimer, own, guarded.expire now]

/-- A live timer of the primary lock that fires leaves the lock free and without a timer. -/
theorem Guarding.primaryFired {bridge : Bridge χ} {timer : LockTimer}
    (guarding : Guarding ceiling hold bridge primaryDue ackDue)
    (live : bridge.primaryTimer = some timer) (now : Instant) (due : Instant → Prop) :
    ∃ effects, StartsNone effects ∧
      ({ bridge with primaryTimer := none }.onLockTimer timer now).history =
        bridge.history ++ effects ∧
      Guarding ceiling hold ({ bridge with primaryTimer := none }.onLockTimer timer now) due
        ackDue := by
  have judged : ({ bridge with primaryTimer := none } : Bridge χ).locks.onTimer timer now = _ :=
    guarding.judged_primary live now
  have about : ∀ effect ∈ (bridge.locks.primary.giveBack now).2 ++
      [.measured (.lockTimedOut .primary)], effect.lock? = some bridge.locks.primary.id := by
    intro effect member
    rcases List.mem_append.mp member with member | member
    · exact WakeLock.lock_of_mem_giveBack member
    · rw [List.mem_singleton.mp member, guarding.primaryId]
      rfl
  have none : StartsNone ((bridge.locks.primary.giveBack now).2 ++
      [.measured (.lockTimedOut .primary)]) := by
    refine ⟨?_, not_mem_of_lock about (by simp [Effect.lock?])⟩
    simp [WakeLock.not_taken_giveBack]
  have freed : Guarding ceiling hold ({ bridge with
      primaryTimer := Option.none
      pending := bridge.pending.detachLocks
      locks := { bridge.locks with primary := (bridge.locks.primary.giveBack now).1 }
      totals := { bridge.totals with lockTimeouts := bridge.totals.lockTimeouts + 1 } }.emit
        ((bridge.locks.primary.giveBack now).2 ++ [Effect.measured (.lockTimedOut .primary)]))
      due ackDue :=
    guarding.of_primary (history_of_journal rfl) about rfl rfl rfl rfl
      (WakeLock.guarded_none rfl due)
  rw [onLockTimer_of_timedOut judged]
  have noticed := fun middle : Bridge χ =>
    sameHolds_withDetector middle (bridge.detector.onLockTimeout now)
  obtain ⟨effects, grown, beside⟩ := (noticed _).history
  refine ⟨_, none.append (.of_beside beside), ?_, (noticed _).guarding freed⟩
  rw [← List.append_assoc]
  exact grown.trans (congrArg (· ++ effects) (history_of_journal rfl))

/-- A live timer of the ack lock that fires leaves the lock free and without a timer. -/
theorem Guarding.ackFired {bridge : Bridge χ} {timer : LockTimer}
    (guarding : Guarding ceiling hold bridge primaryDue ackDue)
    (live : bridge.ackTimer = some timer) (now : Instant) (due : Instant → Prop) :
    ∃ effects, StartsNone effects ∧
      ({ bridge with ackTimer := none }.onLockTimer timer now).history =
        bridge.history ++ effects ∧
      Guarding ceiling hold ({ bridge with ackTimer := none }.onLockTimer timer now) primaryDue
        due := by
  have judged : ({ bridge with ackTimer := none } : Bridge χ).locks.onTimer timer now = _ :=
    guarding.judged_ack live now
  have about : ∀ effect ∈ (bridge.locks.ack.giveBack now).2,
      effect.lock? = some bridge.locks.ack.id := fun _ => WakeLock.lock_of_mem_giveBack
  rw [onLockTimer_of_not_timedOut judged (by simp)]
  refine ⟨(bridge.locks.ack.giveBack now).2, ?_, history_of_journal rfl, ?_⟩
  · exact ⟨WakeLock.not_taken_giveBack _ now _, not_mem_of_lock about (by simp [Effect.lock?])⟩
  · refine ⟨guarding.primaryId, guarding.ackId, guarding.primaryCeiling, guarding.ackCeiling, ?_,
      guarding.primary, WakeLock.guarded_none rfl due⟩
    rw [history_emit, framesHeld_append, WakeLock.frames_giveBack guarding.ackId]
    rfl

end

theorem history_onLockTimer (bridge : Bridge χ) (timer : LockTimer) (now : Instant) :
    bridge.history <+: (bridge.onLockTimer timer now).history := by
  obtain ⟨pending, -, same⟩ := sameRequests_onLockTimer bridge timer now
  obtain ⟨effects, grown, -⟩ := same.history
  exact ⟨effects, grown.symm⟩

theorem keeps_primaryFired {bridge : Bridge χ} {timer : LockTimer}
    (live : bridge.primaryTimer = some timer) (now : Instant) :
    Keeps now bridge ({ bridge with primaryTimer := none }.onLockTimer timer now) := by
  refine ⟨history_onLockTimer { bridge with primaryTimer := none } timer now, ?_⟩
  intro ceiling hold primaryDue ackDue _ guarding
  obtain ⟨effects, none, grown, freed⟩ := guarding.primaryFired live now primaryDue
  refine ⟨effects, grown, ?_⟩
  rw [renewed_of_not_mem none.taken, renewed_of_not_mem none.sent]
  exact freed

theorem keeps_ackFired {bridge : Bridge χ} {timer : LockTimer}
    (live : bridge.ackTimer = some timer) (now : Instant) :
    Keeps now bridge ({ bridge with ackTimer := none }.onLockTimer timer now) := by
  refine ⟨history_onLockTimer { bridge with ackTimer := none } timer now, ?_⟩
  intro ceiling hold primaryDue ackDue _ guarding
  obtain ⟨effects, none, grown, freed⟩ := guarding.ackFired live now ackDue
  refine ⟨effects, grown, ?_⟩
  rw [renewed_of_not_mem none.taken, renewed_of_not_mem none.sent]
  exact freed

/-- Locks that are both given back need no timers. -/
theorem keeps_gaveBack (bridge : Bridge χ) (now : Instant) :
    Keeps now bridge
      ({ bridge with
        locks := (bridge.locks.releaseAll now).1
        primaryTimer := none
        ackTimer := none }.emit (bridge.locks.releaseAll now).2) := by
  have fromPrimary : ∀ effect ∈ (bridge.locks.primary.clear now).2,
      effect.lock? = some bridge.locks.primary.id := fun _ => WakeLock.lock_of_mem_clear
  have fromAck : ∀ effect ∈ (bridge.locks.ack.clear now).2,
      effect.lock? = some bridge.locks.ack.id := fun _ => WakeLock.lock_of_mem_clear
  apply Keeps.of_startsNone (history_of_journal rfl)
  · exact StartsNone.append
      ⟨WakeLock.not_taken_clear _ now _, not_mem_of_lock fromPrimary (by simp [Effect.lock?])⟩
      ⟨WakeLock.not_taken_clear _ now _, not_mem_of_lock fromAck (by simp [Effect.lock?])⟩
  · intro ceiling hold primaryDue ackDue guarding
    constructor
    · exact (WakeLock.id_clear _ now).trans guarding.primaryId
    · exact (WakeLock.id_clear _ now).trans guarding.ackId
    · exact (WakeLock.ceiling_clear _ now).trans guarding.primaryCeiling
    · exact (WakeLock.ceiling_clear _ now).trans guarding.ackCeiling
    · have still := foldl_framesAfter (not_mem_of_lock fromPrimary (by simp [Effect.lock?]))
        (not_mem_of_lock fromPrimary (by simp [Effect.lock?, guarding.primaryId]))
        (framesHeld bridge.history)
      have none : framesHeld (bridge.history ++ (bridge.locks.releaseAll now).2) = 0 := by
        rw [framesHeld_append, WakeLocks.releaseAll, List.foldl_append, still, ← guarding.frames]
        exact WakeLock.frames_clear guarding.ackId now
      show (bridge.locks.ack.clear now).1.count.toNat = framesHeld (history (emit _ _))
      rw [WakeLock.count_clear, history_emit]
      exact none.symm
    · exact WakeLock.guarded_none (WakeLock.count_clear _ now) primaryDue
    · exact WakeLock.guarded_none (WakeLock.count_clear _ now) ackDue

/-! ## Courses -/

section

variable [Channel χ]

theorem LockStep.keeps {now : Instant} {before after : Bridge χ}
    (step : LockStep now before after) : Keeps now before after := by
  cases step with
  | beside same => exact same.keeps now
  | acquired room => exact keeps_acquireLock room now
  | released => exact keeps_releaseLock before now
  | acknowledged => exact keeps_sendAck before now
  | primaryFired live due => exact keeps_primaryFired live now
  | ackFired live due => exact keeps_ackFired live now
  | gaveBack => exact keeps_gaveBack before now

theorem LockCourse.keeps {now : Instant} {before after : Bridge χ}
    (course : LockCourse now before after) : Keeps now before after := by
  induction course with
  | refl => exact .refl now before
  | tail earlier step ih => exact ih.trans step.keeps

/-! ## Batches -/

section

variable {ceiling hold : Span} {primaryDue ackDue : Instant → Prop}

omit [Channel χ] in
/-- Once the timer of the primary lock had its chance to fire, a live one is due later. -/
theorem Guarding.firePrimaryTimer {bridge : Bridge χ}
    (guarding : Guarding ceiling hold bridge primaryDue ackDue) (now : Instant) :
    Guarding ceiling hold (bridge.firePrimaryTimer now) (now < ·) ackDue := by
  have waits : (∀ timer, bridge.primaryTimer = some timer → now < timer.deadline) →
      Guarding ceiling hold bridge (now < ·) ackDue := by
    intro later
    refine { guarding with primary := ⟨guarding.primary.live, ?_⟩ }
    intro timer live
    obtain ⟨lock, generation, -⟩ := guarding.primary.own timer live
    exact ⟨lock, generation, later timer live⟩
  unfold Bridge.firePrimaryTimer
  split
  · rename_i none
    apply waits
    simp [none]
  · rename_i timer live
    split
    · obtain ⟨effects, -, -, freed⟩ := guarding.primaryFired live now (now < ·)
      exact freed
    · rename_i early
      apply waits
      intro other alsoLive
      cases live.symm.trans alsoLive
      exact Nat.lt_of_not_le early

omit [Channel χ] in
/-- Once the timer of the ack lock had its chance to fire, a live one is due later. -/
theorem Guarding.fireAckTimer {bridge : Bridge χ}
    (guarding : Guarding ceiling hold bridge primaryDue ackDue) (now : Instant) :
    Guarding ceiling hold (bridge.fireAckTimer now) primaryDue (now < ·) := by
  have waits : (∀ timer, bridge.ackTimer = some timer → now < timer.deadline) →
      Guarding ceiling hold bridge primaryDue (now < ·) := by
    intro later
    refine { guarding with ack := ⟨guarding.ack.live, ?_⟩ }
    intro timer live
    obtain ⟨lock, generation, -⟩ := guarding.ack.own timer live
    exact ⟨lock, generation, later timer live⟩
  unfold Bridge.fireAckTimer
  split
  · rename_i none
    apply waits
    simp [none]
  · rename_i timer live
    split
    · obtain ⟨effects, -, -, freed⟩ := guarding.ackFired live now (now < ·)
      exact freed
    · rename_i early
      apply waits
      intro other alsoLive
      cases live.symm.trans alsoLive
      exact Nat.lt_of_not_le early

/-- After a batch no live timer is due. -/
theorem Guarding.handleBatch {bridge : Bridge χ} {events : List Event} {now : Instant}
    (guarding : Guarding ceiling hold bridge primaryDue ackDue)
    (sound : (bridge.handleBatch events now).collision = none) (account : Accounted bridge 0)
    (room : bridge.pending.size + (EventLoop.submissions events).length + RequestKind.maxRungs <
      UInt32.size)
    (frames : FrameRoom (bridge.handleBatch events now).history)
    (ceilingAhead : 0 < ceiling) (holdAhead : 0 < hold) :
    Guarding ceiling hold (bridge.handleBatch events now) (now < ·) (now < ·) := by
  -- What the timers leave is still to come, and later steps only set deadlines after this instant.
  have fired := (guarding.firePrimaryTimer now).fireAckTimer now
  have course := (lockCourse_ageOut ((bridge.firePrimaryTimer now).fireAckTimer now) now).trans
    (lockCourse_batch sound account room)
  obtain ⟨effects, -, kept⟩ := (LockCourse.keeps course).guards frames fired
  exact { kept with
    primary := kept.primary.mono fun _ => lt_of_renewed ceilingAhead
    ack := kept.ack.mono fun _ => lt_of_renewed holdAhead }

end

/-! ## Settings -/

omit [Channel χ] in
/-- Settings that make sense give both locks time. -/
theorem spans_of_valid {config : BridgeConfig} (valid : config.validate = .ok ()) :
    0 < config.wakeLockTimeout ∧ 0 < config.ackWakeLockTimeout := by
  have positive : ∀ {ms : UInt64}, ms ≠ 0 → 0 < Span.ofMillis ms.toNat := by
    intro ms nonzero
    apply Nat.mul_pos _ (by decide)
    rw [Nat.pos_iff_ne_zero]
    exact fun zero => nonzero (UInt64.toNat_inj.mp zero)
  unfold BridgeConfig.validate at valid
  split at valid
  · cases valid
  · split at valid
    · cases valid
    · rename_i timeout
      split at valid
      · cases valid
      · rename_i hold
        exact ⟨positive timeout, positive hold⟩

end

end Bridge

end ModemLink
