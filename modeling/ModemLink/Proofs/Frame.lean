/-
Module: ModemLink.Proofs.Frame
Purpose: What the small steps of a bridge leave as they were, and what they add to its history.
Main exports: outcomes, handovers, SameRequests, Settles
-/
import ModemLink.Bridge.Batch

namespace ModemLink

/-!
Handlers are made of small steps, and most of these concern one thing only: a lock, a counter, the
fault detector, a listener.  `SameRequests` says that such a step leaves everything alone that
decides what becomes of requests; the history grows at its end by effects of other sorts.  `Settles`
says the same of the end of attempts that are out of the table already, with the outcomes told.
-/

namespace Effect

/-- The request handed to the channel in this effect, with the reply. -/
def handed? : Effect → Option (Outbound × SendReply)
  | handed request reply => some (request, reply)
  | _ => none

/-- The lock this effect is about. -/
def lock? : Effect → Option LockId
  | lockTaken lock | lockGivenBack lock => some lock
  | measured (.lockAcquired lock) | measured (.lockTimedOut lock)
  | measured (.lockHeld lock _) => some lock
  | _ => none

/-- Neither a hand-over of a request nor an outcome. -/
structure IsAside (effect : Effect) : Prop where
  outcome : effect.outcome? = none
  handed : effect.handed? = none

theorem IsAside.of_lock {effect : Effect} {lock : LockId} (about : effect.lock? = some lock) :
    effect.IsAside := by
  cases effect with
  | lockTaken | lockGivenBack | measured => exact ⟨rfl, rfl⟩
  | handed | acknowledged | settled | indicated | statusTold => simp [lock?] at about

theorem outcomes_of_asides {effects : List Effect} (asides : ∀ effect ∈ effects, effect.IsAside) :
    effects.filterMap outcome? = [] :=
  List.filterMap_eq_nil_iff.mpr fun effect member => (asides effect member).outcome

theorem handovers_of_asides {effects : List Effect} (asides : ∀ effect ∈ effects, effect.IsAside) :
    effects.filterMap handed? = [] :=
  List.filterMap_eq_nil_iff.mpr fun effect member => (asides effect member).handed

end Effect

/-! ## Effects of the locks -/

namespace WakeLock

theorem lock_of_mem_take {lock : WakeLock} {now : Instant} {effect : Effect}
    (member : effect ∈ (lock.take now).2) : effect.lock? = some lock.id := by
  unfold take at member
  split at member
  · simp only [List.mem_cons, List.not_mem_nil, or_false] at member
    rcases member with rfl | rfl <;> rfl
  · simp at member

theorem lock_of_mem_giveBack {lock : WakeLock} {now : Instant} {effect : Effect}
    (member : effect ∈ (lock.giveBack now).2) : effect.lock? = some lock.id := by
  simp only [giveBack, List.mem_cons, Option.mem_toList, Option.map_eq_some_iff] at member
  rcases member with rfl | ⟨start, -, rfl⟩ <;> rfl

theorem lock_of_mem_drop {lock : WakeLock} {now : Instant} {effect : Effect}
    (member : effect ∈ (lock.drop now).2) : effect.lock? = some lock.id := by
  unfold drop at member
  split at member
  · simp at member
  · split at member
    · exact lock_of_mem_giveBack member
    · simp at member

theorem lock_of_mem_expire {lock : WakeLock} {generation : UInt64} {now : Instant}
    {effect : Effect} (member : effect ∈ (lock.expire generation now).2.2) :
    effect.lock? = some lock.id := by
  unfold expire at member
  split at member
  · exact lock_of_mem_giveBack member
  · simp at member

theorem lock_of_mem_clear {lock : WakeLock} {now : Instant} {effect : Effect}
    (member : effect ∈ (lock.clear now).2) : effect.lock? = some lock.id := by
  unfold clear at member
  split at member
  · simp at member
  · exact lock_of_mem_giveBack member

end WakeLock

namespace WakeLocks

theorem lock_of_mem_acquire {locks : WakeLocks} {now : Instant} {effect : Effect}
    (member : effect ∈ (locks.acquire now).2.2) : effect.lock? = some locks.primary.id := by
  unfold acquire at member
  simp only at member
  split at member <;> exact WakeLock.lock_of_mem_take member

theorem lock_of_mem_release {locks : WakeLocks} {now : Instant} {effect : Effect}
    (member : effect ∈ (locks.release now).2) : effect.lock? = some locks.primary.id :=
  WakeLock.lock_of_mem_drop member

theorem lock_of_mem_holdForAck {locks : WakeLocks} {now : Instant} {effect : Effect}
    (member : effect ∈ (locks.holdForAck now).2.2) : effect.lock? = some locks.ack.id :=
  WakeLock.lock_of_mem_take member

/-- Timers of locks hand nothing over and settle nothing. -/
theorem asides_onTimer (locks : WakeLocks) (timer : LockTimer) (now : Instant) :
    ∀ effect ∈ (locks.onTimer timer now).2.2, effect.IsAside := by
  intro effect member
  unfold onTimer at member
  split at member
  · split at member
    · rename_i outstanding primary effects expired
      simp only [List.mem_append, List.mem_cons, List.not_mem_nil, or_false] at member
      rcases member with member | rfl
      · exact .of_lock (WakeLock.lock_of_mem_expire (by rw [expired]; exact member))
      · exact ⟨rfl, rfl⟩
    · simp at member
  · split at member
    · rename_i ack effects expired
      exact .of_lock (WakeLock.lock_of_mem_expire (by rw [expired]; exact member))
    · simp at member

theorem asides_releaseAll (locks : WakeLocks) (now : Instant) :
    ∀ effect ∈ (locks.releaseAll now).2, effect.IsAside := by
  intro effect member
  simp only [releaseAll, List.mem_append] at member
  rcases member with member | member
  · exact .of_lock (WakeLock.lock_of_mem_clear member)
  · exact .of_lock (WakeLock.lock_of_mem_clear member)

end WakeLocks

namespace Bridge

variable {χ : Type}

/-- The outcomes delivered so far, with the tickets of their requests. -/
def outcomes (bridge : Bridge χ) : List (Ticket × Outcome) :=
  bridge.history.filterMap Effect.outcome?

/-- The requests handed to the channel so far, with its replies. -/
def handovers (bridge : Bridge χ) : List (Outbound × SendReply) :=
  bridge.history.filterMap Effect.handed?

/-! ## Steps that do not concern requests -/

/-- `after` has the requests of `before`: the same table, versions and serials, and nothing was
handed over or settled in between. -/
structure SameRequests (before after : Bridge χ) : Prop where
  maxAge : after.maxAge = before.maxAge
  serials : after.serials = before.serials
  pending : after.pending = before.pending
  versions : after.versions = before.versions
  running : after.running = before.running
  collision : after.collision = before.collision
  history : ∃ effects, after.history = before.history ++ effects ∧
    ∀ effect ∈ effects, effect.IsAside

namespace SameRequests

theorem refl (bridge : Bridge χ) : SameRequests bridge bridge :=
  ⟨rfl, rfl, rfl, rfl, rfl, rfl, [], by simp, by simp⟩

theorem trans {first middle last : Bridge χ} (earlier : SameRequests first middle)
    (later : SameRequests middle last) : SameRequests first last := by
  obtain ⟨old, oldHistory, oldAside⟩ := earlier.history
  obtain ⟨new, newHistory, newAside⟩ := later.history
  refine ⟨later.maxAge.trans earlier.maxAge, later.serials.trans earlier.serials,
    later.pending.trans earlier.pending, later.versions.trans earlier.versions,
    later.running.trans earlier.running, later.collision.trans earlier.collision,
    old ++ new, ?_, ?_⟩
  · rw [newHistory, oldHistory, List.append_assoc]
  · intro effect member
    rcases List.mem_append.mp member with member | member
    · exact oldAside effect member
    · exact newAside effect member

theorem withPending {before after : Bridge χ} (same : SameRequests before after)
    (pending : PendingTable) :
    SameRequests { before with pending := pending } { after with pending := pending } :=
  ⟨same.maxAge, same.serials, rfl, same.versions, same.running, same.collision, same.history⟩

theorem outcomes {before after : Bridge χ} (same : SameRequests before after) :
    after.outcomes = before.outcomes := by
  obtain ⟨effects, grown, asides⟩ := same.history
  rw [Bridge.outcomes, grown, List.filterMap_append, Effect.outcomes_of_asides asides,
    List.append_nil]
  rfl

theorem handovers {before after : Bridge χ} (same : SameRequests before after) :
    after.handovers = before.handovers := by
  obtain ⟨effects, grown, asides⟩ := same.history
  rw [Bridge.handovers, grown, List.filterMap_append, Effect.handovers_of_asides asides,
    List.append_nil]
  rfl

end SameRequests

theorem history_of_journal {before after : Bridge χ} {effects : List Effect}
    (grown : after.journal = effects.reverse ++ before.journal) :
    after.history = before.history ++ effects := by
  simp [history, grown]

theorem sameRequests_emit (bridge : Bridge χ) {effects : List Effect}
    (asides : ∀ effect ∈ effects, effect.IsAside) : SameRequests bridge (bridge.emit effects) :=
  ⟨rfl, rfl, rfl, rfl, rfl, rfl, effects, history_emit bridge effects, asides⟩

theorem sameRequests_measure (bridge : Bridge χ) (measurement : Measurement) :
    SameRequests bridge (bridge.measure measurement) := by
  apply sameRequests_emit
  intro effect member
  rw [List.mem_singleton.mp member]
  exact ⟨rfl, rfl⟩

theorem sameRequests_schedule (bridge : Bridge χ) (timer : LockTimer) :
    SameRequests bridge (bridge.schedule timer) := by
  unfold schedule
  split <;> exact ⟨rfl, rfl, rfl, rfl, rfl, rfl, [], (List.append_nil _).symm, by simp⟩

theorem sameRequests_acquireLock (bridge : Bridge χ) (now : Instant) :
    SameRequests bridge (bridge.acquireLock now) := by
  have asides : ∀ effect ∈ (bridge.locks.acquire now).2.2, effect.IsAside := fun effect member =>
    .of_lock (WakeLocks.lock_of_mem_acquire member)
  unfold acquireLock
  split
  · rename_i timer locks effects acquired
    rw [acquired] at asides
    have taken : SameRequests bridge ({ bridge with locks := locks }.emit effects) :=
      ⟨rfl, rfl, rfl, rfl, rfl, rfl, effects, history_of_journal rfl, asides⟩
    exact taken.trans (sameRequests_schedule _ timer)
  · rename_i locks effects acquired
    rw [acquired] at asides
    exact ⟨rfl, rfl, rfl, rfl, rfl, rfl, effects, history_of_journal rfl, asides⟩

@[simp] theorem channel_acquireLock (bridge : Bridge χ) (now : Instant) :
    (bridge.acquireLock now).channel = bridge.channel := by
  unfold acquireLock
  split
  · unfold schedule
    split <;> rfl
  · rfl

theorem sameRequests_releaseLock (bridge : Bridge χ) (now : Instant) :
    SameRequests bridge (bridge.releaseLock now) :=
  ⟨rfl, rfl, rfl, rfl, rfl, rfl, (bridge.locks.release now).2, history_of_journal rfl,
    fun _ member => .of_lock (WakeLocks.lock_of_mem_release member)⟩

theorem sameRequests_releaseIf (bridge : Bridge χ) (held : Bool) (now : Instant) :
    SameRequests bridge (bridge.releaseIf held now) := by
  unfold releaseIf
  split
  · exact sameRequests_releaseLock bridge now
  · exact .refl bridge

theorem sameRequests_recordOutcome (bridge : Bridge χ) (kind : RequestKind) (outcome : Outcome)
    (latency : Span) : SameRequests bridge (bridge.recordOutcome kind outcome latency) := by
  refine ⟨rfl, rfl, rfl, rfl, rfl, rfl, _, history_of_journal rfl, ?_⟩
  intro effect member
  simp only [List.mem_cons, List.not_mem_nil, or_false] at member
  rcases member with rfl | rfl <;> exact ⟨rfl, rfl⟩

theorem sameRequests_publishStatus (bridge : Bridge χ) (change : Option FaultStatus) :
    SameRequests bridge (bridge.publishStatus change) := by
  cases change with
  | none => exact .refl bridge
  | some status =>
      apply sameRequests_emit
      intro effect member
      simp only [List.mem_cons, List.mem_map] at member
      rcases member with rfl | ⟨listener, -, rfl⟩ <;> exact ⟨rfl, rfl⟩

theorem sameRequests_withDetector (bridge : Bridge χ)
    (step : Option FaultStatus × FaultDetector) :
    SameRequests bridge (bridge.withDetector step) := by
  have moved : SameRequests bridge { bridge with detector := step.2 } :=
    ⟨rfl, rfl, rfl, rfl, rfl, rfl, [], (List.append_nil _).symm, by simp⟩
  exact moved.trans (sameRequests_publishStatus _ step.1)

theorem sendAck_of_refused [Channel χ] {bridge : Bridge χ} {reason : String} {channel : χ}
    (reply : Channel.sendAck bridge.channel = (some reason, channel)) (now : Instant) :
    bridge.sendAck now = { bridge with channel := channel }.emit [.acknowledged false] := by
  simp [sendAck, reply]

theorem sendAck_of_accepted [Channel χ] {bridge : Bridge χ} {channel : χ}
    (reply : Channel.sendAck bridge.channel = (none, channel)) (now : Instant) :
    bridge.sendAck now =
      ({ bridge with
        channel := channel
        totals := { bridge.totals with acksSent := bridge.totals.acksSent + 1 }
        locks := (bridge.locks.holdForAck now).2.1 }.emit
          (.acknowledged true :: .measured .ackSent :: (bridge.locks.holdForAck now).2.2)).schedule
        (bridge.locks.holdForAck now).1 := by
  simp [sendAck, reply, emit]

theorem sameRequests_sendAck [Channel χ] (bridge : Bridge χ) (now : Instant) :
    SameRequests bridge (bridge.sendAck now) := by
  cases reply : Channel.sendAck bridge.channel with
  | mk refusal channel =>
      cases refusal with
      | some reason =>
          rw [sendAck_of_refused reply]
          refine ⟨rfl, rfl, rfl, rfl, rfl, rfl, _, history_of_journal rfl, ?_⟩
          intro effect member
          rw [List.mem_singleton.mp member]
          exact ⟨rfl, rfl⟩
      | none =>
          rw [sendAck_of_accepted reply]
          refine .trans ?_ (sameRequests_schedule _ (bridge.locks.holdForAck now).1)
          refine ⟨rfl, rfl, rfl, rfl, rfl, rfl, _, history_of_journal rfl, ?_⟩
          intro effect member
          simp only [List.mem_cons] at member
          rcases member with rfl | rfl | member
          · exact ⟨rfl, rfl⟩
          · exact ⟨rfl, rfl⟩
          · exact .of_lock (WakeLocks.lock_of_mem_holdForAck member)

theorem sameRequests_sendAckIf [Channel χ] (bridge : Bridge χ) (asked : Bool) (now : Instant) :
    SameRequests bridge (bridge.sendAckIf asked now) := by
  unfold sendAckIf
  split
  · exact sameRequests_sendAck bridge now
  · exact .refl bridge

/-! ## The end of attempts -/

/-- `after` differs from `before` in the outcomes `settled`, told in this order, and in nothing else
that concerns requests. -/
structure Settles (before after : Bridge χ) (settled : List (Ticket × Outcome)) : Prop where
  maxAge : after.maxAge = before.maxAge
  serials : after.serials = before.serials
  pending : after.pending = before.pending
  versions : after.versions = before.versions
  running : after.running = before.running
  collision : after.collision = before.collision
  history : ∃ effects, after.history = before.history ++ effects ∧
    effects.filterMap Effect.handed? = [] ∧ effects.filterMap Effect.outcome? = settled

theorem SameRequests.settles {before after : Bridge χ} (same : SameRequests before after) :
    Settles before after [] := by
  obtain ⟨effects, grown, asides⟩ := same.history
  exact ⟨same.maxAge, same.serials, same.pending, same.versions, same.running, same.collision,
    effects, grown, Effect.handovers_of_asides asides, Effect.outcomes_of_asides asides⟩

namespace Settles

theorem trans {first middle last : Bridge χ} {old new : List (Ticket × Outcome)}
    (earlier : Settles first middle old) (later : Settles middle last new) :
    Settles first last (old ++ new) := by
  obtain ⟨before, beforeHistory, beforeHanded, beforeSettled⟩ := earlier.history
  obtain ⟨after, afterHistory, afterHanded, afterSettled⟩ := later.history
  refine ⟨later.maxAge.trans earlier.maxAge, later.serials.trans earlier.serials,
    later.pending.trans earlier.pending, later.versions.trans earlier.versions,
    later.running.trans earlier.running, later.collision.trans earlier.collision,
    before ++ after, ?_, ?_, ?_⟩
  · rw [afterHistory, beforeHistory, List.append_assoc]
  · rw [List.filterMap_append, beforeHanded, afterHanded, List.append_nil]
  · rw [List.filterMap_append, beforeSettled, afterSettled]

theorem outcomes {before after : Bridge χ} {settled : List (Ticket × Outcome)}
    (settles : Settles before after settled) : after.outcomes = before.outcomes ++ settled := by
  obtain ⟨effects, grown, -, told⟩ := settles.history
  rw [Bridge.outcomes, grown, List.filterMap_append, told]
  rfl

theorem handovers {before after : Bridge χ} {settled : List (Ticket × Outcome)}
    (settles : Settles before after settled) : after.handovers = before.handovers := by
  obtain ⟨effects, grown, handed, -⟩ := settles.history
  rw [Bridge.handovers, grown, List.filterMap_append, handed, List.append_nil]
  rfl

end Settles

theorem settles_emit (bridge : Bridge χ) (ticket : Ticket) (outcome : Outcome) :
    Settles bridge (bridge.emit [.settled ticket outcome]) [(ticket, outcome)] :=
  ⟨rfl, rfl, rfl, rfl, rfl, rfl, _, history_emit bridge _, rfl, rfl⟩

theorem settles_finish (bridge : Bridge χ) (attempt : Attempt) (outcome : Outcome)
    (now : Instant) :
    Settles bridge (bridge.finish attempt outcome now) [(attempt.ticket, outcome)] := by
  have released := sameRequests_releaseIf bridge attempt.holdsLock now
  have recorded := released.trans
    (sameRequests_recordOutcome _ attempt.kind outcome (attempt.latency now))
  exact recorded.settles.trans (settles_emit _ attempt.ticket outcome)

/-- Attempts that fail together are told in their order, each the failure of its own kind. -/
theorem settles_finishAll (bridge : Bridge χ) (attempts : List Attempt)
    (failure : RequestKind → Failure) (now : Instant) :
    Settles bridge (bridge.finishAll attempts failure now)
      (attempts.map fun attempt => (attempt.ticket, .failed (failure attempt.kind))) := by
  induction attempts generalizing bridge with
  | nil => exact (SameRequests.refl bridge).settles
  | cons attempt rest ih =>
      exact (settles_finish bridge attempt (.failed (failure attempt.kind)) now).trans (ih _)

end Bridge

end ModemLink
