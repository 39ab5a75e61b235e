/-
Module: ModemLink.Proofs.FailedSends
Purpose: A request that the channel cannot deliver leaves the bridge as it was.
Main exports:
  Rested, rested_run, Restored, Tidy, restored_releaseLock, restored_unavailable,
  failed_send_undone
-/
import ModemLink.Proofs.Nesting
import ModemLink.Proofs.Teardown

namespace ModemLink

/-!
Before a request is handed over it takes a reference to the primary lock, and the first reference
starts a timer.  When the channel cannot deliver the request all of this is undone.  A lock that was
free needs an invariant for that: it has to be free without a trace, with no start of a hold and no
live timer, because that is how dropping the last reference leaves it.  Only its generation has
moved on.
-/

namespace WakeLock

/-- A lock that is free is held since no instant. -/
def Rested (lock : WakeLock) : Prop :=
  lock.count = 0 → lock.heldSince = none

variable {lock : WakeLock}

theorem rested_giveBack (lock : WakeLock) (now : Instant) : (lock.giveBack now).1.Rested :=
  fun _ => rfl

theorem Rested.drop (rested : lock.Rested) (now : Instant) : (lock.drop now).1.Rested := by
  unfold WakeLock.drop
  split
  · exact rested
  · split
    · exact lock.rested_giveBack now
    · rename_i several
      intro none
      have one : lock.count - 1 + 1 = 0 + 1 := congrArg (· + 1) none
      rw [UInt32.sub_add_cancel] at one
      exact absurd one several

theorem Rested.expire (rested : lock.Rested) (generation : UInt64) (now : Instant) :
    (lock.expire generation now).2.1.Rested := by
  unfold WakeLock.expire
  split
  · exact lock.rested_giveBack now
  · exact rested

theorem Rested.clear (rested : lock.Rested) (now : Instant) : (lock.clear now).1.Rested := by
  unfold WakeLock.clear
  split
  · exact rested
  · exact lock.rested_giveBack now

/-- The first reference, dropped again, leaves a free lock of another generation. -/
theorem drop_take_of_free (rested : lock.Rested) (free : lock.count = 0) (now : Instant) :
    (((lock.take now).1.arm now).2.drop now).1 =
      { lock with generation := lock.generation + 1 } := by
  obtain ⟨id, count, generation, heldSince, ceiling⟩ := lock
  obtain rfl : count = 0 := free
  obtain rfl : heldSince = none := rested rfl
  simp [take, arm, WakeLock.drop, giveBack]

/-- The generation has no part in dropping a reference. -/
theorem drop_of_generation (lock : WakeLock) (generation : UInt64) (now : Instant) :
    { lock with generation := generation }.drop now =
      ({ (lock.drop now).1 with generation := generation }, (lock.drop now).2) := by
  unfold WakeLock.drop
  simp only
  split
  · rfl
  · split <;> rfl

end WakeLock

theorem WakeLocks.rested_onTimer {locks : WakeLocks} (rested : locks.primary.Rested)
    (timer : LockTimer) (now : Instant) : (locks.onTimer timer now).2.1.primary.Rested := by
  have expired := rested.expire timer.generation now
  unfold onTimer
  split
  · split
    · rename_i judged
      rw [judged] at expired
      exact expired
    · exact rested
  · split <;> exact rested

/-- Under a serial that is free an attempt can be put in. -/
theorem PendingTable.insert?_of_free {table : PendingTable} {attempt : Attempt}
    (free : table.find? attempt.serial = none) :
    ∃ next, table.insert? attempt = some next := by
  have absent : attempt.serial ∉ table.attempts.map Attempt.serial := by
    intro taken
    obtain ⟨other, member, same⟩ := List.mem_map.mp taken
    simpa [same] using List.find?_eq_none.mp free other member
  exact ⟨_, dif_neg absent⟩

namespace Bridge

variable {χ : Type}

/-! ## A free lock is held since no instant -/

section

variable [Channel χ]

theorem primary_sendAck (bridge : Bridge χ) (now : Instant) :
    (bridge.sendAck now).locks.primary = bridge.locks.primary := by
  rcases reply : Channel.sendAck bridge.channel with ⟨_ | reason, channel⟩
  · rw [sendAck_of_accepted reply]
    unfold schedule
    split <;> rfl
  · rw [sendAck_of_refused reply]
    rfl

theorem LockStep.rested {now : Instant} {before after : Bridge χ} (step : LockStep now before after)
    (rested : before.locks.primary.Rested) : after.locks.primary.Rested := by
  cases step with
  | beside same => exact same.locks ▸ rested
  | acquired room =>
      have taken : (before.acquireLock now).HasDepth 0 := hasDepth_acquireLock room now
      exact fun free => absurd free taken.held
  | released => exact rested.drop now
  | acknowledged =>
      rw [primary_sendAck]
      exact rested
  | primaryFired | ackFired =>
      rw [(locks_onLockTimer _ _ now).1]
      exact WakeLocks.rested_onTimer rested _ now
  | gaveBack => exact rested.clear now

theorem LockCourse.rested {now : Instant} {before after : Bridge χ}
    (course : LockCourse now before after) (rested : before.locks.primary.Rested) :
    after.locks.primary.Rested := by
  induction course with
  | refl => exact rested
  | tail earlier step ih => exact step.rested ih

theorem rested_run {calls : List (Call χ)} {bridge : Bridge χ}
    (sound : (bridge.run calls).collision = none) (account : Accounted bridge 0)
    (room : HasRoom bridge calls) (rested : bridge.locks.primary.Rested) :
    (bridge.run calls).locks.primary.Rested := by
  induction calls generalizing bridge with
  | nil => exact rested
  | cons first rest ih =>
      have after : (bridge.call first).collision = none := collision_of_run sound
      apply ih sound (accounted_call after account room.1) room.2
      cases made : first.instant? with
      | none =>
          rw [(sameHolds_call made).locks]
          exact rested
      | some now => exact (lockCourse_call made after account room.1).rested rested

end

/-! ## Bridges that differ in nothing that matters -/

/-- The bridge over another channel, with another journal and a primary lock of another
generation. -/
def besides (bridge : Bridge χ) (channel : χ) (journal : List Effect) (generation : UInt64) :
    Bridge χ :=
  { bridge with
    channel := channel
    journal := journal
    locks := { bridge.locks with
      primary := { bridge.locks.primary with generation := generation } } }

/-- Of all that a bridge keeps only the channel, the journal and the generation of the primary lock
differ. -/
def Restored (before after : Bridge χ) : Prop :=
  ∃ channel journal generation, after = before.besides channel journal generation

namespace Restored

theorem refl (bridge : Bridge χ) : Restored bridge bridge :=
  ⟨_, _, _, rfl⟩

theorem trans {first middle last : Bridge χ} (earlier : Restored first middle)
    (later : Restored middle last) : Restored first last := by
  obtain ⟨_, _, _, rfl⟩ := earlier
  obtain ⟨_, _, _, rfl⟩ := later
  exact ⟨_, _, _, rfl⟩

theorem count {before after : Bridge χ} (restored : Restored before after) :
    after.locks.primary.count = before.locks.primary.count := by
  obtain ⟨_, _, _, rfl⟩ := restored
  rfl

theorem retrying {before after : Bridge χ} (restored : Restored before after) (kind : RequestKind)
    (failed version : Version) :
    Restored (before.retrying kind failed version) (after.retrying kind failed version) := by
  obtain ⟨_, _, _, rfl⟩ := restored
  exact ⟨_, _, _, rfl⟩

theorem recorded {before after : Bridge χ} (restored : Restored before after)
    (outcomeClass : OutcomeClass) :
    Restored { before with totals := before.totals.record outcomeClass }
      { after with totals := after.totals.record outcomeClass } := by
  obtain ⟨_, _, _, rfl⟩ := restored
  exact ⟨_, _, _, rfl⟩

theorem releaseIf {before after : Bridge χ} (restored : Restored before after) (held : Bool)
    (now : Instant) : Restored (before.releaseIf held now) (after.releaseIf held now) := by
  obtain ⟨channel, journal, generation, rfl⟩ := restored
  cases held with
  | false => exact ⟨channel, journal, generation, rfl⟩
  | true =>
      have dropped := WakeLock.drop_of_generation before.locks.primary generation now
      refine ⟨channel, ((before.besides channel journal generation).releaseLock now).journal,
        generation, ?_⟩
      simp only [Bridge.releaseIf, if_true, releaseLock, WakeLocks.release, besides, emit, dropped]
      rfl

end Restored

/-- A lock that is free is free without a trace. -/
structure Tidy (bridge : Bridge χ) : Prop where
  id : bridge.locks.primary.id = .primary
  rested : bridge.locks.primary.Rested
  free : bridge.locks.primary.count = 0 → bridge.primaryTimer = none

theorem Tidy.of_restored {before after : Bridge χ} (tidy : Tidy before)
    (restored : Restored before after) : Tidy after := by
  obtain ⟨_, _, _, rfl⟩ := restored
  exact ⟨tidy.id, tidy.rested, tidy.free⟩

/-- A reference that is taken and dropped again leaves no trace. -/
theorem restored_releaseLock {bridge : Bridge χ} (tidy : Tidy bridge)
    (room : bridge.locks.primary.count.toNat + 1 < UInt32.size) (now : Instant) :
    Restored bridge ((bridge.acquireLock now).releaseLock now) := by
  by_cases free : bridge.locks.primary.count = 0
  · have own : ((bridge.locks.primary.take now).1.arm now).1.lock = .primary :=
      (WakeLock.id_take _ now).trans tidy.id
    have dropped := WakeLock.drop_take_of_free tidy.rested free now
    have notHeld : { bridge.locks.primary with
        generation := bridge.locks.primary.generation + 1 }.isHeld = false := by
      simp [WakeLock.isHeld, free]
    refine ⟨bridge.channel, ((bridge.acquireLock now).releaseLock now).journal,
      bridge.locks.primary.generation + 1, ?_⟩
    rw [acquireLock_of_free free, schedule_primary _ own]
    simp only [releaseLock, WakeLocks.release, besides, emit, dropped, notHeld]
    rw [tidy.free free]
    rfl
  · have has : bridge.HasDepth 1 := ⟨free, room⟩
    rw [acquireLock_of_hasDepth (has.mono (Nat.zero_le 1)), releaseLock_deeper has, deeper_zero]
    exact .refl bridge

theorem restored_finish (bridge : Bridge χ) (attempt : Attempt) (outcome : Outcome)
    (now : Instant) :
    Restored
      { bridge.releaseIf attempt.holdsLock now with
        totals := (bridge.releaseIf attempt.holdsLock now).totals.record outcome.outcomeClass }
      (bridge.finish attempt outcome now) := by
  unfold finish
  generalize bridge.releaseIf attempt.holdsLock now = released
  exact ⟨_, _, _, rfl⟩

theorem restored_handOver (bridge : Bridge χ) (attempt : Attempt) (reply : SendReply) (channel : χ)
    (now : Instant) :
    Restored (bridge.acquireLock now) (bridge.handOver attempt reply channel now) := by
  unfold handOver
  generalize bridge.acquireLock now = acquired
  exact ⟨_, _, _, rfl⟩

/-- An attempt that was handed over in vain leaves its outcome in the counts. -/
theorem restored_unavailable {bridge : Bridge χ} (tidy : Tidy bridge)
    (room : bridge.locks.primary.count.toNat + 1 < UInt32.size) (attempt : Attempt)
    (reason : String) (channel : χ) (now : Instant) :
    Restored { bridge with totals := bridge.totals.record .channelUnavailable }
      ((bridge.handOver attempt (.unavailable reason) channel now).finish attempt.holding
        (.failed (.channelUnavailable attempt.kind)) now) := by
  have handed := restored_handOver bridge attempt (.unavailable reason) channel now
  have undone := (restored_releaseLock tidy room now).trans (handed.releaseIf true now)
  exact (undone.recorded .channelUnavailable).trans (restored_finish _ attempt.holding _ now)

theorem channel_publishStatus (bridge : Bridge χ) (change : Option FaultStatus) :
    (bridge.publishStatus change).channel = bridge.channel := by
  cases change <;> rfl

theorem restored_publishStatus (bridge : Bridge χ) (change : Option FaultStatus) :
    Restored bridge (bridge.publishStatus change) := by
  cases change with
  | none => exact .refl bridge
  | some status => exact ⟨_, _, _, rfl⟩

section

variable [Channel χ]

theorem issue_of_unavailable {bridge : Bridge χ} {attempt : Attempt} {reason : String} {channel : χ}
    (spoken : bridge.versions.current attempt.kind = some attempt.version)
    (free : bridge.pending.find? attempt.serial = none)
    (replied : Channel.send bridge.channel attempt.outbound = (.unavailable reason, channel))
    (now : Instant) :
    bridge.issue attempt now =
      (bridge.handOver attempt (.unavailable reason) channel now).finish attempt.holding
        (.failed (.channelUnavailable attempt.kind)) now := by
  have free : bridge.pending.find? attempt.holding.serial = none := free
  obtain ⟨pending, inserted⟩ := PendingTable.insert?_of_free free
  exact issue_of_dealt (offer_of_inserted spoken inserted replied now)

/-- An answer that asks for no acknowledgement is seen by the fault detector, and no more is done
before it is acted on. -/
theorem restored_answered (bridge : Bridge χ) (attempt : Attempt) {header : AnswerHeader}
    (plain : header.type.ackExpected = false) (now : Instant) :
    Restored
      { bridge with
        pending := bridge.pending.erase header.serial
        detector := (bridge.detector.onAnswer attempt.kind header.code now).2 }
      (bridge.answered attempt header now) := by
  simp only [answered, plain]
  exact restored_publishStatus _ _

theorem channel_answered (bridge : Bridge χ) (attempt : Attempt) {header : AnswerHeader}
    (plain : header.type.ackExpected = false) (now : Instant) :
    (bridge.answered attempt header now).channel = bridge.channel := by
  simp only [answered, plain]
  exact channel_publishStatus _ _

/-- A free lock is free without a trace, whatever a bridge went through. -/
theorem tidy_run {calls : List (Call χ)} {bridge : Bridge χ}
    (sound : (bridge.run calls).collision = none) (account : Accounted bridge 0)
    (room : HasRoom bridge calls) (idle : Idle bridge) (rested : bridge.locks.primary.Rested) :
    Tidy (bridge.run calls) where
  id := (accounted_run sound account room).primary
  rested := rested_run sound account room rested
  free := by
    intro free
    exact (idle_run sound account room idle).free (WakeLock.isHeld_eq_false_iff.mpr free)

/-- A new request that cannot be delivered. -/
theorem restored_submit {bridge : Bridge χ} (tidy : Tidy bridge)
    (room : bridge.locks.primary.count.toNat + 1 < UInt32.size) {submission : Submission}
    {version : Version} {now : Instant} {reason : String} {channel : χ}
    (free : bridge.pending.find? submission.serial = none)
    (spoken : bridge.versions.current submission.kind = some version)
    (replied : Channel.send bridge.channel (Attempt.ofSubmission submission version now).outbound =
      (.unavailable reason, channel)) :
    (bridge.submit submission now).outcomes =
        bridge.outcomes ++
          [(submission.ticket, .failed (.channelUnavailable submission.kind))] ∧
      Restored { bridge with totals := bridge.totals.record .channelUnavailable }
        (bridge.submit submission now) := by
  have course : bridge.submit submission now =
      (bridge.handOver (.ofSubmission submission version now) (.unavailable reason) channel
        now).finish (Attempt.ofSubmission submission version now).holding
          (.failed (.channelUnavailable submission.kind)) now := by
    simp only [submit, spoken]
    exact issue_of_unavailable spoken free replied now
  rw [course, (settles_finish _ _ _ now).outcomes, outcomes_handOver]
  exact ⟨rfl, restored_unavailable tidy room _ reason channel now⟩

/-- A retry that cannot be delivered: the request is told, and drops the reference it had. -/
theorem restored_fallBack {bridge : Bridge χ} (tidy : Tidy bridge)
    (room : bridge.locks.primary.count.toNat + 1 < UInt32.size) {attempt : Attempt}
    {failed version : Version} {now : Instant} {reason : String} {channel : χ}
    (lower : bridge.versions.next attempt.kind failed = some version)
    (free : bridge.pending.find? bridge.serials.take.1 = none)
    (replied : Channel.send bridge.channel
      (attempt.reissue bridge.serials.take.1 version now).outbound =
        (.unavailable reason, channel)) :
    (bridge.fallBack attempt failed now).outcomes =
        bridge.outcomes ++ [(attempt.ticket, .failed (.channelUnavailable attempt.kind))] ∧
      Restored
        ({ bridge.retrying attempt.kind failed version with
          totals := (bridge.retrying attempt.kind failed version).totals.record
            .channelUnavailable }.releaseIf attempt.holdsLock now)
        (bridge.fallBack attempt failed now) := by
  let retry := attempt.reissue bridge.serials.take.1 version now
  have unused : (bridge.retrying attempt.kind failed version).pending.find? retry.serial = none :=
    free
  have issued : (bridge.retrying attempt.kind failed version).issue retry now = _ :=
    issue_of_unavailable (current_retrying lower) unused replied now
  have course : bridge.fallBack attempt failed now =
      (((bridge.retrying attempt.kind failed version).handOver retry (.unavailable reason) channel
        now).finish retry.holding (.failed (.channelUnavailable attempt.kind)) now).releaseIf
          attempt.holdsLock now := by
    simp only [fallBack, retreat_of_lower lower]
    exact congrArg (fun issued => releaseIf issued attempt.holdsLock now) issued
  have retryTidy : Tidy (bridge.retrying attempt.kind failed version) :=
    ⟨tidy.id, tidy.rested, tidy.free⟩
  rw [course]
  constructor
  · rw [(sameRequests_releaseIf _ attempt.holdsLock now).outcomes,
      (settles_finish _ _ _ now).outcomes, outcomes_handOver, outcomes_retrying]
    rfl
  · exact (restored_unavailable retryTidy room _ reason channel now).releaseIf attempt.holdsLock now

/-- The refusal of a request whose retry cannot be delivered: the request leaves the table with its
reference to the primary lock, and its kind stays lowered. -/
theorem restored_onAnswer {bridge : Bridge χ} (tidy : Tidy bridge)
    (room : bridge.locks.primary.count.toNat + 1 < UInt32.size) {header : AnswerHeader}
    {attempt : Attempt} {version : Version} {now : Instant} {reason : String} {channel : χ}
    (plain : header.type.ackExpected = false) (refused : header.code.isNotSupported = true)
    (waiting : bridge.pending.find? header.serial = some attempt)
    (lower : bridge.versions.next attempt.kind attempt.version = some version)
    (free : (bridge.pending.erase header.serial).find? bridge.serials.take.1 = none)
    (replied : Channel.send bridge.channel
      (attempt.reissue bridge.serials.take.1 version now).outbound = (.unavailable reason, channel))
    (payload : Payload) :
    (bridge.onAnswer header payload now).outcomes =
        bridge.outcomes ++ [(attempt.ticket, .failed (.channelUnavailable attempt.kind))] ∧
      Restored
        ({ bridge with
          pending := bridge.pending.erase header.serial
          versions := bridge.versions.lower attempt.kind attempt.version
          serials := bridge.serials.take.2
          detector := (bridge.detector.onAnswer attempt.kind header.code now).2
          totals := { bridge.totals with
            fallbacks := bridge.totals.fallbacks + 1
            channelUnavailable := bridge.totals.channelUnavailable + 1 } }.releaseIf
              attempt.holdsLock now)
        (bridge.onAnswer header payload now) := by
  have answered := restored_answered bridge attempt plain now
  have same := sameRequests_answered bridge attempt header now
  have answeredTidy : Tidy (bridge.answered attempt header now) := by
    refine Tidy.of_restored ?_ answered
    exact ⟨tidy.id, tidy.rested, tidy.free⟩
  obtain ⟨told, fallen⟩ := restored_fallBack answeredTidy (answered.count ▸ room)
    (same.versions ▸ lower) (by rw [same.pending, same.serials]; exact free)
    (by rw [channel_answered bridge attempt plain, same.serials]; exact replied)
  rw [onAnswer_of_waiting waiting, if_pos refused, told, outcomes_answered]
  refine ⟨rfl, .trans (.releaseIf ?_ attempt.holdsLock now) fallen⟩
  exact .trans ⟨_, _, _, rfl⟩
    ((answered.retrying attempt.kind attempt.version version).recorded .channelUnavailable)

/-- A send that fails leaves the bridge as it was.  A new request that the channel cannot deliver is
told so once, and of all that the bridge keeps only the count of such failures differs; the channel,
the journal and the generation of the primary lock apart.  The same holds where the request that
cannot be delivered is the retry of a refused one, except that the refused request leaves the table
with its reference to the primary lock, its kind stays lowered, a serial and a fallback are spent, and
the fault detector has seen the answer. -/
theorem failed_send_undone (config : BridgeConfig) (serials : SerialSource) (channel : χ)
    (calls : List (Call χ)) (bridge : Bridge χ)
    (reached : bridge = (new config serials channel).run calls)
    (sound : bridge.collision = none) (room : HasRoom (new config serials channel) calls)
    (spare : bridge.pending.size + 1 < UInt32.size) :
    (∀ (submission : Submission) (version : Version) (now : Instant) (reason : String) (down : χ),
      bridge.pending.find? submission.serial = none →
      bridge.versions.current submission.kind = some version →
      Channel.send bridge.channel (Attempt.ofSubmission submission version now).outbound =
        (.unavailable reason, down) →
      let after := bridge.call (.event (.submit submission) now)
      after.outcomes =
        bridge.outcomes ++ [(submission.ticket, .failed (.channelUnavailable submission.kind))] ∧
      Restored
        { bridge with
          totals := { bridge.totals with
            channelUnavailable := bridge.totals.channelUnavailable + 1 } } after) ∧
    (∀ (header : AnswerHeader) (payload : Payload) (attempt : Attempt) (version : Version)
      (now : Instant) (reason : String) (down : χ),
      header.type.ackExpected = false →
      header.code.isNotSupported = true →
      bridge.pending.find? header.serial = some attempt →
      bridge.versions.next attempt.kind attempt.version = some version →
      (bridge.pending.erase header.serial).find? bridge.serials.take.1 = none →
      Channel.send bridge.channel (attempt.reissue bridge.serials.take.1 version now).outbound =
        (.unavailable reason, down) →
      let after := bridge.call (.event (.answer header payload) now)
      after.outcomes =
        bridge.outcomes ++ [(attempt.ticket, .failed (.channelUnavailable attempt.kind))] ∧
      after.locks.primary.count.toNat + attempt.holdsLock.toNat =
        bridge.locks.primary.count.toNat ∧
      Restored
        ({ bridge with
          pending := bridge.pending.erase header.serial
          versions := bridge.versions.lower attempt.kind attempt.version
          serials := bridge.serials.take.2
          detector := (bridge.detector.onAnswer attempt.kind header.code now).2
          totals := { bridge.totals with
            fallbacks := bridge.totals.fallbacks + 1
            channelUnavailable := bridge.totals.channelUnavailable + 1 } }.releaseIf
              attempt.holdsLock now) after) := by
  have reachedSound : ((new config serials channel).run calls).collision = none := reached ▸ sound
  have account := accounted_run reachedSound (accounted_new config serials channel) room
  have tidy := tidy_run reachedSound (accounted_new config serials channel) room
    (idle_new config serials channel) (fun _ => rfl)
  rw [← reached] at account tidy
  have holders := bridge.pending.lockHolders_le_size
  have references := account.references
  have reference : bridge.locks.primary.count.toNat + 1 < UInt32.size := by omega
  have handled : ∀ event now, bridge.call (.event event now) = bridge.react now event :=
    fun event now => handle_of_sound sound now event
  constructor
  · intro submission version now reason down free spoken replied
    rw [handled]
    exact restored_submit tidy reference free spoken replied
  · intro header payload attempt version now reason down plain refused waiting lower free replied
    rw [handled]
    obtain ⟨told, restored⟩ :=
      restored_onAnswer tidy reference plain refused waiting lower free replied payload
    refine ⟨told, ?_, restored⟩
    have left : (bridge.react now (.answer header payload)).locks.primary.count = _ :=
      restored.count
    have owned := PendingTable.lockHolders_erase waiting
    rw [left]
    cases held : attempt.holdsLock with
    | false => rfl
    | true =>
        have one : bridge.locks.primary.count.toNat =
            (bridge.pending.erase header.serial).lockHolders + 1 := by
          rw [references, owned, held]
          rfl
        rw [one]
        exact congrArg (· + 1) (WakeLock.count_drop now one)

/-- The channel goes down while a request waits: neither the next request nor the retry of the one
that waits can be delivered. -/
theorem failed_send_undone_beside_waiting :
    let calls : List (Call RecordingChannel) :=
      [.serialTaken, .event (.submit ⟨⟨1⟩, .getSimStatus, .empty, .unknown, 0, 0⟩) 0,
        .channelChanged fun channel => { channel with unavailable := some "down" }]
    let bridge := (new {} (.start 1) {}).run calls
    let submitted := bridge.call (.event (.submit ⟨⟨9⟩, .sendSms, .empty, .unknown, 5, 1⟩) 5)
    let refused := bridge.call
      (.event (.answer (.plain ⟨1⟩ .getSimStatus .requestNotSupported) .empty) 5)
    submitted.outcomes = [(1, .failed (.channelUnavailable .sendSms))] ∧
      Restored
        { bridge with
          totals := { bridge.totals with
            channelUnavailable := bridge.totals.channelUnavailable + 1 } } submitted ∧
      refused.outcomes = [(0, .failed (.channelUnavailable .getSimStatus))] ∧
      refused.locks.primary.count.toNat + 1 = bridge.locks.primary.count.toNat := by
  intro calls bridge submitted refused
  obtain ⟨ofRequest, ofRetry⟩ := failed_send_undone {} (.start 1) ({} : RecordingChannel) calls
    bridge rfl (by decide +kernel)
    ⟨by decide +kernel, by decide +kernel, by decide +kernel, trivial⟩ (by decide +kernel)
  obtain ⟨told, restored⟩ := ofRequest ⟨⟨9⟩, .sendSms, .empty, .unknown, 5, 1⟩ ⟨1, 6⟩ 5 "down"
    bridge.channel (by decide +kernel) (by decide +kernel) (by decide +kernel)
  obtain ⟨retold, count, -⟩ := ofRetry (.plain ⟨1⟩ .getSimStatus .requestNotSupported) .empty
    ⟨⟨1⟩, .getSimStatus, ⟨1, 6⟩, .empty, .unknown, 0, 0, 0, 1, true, false⟩ ⟨1, 5⟩ 5 "down"
    bridge.channel rfl (by decide +kernel) (by decide +kernel) (by decide +kernel)
    (by decide +kernel) (by decide +kernel)
  have quiet : bridge.outcomes = [] := by decide +kernel
  rw [quiet] at told retold
  exact ⟨told, restored, retold, count⟩

end

end Bridge

end ModemLink
