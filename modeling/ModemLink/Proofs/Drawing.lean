/-
Module: ModemLink.Proofs.Drawing
Purpose: The serials that a bridge draws for its retries.
Main exports: SerialSource.nth, PendingTable.serials, Draws, draws_issue, draws_onAnswer, draws_call
-/
import ModemLink.Proofs.Run

namespace ModemLink

/-!
Each retry draws a serial, and the totals count retries.  So what a bridge drew in a call can be
told from the totals, also where serials collide.  `Draws` says what becomes of the serials in the
table in a call that draws so many: the others stay, and if the new ones are free, the last of them
or none is added.
-/

namespace SerialSource

/-- The serial that a source hands out after `n` others. -/
def nth (source : SerialSource) (n : Nat) : Serial :=
  (source.takeMany n).2.upcoming

/-- The serial of a request after `n` retries; before the first it is that of its caller, if there
is one. -/
def newest (source : SerialSource) (own : Option Serial) : Nat → Option Serial
  | 0 => own
  | n + 1 => some (source.nth n)

theorem newest_take (source : SerialSource) (own : Option Serial) (n : Nat) :
    source.take.2.newest (some source.take.1) n = source.newest own (n + 1) := by
  cases n <;> rfl

end SerialSource

namespace PendingTable

/-- The serials under which attempts wait. -/
def serials (table : PendingTable) : List Serial :=
  table.attempts.map Attempt.serial

theorem serials_filter_sublist (table : PendingTable) (keep : Attempt → Bool) :
    (table.filter keep).serials.Sublist table.serials :=
  List.filter_sublist.map Attempt.serial

theorem serials_of_bare {table other : PendingTable} (same : table.bare = other.bare) :
    table.serials = other.serials :=
  map_attempts_of_bare (fun _ => rfl) same

theorem erase_of_find?_none {table : PendingTable} {serial : Serial}
    (free : table.find? serial = none) : table.erase serial = table := by
  apply ext_attempts
  simpa [find?] using free

theorem mem_serials_of_not_inserted {table : PendingTable} {attempt : Attempt}
    (taken : table.insert? attempt = none) : attempt.serial ∈ table.serials := by
  unfold insert? at taken
  split at taken
  · assumption
  · simp at taken

theorem serials_insert? {table next : PendingTable} {attempt : Attempt}
    (inserted : table.insert? attempt = some next) :
    next.serials = attempt.serial :: table.serials := by
  rw [serials, attempts_insert? inserted]
  rfl

end PendingTable

@[simp] theorem Totals.fallbacks_record (totals : Totals) (outcome : OutcomeClass) :
    (totals.record outcome).fallbacks = totals.fallbacks := by
  cases outcome <;> rfl

namespace Bridge

variable {χ : Type}

/-! ## Steps that draw nothing -/

/-- How many serials the bridge drew for retries. -/
def retries (bridge : Bridge χ) : Nat :=
  bridge.totals.fallbacks

section

variable (bridge : Bridge χ) (now : Instant)

@[simp] theorem retries_emit (effects : List Effect) :
    (bridge.emit effects).retries = bridge.retries :=
  rfl

@[simp] theorem retries_schedule (timer : LockTimer) :
    (bridge.schedule timer).retries = bridge.retries := by
  unfold schedule
  split <;> rfl

@[simp] theorem retries_acquireLock : (bridge.acquireLock now).retries = bridge.retries := by
  unfold acquireLock
  split
  · rw [retries_schedule]
    rfl
  · rfl

@[simp] theorem retries_releaseIf (held : Bool) :
    (bridge.releaseIf held now).retries = bridge.retries := by
  cases held <;> rfl

@[simp] theorem retries_recordOutcome (kind : RequestKind) (outcome : Outcome) (latency : Span) :
    (bridge.recordOutcome kind outcome latency).retries = bridge.retries :=
  Totals.fallbacks_record _ _

@[simp] theorem retries_finish (attempt : Attempt) (outcome : Outcome) :
    (bridge.finish attempt outcome now).retries = bridge.retries := by
  simp [finish]

@[simp] theorem retries_finishAll (attempts : List Attempt) (failure : RequestKind → Failure) :
    (bridge.finishAll attempts failure now).retries = bridge.retries := by
  induction attempts generalizing bridge with
  | nil => rfl
  | cons attempt rest ih => exact (ih _).trans (retries_finish bridge now attempt _)

@[simp] theorem retries_withDetector (step : Option FaultStatus × FaultDetector) :
    (bridge.withDetector step).retries = bridge.retries := by
  obtain ⟨_ | status, detector⟩ := step <;> rfl

@[simp] theorem retries_handOver (attempt : Attempt) (reply : SendReply) (channel : χ) :
    (bridge.handOver attempt reply channel now).retries = bridge.retries :=
  retries_acquireLock bridge now

@[simp] theorem retries_retrying (kind : RequestKind) (failed version : Version) :
    (bridge.retrying kind failed version).retries = bridge.retries + 1 := rfl

theorem retries_onLockTimer (timer : LockTimer) :
    (bridge.onLockTimer timer now).retries = bridge.retries := by
  unfold onLockTimer
  split
  · rw [retries_withDetector]
    rfl
  · rfl
  · rfl

theorem retries_firePrimaryTimer : (bridge.firePrimaryTimer now).retries = bridge.retries := by
  unfold firePrimaryTimer
  split
  · rfl
  · split
    · exact retries_onLockTimer _ now _
    · rfl

theorem retries_fireAckTimer : (bridge.fireAckTimer now).retries = bridge.retries := by
  unfold fireAckTimer
  split
  · rfl
  · split
    · exact retries_onLockTimer _ now _
    · rfl

theorem retries_fireDueTimers : (bridge.fireDueTimers now).retries = bridge.retries := by
  have fired := (retries_fireAckTimer (bridge.firePrimaryTimer now) now).trans
    (retries_firePrimaryTimer bridge now)
  exact (retries_finishAll _ now _ _).trans fired

theorem retries_failAll : (bridge.failAll now).retries = bridge.retries :=
  retries_finishAll _ now _ _

theorem retries_shutdown : (bridge.shutdown now).retries = bridge.retries := by
  unfold shutdown
  split
  · exact retries_failAll bridge now
  · rfl

@[simp] theorem retries_sendAck [Channel χ] : (bridge.sendAck now).retries = bridge.retries := by
  rcases reply : Channel.sendAck bridge.channel with ⟨_ | reason, channel⟩
  · rw [sendAck_of_accepted reply, retries_schedule]
    rfl
  · rw [sendAck_of_refused reply]
    rfl

@[simp] theorem retries_sendAckIf [Channel χ] (asked : Bool) :
    (bridge.sendAckIf asked now).retries = bridge.retries := by
  cases asked with
  | false => rfl
  | true => exact retries_sendAck bridge now

theorem retries_answered [Channel χ] (attempt : Attempt) (header : AnswerHeader) :
    (bridge.answered attempt header now).retries = bridge.retries := by
  rw [answered, retries_withDetector, retries_sendAckIf]
  rfl

theorem retries_onIndication [Channel χ] (indication : Indication) :
    (bridge.onIndication indication now).retries = bridge.retries := by
  rw [onIndication, retries_emit, retries_sendAckIf]
  rfl

end

/-! ## What is drawn -/

/-- From `before` to `after` nothing is drawn and the table stays as it is. -/
structure Rests (before after : Bridge χ) : Prop where
  retries : after.retries = before.retries
  serials : after.serials = before.serials
  collision : after.collision = before.collision
  pending : after.pending = before.pending

theorem Settles.rests {before after : Bridge χ} {told : List (Ticket × Outcome)}
    (settles : Settles before after told) (same : after.retries = before.retries) :
    Rests before after :=
  ⟨same, settles.serials, settles.collision, settles.pending⟩

theorem SameRequests.rests {before after : Bridge χ} (requests : SameRequests before after)
    (same : after.retries = before.retries) : Rests before after :=
  requests.settles.rests same

theorem Rests.trans {first middle last : Bridge χ} (earlier : Rests first middle)
    (later : Rests middle last) : Rests first last :=
  ⟨later.retries.trans earlier.retries, later.serials.trans earlier.serials,
    later.collision.trans earlier.collision, later.pending.trans earlier.pending⟩

theorem rests_finish (bridge : Bridge χ) (attempt : Attempt) (outcome : Outcome) (now : Instant) :
    Rests bridge (bridge.finish attempt outcome now) :=
  (settles_finish bridge attempt outcome now).rests (retries_finish bridge now attempt outcome)

theorem rests_releaseIf (bridge : Bridge χ) (held : Bool) (now : Instant) :
    Rests bridge (bridge.releaseIf held now) :=
  (sameRequests_releaseIf bridge held now).rests (retries_releaseIf bridge now held)

theorem rests_handOver (bridge : Bridge χ) (attempt : Attempt) (reply : SendReply) (channel : χ)
    (now : Instant) : Rests bridge (bridge.handOver attempt reply channel now) where
  retries := retries_handOver bridge now attempt reply channel
  serials := serials_handOver bridge attempt reply channel now
  collision := collision_handOver bridge attempt reply channel now
  pending := pending_handOver bridge attempt reply channel now

/-- From `before` to `after` nothing is drawn, and attempts wait only under some of the serials
`others`. -/
structure Sheds (before after : Bridge χ) (others : List Serial) : Prop where
  retries : after.retries = before.retries
  serials : after.serials = before.serials
  collision : after.collision = before.collision
  fewer : after.pending.serials.Sublist others

theorem Rests.sheds {before after : Bridge χ} (rests : Rests before after) :
    Sheds before after before.pending.serials where
  retries := rests.retries
  serials := rests.serials
  collision := rests.collision
  fewer := by simp [rests.pending]

/-- Attempts leave the table, and nothing else happens to serials. -/
theorem Sheds.of_removed {before after : Bridge χ} {pending : PendingTable} {others : List Serial}
    (rests : Rests { before with pending := pending } after)
    (fewer : pending.serials.Sublist others) : Sheds before after others :=
  ⟨rests.retries, rests.serials, rests.collision, rests.sheds.fewer.trans fewer⟩

/-- From `before` to `after` the bridge drew so many serials for retries.  `own` is the serial that
a caller gave the request in hand, if there is one, and besides it attempts wait under the serials
`others`. -/
structure Draws (before after : Bridge χ) (others : List Serial) (own : Option Serial)
    (count : Nat) : Prop where
  retries : after.retries = before.retries + count
  serials : after.serials = (before.serials.takeMany count).2
  stay : others ⊆ after.pending.serials
  /-- If the serials that the request had are free, nothing collides, and it waits under the newest
  or not at all. -/
  free : (∀ n ≤ count, ∀ serial ∈ before.serials.newest own n, serial ∉ others) →
    after.collision = before.collision ∧
    (after.pending.serials = others ∨ ∃ last ∈ before.serials.newest own count,
      after.pending.serials = last :: others)

namespace Draws

variable {first middle last : Bridge χ} {others : List Serial} {own : Option Serial} {count : Nat}

/-- Nothing is drawn, and nothing is added. -/
theorem of_rests (rests : Rests first last) : Draws first last first.pending.serials own 0 where
  retries := rests.retries
  serials := rests.serials
  stay := by
    rw [rests.pending]
    exact List.Subset.refl _
  free := by
    intro free
    rw [rests.pending]
    exact ⟨rests.collision, Or.inl rfl⟩

theorem andThen (draws : Draws first middle others own count) (rests : Rests middle last) :
    Draws first last others own count where
  retries := rests.retries.trans draws.retries
  serials := rests.serials.trans draws.serials
  stay := by
    rw [rests.pending]
    exact draws.stay
  free := by
    rw [rests.pending, rests.collision]
    exact draws.free

theorem after (draws : Draws middle last others own count) (rests : Rests first middle) :
    Draws first last others own count where
  retries := draws.retries.trans (congrArg (· + count) rests.retries)
  serials := by
    rw [← rests.serials]
    exact draws.serials
  stay := draws.stay
  free := by
    rw [← rests.serials, ← rests.collision]
    exact draws.free

/-- One serial is drawn first, and given to the request in hand. -/
theorem retrying {kind : RequestKind} {failed version : Version}
    (draws : Draws (first.retrying kind failed version) last others
      (some first.serials.take.1) count) : Draws first last others own (count + 1) where
  retries := by
    rw [draws.retries, retries_retrying]
    omega
  serials := draws.serials
  stay := draws.stay
  free := by
    intro free
    have newest := first.serials.newest_take own
    obtain ⟨collision, ends⟩ := draws.free fun n within serial drawn =>
      free (n + 1) (Nat.succ_le_succ within) serial (newest n ▸ drawn)
    refine ⟨collision, ends.imp_right ?_⟩
    rintro ⟨serial, drawn, table⟩
    exact ⟨serial, newest count ▸ drawn, table⟩

end Draws

section

variable [Channel χ]

/-- An attempt that is dealt with when it is offered. -/
theorem draws_of_dealt {bridge after : Bridge χ} {attempt : Attempt} {now : Instant}
    (spoken : bridge.versions.current attempt.kind = some attempt.version)
    (dealt : bridge.offer attempt now = (none, after)) :
    Draws bridge after bridge.pending.serials (some attempt.serial) 0 := by
  cases inserted : bridge.pending.insert? attempt.holding with
  | none =>
      rw [offer_of_not_inserted inserted] at dealt
      cases dealt
      have same := sameRequests_acquireLock bridge now
      have taken := PendingTable.mem_serials_of_not_inserted inserted
      constructor
      case retries => exact retries_acquireLock bridge now
      case serials => exact same.serials
      case stay =>
        show bridge.pending.serials ⊆ (bridge.acquireLock now).pending.serials
        rw [same.pending]
        exact List.Subset.refl _
      case free => exact fun free => absurd taken (free 0 (Nat.le_refl 0) attempt.serial rfl)
  | some pending =>
      rcases replied : Channel.send bridge.channel attempt.outbound with ⟨reply, channel⟩
      rw [offer_of_inserted spoken inserted replied] at dealt
      cases reply with
      | accepted =>
          cases dealt
          have rests := rests_handOver bridge attempt .accepted channel now
          have table := PendingTable.serials_insert? inserted
          constructor
          case retries => exact rests.retries
          case serials => exact rests.serials
          case stay =>
            show bridge.pending.serials ⊆ pending.serials
            rw [table]
            exact List.subset_cons_self _ _
          case free => exact fun _ => ⟨rests.collision, Or.inr ⟨attempt.serial, rfl, table⟩⟩
      | unavailable reason =>
          cases dealt
          have rests := rests_handOver bridge attempt (.unavailable reason) channel now
          exact (Draws.of_rests rests).andThen (rests_finish _ _ _ now)
      | versionRefused => simp at dealt

/-- What is drawn while an attempt is issued, whatever the channel replies and whichever serials are
taken. -/
theorem draws_issue (bridge : Bridge χ) (attempt : Attempt) (now : Instant)
    (spoken : bridge.versions.current attempt.kind = some attempt.version) :
    ∃ count, Draws bridge (bridge.issue attempt now) bridge.pending.serials (some attempt.serial)
      count := by
  fun_induction issue bridge attempt now with
  | case1 bridge attempt after dealt => exact ⟨0, draws_of_dealt spoken dealt⟩
  | case2 bridge attempt refused version middle refusal after retreated =>
      obtain ⟨-, channel, -, -, rfl, rfl, rfl⟩ := offer_eq_some spoken refusal
      obtain ⟨-, rfl⟩ := retreat_eq_none retreated
      have rests := rests_handOver bridge attempt .versionRefused channel now
      have lowered : Rests bridge ((bridge.handOver attempt .versionRefused channel now).lowered
          attempt.kind attempt.version) :=
        ⟨rests.retries, rests.serials, rests.collision, rests.pending⟩
      exact ⟨0, (Draws.of_rests lowered).andThen (rests_finish _ _ _ now)⟩
  | case3 bridge attempt refused version middle refusal next retried retreated ih =>
      obtain ⟨-, channel, -, -, rfl, rfl, rfl⟩ := offer_eq_some spoken refusal
      obtain ⟨lower, next_eq, rfl, rfl⟩ := retreat_eq_some retreated
      obtain ⟨count, draws⟩ := ih (current_retrying next_eq)
      have rests := rests_handOver bridge attempt .versionRefused channel now
      rw [pending_retrying, rests.pending] at draws
      exact ⟨count + 1, (draws.retrying.after rests).andThen (rests_releaseIf _ _ now)⟩

theorem draws_fallBack (bridge : Bridge χ) (attempt : Attempt) (now : Instant) :
    ∃ count, Draws bridge (bridge.fallBack attempt attempt.version now) bridge.pending.serials none
      count := by
  unfold fallBack
  rcases retreated : bridge.retreat attempt attempt.version now with ⟨_ | next, after⟩
  · obtain ⟨-, rfl⟩ := retreat_eq_none retreated
    have lowered : Rests bridge (bridge.lowered attempt.kind attempt.version) :=
      ⟨rfl, rfl, rfl, rfl⟩
    exact ⟨0, (Draws.of_rests lowered).andThen (rests_finish _ _ _ now)⟩
  · obtain ⟨lower, next_eq, rfl, rfl⟩ := retreat_eq_some retreated
    obtain ⟨count, draws⟩ := draws_issue _ (attempt.reissue bridge.serials.take.1 lower now) now
      (current_retrying next_eq)
    rw [pending_retrying] at draws
    exact ⟨count + 1, draws.retrying.andThen (rests_releaseIf _ _ now)⟩

theorem draws_submit (bridge : Bridge χ) (submission : Submission) (now : Instant) :
    ∃ count, Draws bridge (bridge.submit submission now) bridge.pending.serials
      (some submission.serial) count := by
  cases spoken : bridge.versions.current submission.kind with
  | none =>
      have settles := settles_submit_of_unspoken spoken now
      have same : (bridge.submit submission now).retries = bridge.retries := by
        rw [submit_of_unspoken spoken, retries_emit, retries_recordOutcome]
      exact ⟨0, .of_rests (settles.rests same)⟩
  | some version =>
      simp only [submit, spoken]
      exact draws_issue bridge (.ofSubmission submission version now) now spoken

/-! ## Calls -/

theorem draws_onAnswer (bridge : Bridge χ) (header : AnswerHeader) (payload : Payload)
    (now : Instant) :
    Sheds bridge (bridge.onAnswer header payload now)
        (bridge.pending.erase header.serial).serials ∨
      ∃ count, Draws bridge (bridge.onAnswer header payload now)
        (bridge.pending.erase header.serial).serials none count := by
  cases waiting : bridge.pending.find? header.serial with
  | none =>
      have rests := (sameRequests_onAnswer_of_stale waiting payload now).rests (by
        rw [onAnswer_of_stale waiting]
        rfl)
      rw [PendingTable.erase_of_find?_none waiting]
      exact Or.inl rests.sheds
  | some attempt =>
      have rests := (sameRequests_answered bridge attempt header now).rests
        (retries_answered bridge now attempt header)
      rw [onAnswer_of_waiting waiting]
      split
      · right
        obtain ⟨count, draws⟩ := draws_fallBack (bridge.answered attempt header now) attempt now
        rw [rests.pending] at draws
        have whole := draws.after rests
        exact ⟨count, whole.retries, whole.serials, whole.stay, whole.free⟩
      · left
        split
        · exact .of_removed (rests.trans (rests_finish _ attempt _ now)) (.refl _)
        · exact .of_removed (rests.trans (rests_finish _ attempt _ now)) (.refl _)

omit [Channel χ] in
theorem sheds_fireDueTimers (bridge : Bridge χ) (now : Instant) :
    Sheds bridge (bridge.fireDueTimers now) bridge.pending.serials := by
  obtain ⟨pending, bare, same⟩ := sameRequests_fireLockTimers bridge now
  have fired : ((bridge.firePrimaryTimer now).fireAckTimer now).pending = pending := same.pending
  have settles := settles_ageOut ((bridge.firePrimaryTimer now).fireAckTimer now) now
  constructor
  case retries => exact retries_fireDueTimers bridge now
  case serials => exact settles.serials.trans same.serials
  case collision => exact settles.collision.trans same.collision
  case fewer =>
    rw [← PendingTable.serials_of_bare bare, ← fired, fireDueTimers, settles.pending]
    exact PendingTable.serials_filter_sublist _ _

end

end Bridge

/-- The serial that a caller gave the request it hands in. -/
def Call.serial? {χ : Type} : Call χ → Option Serial
  | .event (.submit submission) _ => some submission.serial
  | _ => none

/-- What is left of the table once the attempt is taken out that a call answers. -/
def Call.spared {χ : Type} (table : PendingTable) : Call χ → PendingTable
  | .event (.answer header _) _ => table.erase header.serial
  | _ => table

/-- Whether a call is one of those from which batches are made, and no caller takes a serial. -/
def Call.isPlain {χ : Type} : Call χ → Bool
  | .batch _ _ | .serialTaken => false
  | _ => true

namespace Bridge

variable {χ : Type} [Channel χ]

/-- A call draws nothing, and perhaps attempts leave the table; or it draws serials for the request
in hand. -/
theorem draws_call {bridge : Bridge χ} (sound : bridge.collision = none) {call : Call χ}
    (plain : call.isPlain = true) :
    Sheds bridge (bridge.call call) (call.spared bridge.pending).serials ∨
      ∃ count, Draws bridge (bridge.call call) (call.spared bridge.pending).serials call.serial?
        count := by
  have rested : Rests bridge bridge := ⟨rfl, rfl, rfl, rfl⟩
  have emptied : PendingTable.empty.serials.Sublist bridge.pending.serials := List.nil_sublist _
  cases call with
  | batch | serialTaken => simp [Call.isPlain] at plain
  | timers now => exact Or.inl (sheds_fireDueTimers bridge now)
  | sampled | channelChanged | indicationListenerLost | statusListenerLost =>
      exact Or.inl (Rests.sheds ⟨rfl, rfl, rfl, rfl⟩)
  | event event now =>
      rw [call, handle_of_sound sound]
      cases event with
      | submit submission => exact Or.inr (draws_submit bridge submission now)
      | answer header payload => exact draws_onAnswer bridge header payload now
      | requestAck serial =>
          have same := PendingTable.serials_of_bare (bridge.pending.bare_acknowledge serial)
          exact Or.inl ⟨rfl, rfl, rfl, same ▸ .refl _⟩
      | indication indication =>
          exact Or.inl ((sameRequests_onIndication bridge indication now).rests
            (retries_onIndication bridge now indication)).sheds
      | channelLost =>
          have rests := (settles_failAll bridge now).rests (retries_failAll bridge now)
          exact Or.inl (.of_removed rests emptied)
      | channelRestarted =>
          exact Or.inl ((sameRequests_withDetector bridge _).rests
            (retries_withDetector bridge _)).sheds
      | listenIndications | listenStatus => exact Or.inl (Rests.sheds ⟨rfl, rfl, rfl, rfl⟩)
      | shutdown =>
          cases running : bridge.running with
          | false =>
              rw [react, shutdown_of_stopped running]
              exact Or.inl rested.sheds
          | true =>
              have rests := (settles_shutdown running now).rests (retries_shutdown bridge now)
              exact Or.inl ⟨rests.retries, rests.serials, rests.collision,
                rests.sheds.fewer.trans emptied⟩

end Bridge

end ModemLink
