/-
Module: ModemLink.Proofs.Patience
Purpose: How long a request can wait for its answer through all its retries.
Main exports:
  Follows, Issue.waits, firstIssued, Followed, Paced, OnTime, onTime_steps, age_out_exact
-/
import ModemLink.Proofs.Expiry
import ModemLink.Proofs.Retries

namespace ModemLink

/-!
A retry starts its own wait, and it can only be made while the attempt before it has not waited too
long.  So the first attempt of a request that waits under its third number is at most two full waits
older than the present one.

`firstIssued` follows each request from the step in which it is handed in, through the serials of
its retries, and `Followed` ties what it says to the frame that was handed over first.
-/

/-- The first attempt at a request, or a retry after it, made at an instant. -/
structure Attempt.Follows (waiting attempt : Attempt) (now : Instant) : Prop where
  same : attempt.SameRequest waiting
  issuedAt : waiting.issuedAt = now
  number : attempt.number.toNat ≤ waiting.number.toNat
  room : waiting.number.toNat + waiting.kind.ladder.rungsBelow waiting.version ≤
    attempt.number.toNat + attempt.kind.ladder.rungsBelow attempt.version

theorem Attempt.Follows.trans {waiting middle attempt : Attempt} {now later : Instant}
    (onward : waiting.Follows middle later) (earlier : middle.Follows attempt now) :
    waiting.Follows attempt later :=
  ⟨earlier.same.trans onward.same, onward.issuedAt, Nat.le_trans earlier.number onward.number,
    Nat.le_trans onward.room earlier.room⟩

theorem Ladder.rungsBelow_mono (ladder : Ladder) {lower version : Version}
    (below : lower ≤ version) : ladder.rungsBelow lower ≤ ladder.rungsBelow version := by
  apply List.countP_mono_left
  intro rung _ isLower
  rw [decide_eq_true_eq] at isLower ⊢
  exact Nat.lt_of_lt_of_le isLower below

/-- After a refusal fewer rungs are left. -/
theorem VersionTable.rungsBelow_next_lt {table : VersionTable} {kind : RequestKind}
    {failed version : Version} (next : table.next kind failed = some version) :
    kind.ladder.rungsBelow version < kind.ladder.rungsBelow failed := by
  obtain ⟨current, rung, -, member, below, rfl⟩ := next_eq_some next
  have lower : min current rung ≤ rung := by
    rw [Version.le_def, Version.rank_min]
    exact Nat.min_le_right _ _
  exact Nat.lt_of_le_of_lt (kind.ladder.rungsBelow_mono lower) (Ladder.rungsBelow_lt below member)

/-- The number of a retry, where the counter does not start again. -/
theorem Attempt.follows_reissue {attempt : Attempt} {version : Version}
    (lower : attempt.kind.ladder.rungsBelow version <
      attempt.kind.ladder.rungsBelow attempt.version)
    (room : attempt.number.toNat + attempt.kind.ladder.rungsBelow attempt.version < UInt32.size)
    (serial : Serial) (now : Instant) :
    (attempt.reissue serial version now).Follows attempt now ∧
      (attempt.reissue serial version now).number.toNat = attempt.number.toNat + 1 := by
  have number : (attempt.reissue serial version now).number.toNat = attempt.number.toNat + 1 := by
    show (attempt.number + 1).toNat = _
    rw [UInt32.toNat_add, UInt32.toNat_one]
    apply Nat.mod_eq_of_lt
    have size : UInt32.size = 2 ^ 32 := rfl
    omega
  refine ⟨⟨attempt.sameRequest_reissue serial version now, rfl, ?_, ?_⟩, number⟩
  · rw [number]
    exact Nat.le_succ _
  · rw [number]
    show attempt.number.toNat + 1 + attempt.kind.ladder.rungsBelow version ≤ _
    omega

/-- The instant at which the timers last fired, one step later. -/
def Call.clockAfter {χ : Type} (clock : Option Instant) : Call χ → Option Instant
  | .timers now => some now
  | _ => clock

/-- Events are handled at the instant at which the timers last fired. -/
def Call.IsPaced {χ : Type} (clock : Option Instant) : Call χ → Prop
  | .event _ now => clock = some now
  | _ => True

/-- The same in a row of steps, after the timers fired at an instant, if they did. -/
def Paced {χ : Type} : Option Instant → List (Call χ) → Prop
  | _, [] => True
  | clock, step :: rest => step.IsPaced clock ∧ Paced (step.clockAfter clock) rest

/-- The call handles no event on its own, outside a batch. -/
def Call.IsBatched {χ : Type} : Call χ → Prop
  | .event _ _ => False
  | _ => True

namespace Bridge

variable {χ : Type}

/-! ## What waits after one event -/

section

variable [Channel χ]

/-- After a request was issued, what waits did so before, or follows what was issued under a serial
that was free. -/
theorem Issue.waits {bridge after : Bridge χ} {attempt : Attempt} {now : Instant}
    {trace : List (Attempt × SendReply)} (issued : Issue now bridge attempt trace after)
    (issuedNow : attempt.issuedAt = now)
    (room : attempt.number.toNat + attempt.kind.ladder.rungsBelow attempt.version < UInt32.size)
    {waiting : Attempt} (member : waiting ∈ after.pending.attempts) :
    waiting ∈ bridge.pending.attempts ∨
      (waiting.serial ∉ bridge.pending.attempts.map Attempt.serial ∧
        waiting.Follows attempt now) := by
  induction issued with
  | @accepted bridge attempt pending channel spoken inserted replied =>
      have put : waiting ∈ pending.attempts := member
      rw [PendingTable.attempts_insert? inserted] at put
      rcases List.mem_cons.mp put with rfl | earlier
      · have free := PendingTable.serial_not_mem_of_insert? inserted
        exact Or.inr ⟨free, ⟨rfl, rfl, rfl, rfl⟩, issuedNow, Nat.le_refl _, Nat.le_refl _⟩
      · exact Or.inl earlier
  | @unavailable bridge attempt pending channel reason spoken inserted replied =>
      rw [(settles_finish _ attempt.holding _ now).pending, pending_handOver] at member
      exact Or.inl member
  | @exhausted bridge attempt pending channel spoken inserted replied lowest =>
      rw [(settles_finish _ attempt.holding _ now).pending, pending_lowered, pending_handOver]
        at member
      exact Or.inl member
  | @retried bridge after attempt pending channel version trace spoken inserted replied lower rest
      ih =>
      have fewer := VersionTable.rungsBelow_next_lt lower
      obtain ⟨follows, -⟩ := Attempt.follows_reissue fewer room bridge.serials.take.1 now
      rw [(sameRequests_releaseLock after now).pending] at member
      have onward := ih rfl (Nat.lt_of_le_of_lt follows.room room) member
      rw [pending_retrying, pending_handOver] at onward
      exact onward.imp_right fun ⟨free, later⟩ => ⟨free, later.trans follows⟩

theorem waiting_submit {bridge : Bridge χ} {submission : Submission} {now : Instant}
    (sound : (bridge.submit submission now).collision = none) {waiting : Attempt}
    (member : waiting ∈ (bridge.submit submission now).pending.attempts) :
    waiting ∈ bridge.pending.attempts ∨
      ∃ version trace, bridge.versions.current submission.kind = some version ∧
        Issue now bridge (.ofSubmission submission version now) trace
          (bridge.submit submission now) ∧
        waiting.serial ∉ bridge.pending.attempts.map Attempt.serial ∧
        waiting.Follows (.ofSubmission submission version now) now := by
  cases spoken : bridge.versions.current submission.kind with
  | none =>
      rw [(settles_submit_of_unspoken spoken now).pending] at member
      exact Or.inl member
  | some version =>
      obtain ⟨trace, issued⟩ := submit_of_spoken spoken sound
      have rungs := Nat.le_trans (submission.kind.ladder.rungsBelow_le_length version)
        submission.kind.length_rungs_le
      have room : (Attempt.ofSubmission submission version now).number.toNat +
          submission.kind.ladder.rungsBelow version < UInt32.size := by
        show 1 + submission.kind.ladder.rungsBelow version < UInt32.size
        exact Nat.lt_of_le_of_lt (Nat.add_le_add_left rungs 1) (by decide)
      refine (issued.waits rfl room member).imp_right ?_
      rintro ⟨free, follows⟩
      exact ⟨version, trace, rfl, issued, free, follows⟩

/-- After an answer, what waits did so before under another serial, or is a retry of what was
answered. -/
theorem waiting_onAnswer {bridge : Bridge χ} {header : AnswerHeader} {payload : Payload}
    {now : Instant} {attempt : Attempt}
    (current : bridge.pending.find? header.serial = some attempt)
    (room : attempt.number.toNat + attempt.kind.ladder.rungsBelow attempt.version < UInt32.size)
    (sound : (bridge.onAnswer header payload now).collision = none) {waiting : Attempt}
    (member : waiting ∈ (bridge.onAnswer header payload now).pending.attempts) :
    (waiting ∈ bridge.pending.attempts ∧ waiting.serial ≠ header.serial) ∨
      (¬(waiting.serial ≠ header.serial ∧
          waiting.serial ∈ bridge.pending.attempts.map Attempt.serial) ∧
        waiting.Follows attempt now ∧ attempt.number.toNat + 1 ≤ waiting.number.toNat) := by
  have others : waiting ∈ (bridge.pending.erase header.serial).attempts →
      waiting ∈ bridge.pending.attempts ∧ waiting.serial ≠ header.serial := by
    intro left
    obtain ⟨there, other⟩ := List.mem_filter.mp left
    exact ⟨there, of_decide_eq_true other⟩
  rw [onAnswer_of_waiting current] at sound member
  split at member
  · rename_i refused
    rw [if_pos refused] at sound
    rcases fallBack_cases sound with ⟨lowest, course⟩ |
      ⟨version, trace, after, lower, issued, course⟩
    · rw [course, (settles_finish _ attempt _ now).pending, pending_lowered, pending_answered]
        at member
      exact Or.inl (others member)
    · rw [course, (sameRequests_releaseIf after attempt.holdsLock now).pending] at member
      have fewer := VersionTable.rungsBelow_next_lt lower
      obtain ⟨follows, number⟩ := Attempt.follows_reissue fewer room
        (bridge.answered attempt header now).serials.take.1 now
      rcases issued.waits rfl (Nat.lt_of_le_of_lt follows.room room) member with
        earlier | ⟨free, later⟩
      · rw [pending_retrying, pending_answered] at earlier
        exact Or.inl (others earlier)
      · refine Or.inr ⟨?_, later.trans follows, number ▸ later.number⟩
        rw [pending_retrying, pending_answered] at free
        rintro ⟨other, there⟩
        obtain ⟨taken, waits, same⟩ := List.mem_map.mp there
        apply free
        refine List.mem_map.mpr ⟨taken, List.mem_filter.mpr ⟨waits, ?_⟩, same⟩
        exact decide_eq_true (same ▸ other)
  · split at member
    · rw [(settles_finish _ attempt _ now).pending, pending_answered] at member
      exact Or.inl (others member)
    · rw [(settles_finish _ attempt _ now).pending, pending_answered] at member
      exact Or.inl (others member)

/-- Other events put nothing into the table. -/
theorem waiting_react {bridge : Bridge χ} {now : Instant} {event : Event}
    (noRequest : ∀ submission, event ≠ .submit submission)
    (noAnswer : ∀ header payload, event ≠ .answer header payload) {waiting : Attempt}
    (member : waiting ∈ (bridge.react now event).pending.attempts) :
    ∃ earlier ∈ bridge.pending.attempts, earlier.bare = waiting.bare := by
  cases event with
  | submit submission => exact absurd rfl (noRequest submission)
  | answer header payload => exact absurd rfl (noAnswer header payload)
  | requestAck serial =>
      exact PendingTable.mem_of_bare (bridge.pending.bare_acknowledge serial) member
  | indication indication =>
      rw [react, (sameRequests_onIndication bridge indication now).pending] at member
      exact ⟨waiting, member, rfl⟩
  | channelLost =>
      rw [react, onChannelLost, (settles_failAll bridge now).pending] at member
      exact absurd member List.not_mem_nil
  | channelRestarted =>
      rw [react, onChannelRestarted, (sameRequests_withDetector bridge _).pending] at member
      exact ⟨waiting, member, rfl⟩
  | listenIndications | listenStatus => exact ⟨waiting, member, rfl⟩
  | shutdown =>
      cases running : bridge.running with
      | false =>
          rw [react, shutdown_of_stopped running] at member
          exact ⟨waiting, member, rfl⟩
      | true =>
          rw [react, (settles_shutdown running now).pending] at member
          exact absurd member List.not_mem_nil

/-! ## When a request was first issued -/

omit [Channel χ] in
/-- When the requests that wait under serials were first issued, one step later.  Under a serial
under which nothing waited before there is now the request that was handed in in this step, or the
one that was answered in it. -/
def firstIssuedAfter (bridge : Bridge χ) (first : Serial → Instant) :
    Call χ → Serial → Instant
  | .event (.submit _) now, serial =>
    if bridge.pending.contains serial then first serial else now
  | .event (.answer header _) _, serial =>
    if serial ≠ header.serial ∧ bridge.pending.contains serial then first serial
    else first header.serial
  | _, serial => first serial

/-- The same after several steps. -/
def firstIssuedFrom : (Serial → Instant) → Bridge χ → List (Call χ) → Serial → Instant
  | first, _, [] => first
  | first, bridge, step :: rest =>
    firstIssuedFrom (bridge.firstIssuedAfter first step) (bridge.call step) rest

/-- When the request that waits under a serial after a run was first issued. -/
def firstIssued (start : Bridge χ) (calls : List (Call χ)) : Serial → Instant :=
  firstIssuedFrom (fun _ => 0) start (calls.flatMap Call.steps)

/-- The first attempt that is issued is handed over. -/
theorem Issue.handed_first {bridge after : Bridge χ} {attempt : Attempt} {now : Instant}
    {trace : List (Attempt × SendReply)} (issued : Issue now bridge attempt trace after) :
    ∃ reply, attempt.handed reply ∈ bridge.issued attempt now := by
  obtain ⟨spoken, pending, inserted⟩ := issued.exists_insert
  cases replied : Channel.send bridge.channel attempt.outbound with
  | mk reply channel =>
      have frames : (bridge.offer attempt now).2.handovers =
          bridge.handovers ++ [(attempt.outbound, reply)] := by
        rw [offer_of_inserted spoken inserted replied]
        cases reply with
        | accepted =>
            exact (handovers_awaiting _ _ _).trans (handovers_handOver bridge attempt _ channel now)
        | unavailable reason =>
            have settles := settles_finish
              (bridge.handOver attempt (.unavailable reason) channel now) attempt.holding
              (.failed (.channelUnavailable attempt.kind)) now
            exact settles.handovers.trans (handovers_handOver bridge attempt _ channel now)
        | versionRefused => exact handovers_handOver bridge attempt .versionRefused channel now
      have offered : bridge.offered attempt now = [attempt.handed reply] :=
        offered_of_handovers frames
      refine ⟨reply, ?_⟩
      cases dealt : bridge.offer attempt now with
      | mk refusal after =>
          cases refusal with
          | none =>
              rw [issued_of_dealt dealt, offered]
              exact List.mem_cons_self
          | some refusal =>
              rw [issued_of_refused dealt, offered]
              exact List.mem_cons_self

/-- A request that waits was handed over first at the instant that was kept for it, and has used up
at most as many waits since as it has made attempts. -/
structure Followed (maxAge : Span) (first : Serial → Instant) (trace : List Handed)
    (waiting : Attempt) : Prop where
  origin : ∃ handed ∈ trace, handed.attempt.number = 1 ∧ handed.attempt.SameRequest waiting ∧
    handed.attempt.issuedAt = first waiting.serial
  patience : waiting.issuedAt + maxAge ≤ first waiting.serial + waiting.number.toNat * maxAge
  room : waiting.number.toNat + waiting.kind.ladder.rungsBelow waiting.version ≤
    RequestKind.maxRungs + 1

omit [Channel χ] in
theorem Followed.of_bare {maxAge : Span} {first : Serial → Instant} {trace : List Handed}
    {earlier waiting : Attempt} (followed : Followed maxAge first trace earlier)
    (same : earlier.bare = waiting.bare) : Followed maxAge first trace waiting := by
  have bare : Followed maxAge first trace earlier.bare := by
    obtain ⟨⟨handed, member, number, request, issued⟩, patience, room⟩ := followed
    exact ⟨⟨handed, member, number, ⟨request.ticket, request.kind, request.payload,
      request.origin⟩, issued⟩, patience, room⟩
  rw [same] at bare
  obtain ⟨⟨handed, member, number, request, issued⟩, patience, room⟩ := bare
  exact ⟨⟨handed, member, number, ⟨request.ticket, request.kind, request.payload,
    request.origin⟩, issued⟩, patience, room⟩

omit [Channel χ] in
/-- One step on, where nothing changed for the serial. -/
theorem Followed.onward {maxAge : Span} {first later : Serial → Instant} {trace : List Handed}
    {waiting : Attempt} (followed : Followed maxAge first trace waiting) (more : List Handed)
    (same : later waiting.serial = first waiting.serial) :
    Followed maxAge later (trace ++ more) waiting := by
  obtain ⟨⟨handed, member, origin⟩, patience, room⟩ := followed
  rw [← same] at origin patience
  exact ⟨⟨handed, List.mem_append_left more member, origin⟩, patience, room⟩

omit [Channel χ] in
/-- A retry is made before the attempt was too old, so one more wait is enough. -/
theorem Followed.retried {maxAge : Span} {first later : Serial → Instant} {trace : List Handed}
    {attempt waiting : Attempt} {now : Instant} (followed : Followed maxAge first trace attempt)
    (more : List Handed) (young : now ≤ attempt.issuedAt + maxAge)
    (follows : waiting.Follows attempt now)
    (higher : attempt.number.toNat + 1 ≤ waiting.number.toNat)
    (same : later waiting.serial = first attempt.serial) :
    Followed maxAge later (trace ++ more) waiting := by
  obtain ⟨⟨handed, member, number, request, issued⟩, patience, room⟩ := followed
  have longer := Nat.mul_le_mul_right maxAge higher
  rw [Nat.succ_mul] at longer
  refine ⟨⟨handed, List.mem_append_left more member, number, request.trans follows.same,
    issued.trans same.symm⟩, ?_, Nat.le_trans follows.room room⟩
  rw [same, follows.issuedAt]
  calc now + maxAge ≤ attempt.issuedAt + maxAge + maxAge := Nat.add_le_add_right young _
    _ ≤ first attempt.serial + attempt.number.toNat * maxAge + maxAge :=
      Nat.add_le_add_right patience _
    _ = first attempt.serial + (attempt.number.toNat * maxAge + maxAge) := Nat.add_assoc _ _ _
    _ ≤ first attempt.serial + waiting.number.toNat * maxAge := Nat.add_le_add_left longer _

/-! ## Steps -/

/-- Nothing that waits was too old when the timers last fired, and every request is followed. -/
structure OnTime (maxAge : Span) (clock : Option Instant) (first : Serial → Instant)
    (trace : List Handed) (bridge : Bridge χ) : Prop where
  allowed : bridge.maxAge = maxAge
  fresh : ∀ now, clock = some now → ∀ waiting ∈ bridge.pending.attempts,
    now ≤ waiting.issuedAt + maxAge
  followed : ∀ waiting ∈ bridge.pending.attempts, Followed maxAge first trace waiting

section

variable {maxAge : Span} {first : Serial → Instant} {trace : List Handed}

omit [Channel χ] in
theorem contains_of_mem {table : PendingTable} {waiting : Attempt}
    (member : waiting ∈ table.attempts) : table.contains waiting.serial = true := by
  rw [PendingTable.contains, PendingTable.find?_of_mem member]
  rfl

omit [Channel χ] in
theorem mem_serials_of_contains {table : PendingTable} {serial : Serial}
    (there : table.contains serial = true) : serial ∈ table.attempts.map Attempt.serial := by
  obtain ⟨attempt, found⟩ := Option.isSome_iff_exists.mp there
  exact List.mem_map.mpr ⟨attempt, PendingTable.mem_attempts_of_find? found,
    PendingTable.serial_of_find? found⟩

theorem onTime_submit {bridge : Bridge χ} {submission : Submission} {now : Instant}
    (before : bridge.collision = none) (sound : (bridge.submit submission now).collision = none)
    (onTime : OnTime maxAge (some now) first trace bridge) :
    OnTime maxAge (some now)
      (bridge.firstIssuedAfter first (.event (.submit submission) now))
      (trace ++ bridge.handedBy (.event (.submit submission) now))
      (bridge.submit submission now) := by
  refine ⟨(keeps_submit sound).1.trans onTime.allowed, ?_, ?_⟩
  · rintro _ ⟨⟩ waiting member
    rcases waiting_submit sound member with earlier | ⟨version, issues, -, -, -, follows⟩
    · exact onTime.fresh now rfl waiting earlier
    · rw [follows.issuedAt]
      exact Nat.le_add_right now maxAge
  · intro waiting member
    rcases waiting_submit sound member with
      earlier | ⟨version, issues, spoken, issued, free, follows⟩
    · exact (onTime.followed waiting earlier).onward _ (if_pos (contains_of_mem earlier))
    · have fresh : bridge.firstIssuedAfter first (.event (.submit submission) now) waiting.serial =
          now := if_neg fun there => free (mem_serials_of_contains there)
      have handedBy : bridge.handedBy (.event (.submit submission) now) =
          bridge.issued (.ofSubmission submission version now) now := by
        simp only [handedBy, before, spoken]
        rfl
      have number : 1 ≤ waiting.number.toNat := follows.number
      obtain ⟨reply, handed⟩ := issued.handed_first
      refine ⟨⟨_, List.mem_append_right trace (handedBy ▸ handed), rfl, follows.same, fresh.symm⟩,
        ?_, ?_⟩
      · rw [fresh, follows.issuedAt]
        exact Nat.add_le_add_left (Nat.le_mul_of_pos_left maxAge number) now
      · have rungs := Nat.le_trans (submission.kind.ladder.rungsBelow_le_length version)
          submission.kind.length_rungs_le
        apply Nat.le_trans follows.room
        show 1 + submission.kind.ladder.rungsBelow version ≤ RequestKind.maxRungs + 1
        omega

theorem onTime_onAnswer {bridge : Bridge χ} {header : AnswerHeader} {payload : Payload}
    {now : Instant} (sound : (bridge.onAnswer header payload now).collision = none)
    (onTime : OnTime maxAge (some now) first trace bridge) :
    OnTime maxAge (some now)
      (bridge.firstIssuedAfter first (.event (.answer header payload) now))
      (trace ++ bridge.handedBy (.event (.answer header payload) now))
      (bridge.onAnswer header payload now) := by
  have stays : ∀ {waiting : Attempt}, waiting ∈ bridge.pending.attempts →
      waiting.serial ≠ header.serial →
      bridge.firstIssuedAfter first (.event (.answer header payload) now) waiting.serial =
        first waiting.serial := fun earlier other => if_pos ⟨other, contains_of_mem earlier⟩
  have allowed := (keeps_onAnswer sound).1.trans onTime.allowed
  cases current : bridge.pending.find? header.serial with
  | none =>
      have same := (sameRequests_onAnswer_of_stale current payload now).pending
      have others : ∀ waiting ∈ bridge.pending.attempts, waiting.serial ≠ header.serial := by
        intro waiting there named
        rw [← named, PendingTable.find?_of_mem there] at current
        cases current
      refine ⟨allowed, ?_, ?_⟩
      · rw [same]
        exact onTime.fresh
      · intro waiting member
        rw [same] at member
        exact (onTime.followed waiting member).onward _ (stays member (others waiting member))
  | some attempt =>
      have waited := PendingTable.mem_attempts_of_find? current
      have named := PendingTable.serial_of_find? current
      have followed := onTime.followed attempt waited
      have counted := Nat.lt_of_le_of_lt followed.room
        (by decide : RequestKind.maxRungs + 1 < UInt32.size)
      refine ⟨allowed, ?_, ?_⟩
      · rintro _ ⟨⟩ waiting left
        rcases waiting_onAnswer current counted sound left with ⟨earlier, -⟩ | ⟨-, follows, -⟩
        · exact onTime.fresh now rfl waiting earlier
        · rw [follows.issuedAt]
          exact Nat.le_add_right now maxAge
      · intro waiting left
        rcases waiting_onAnswer current counted sound left with
          ⟨earlier, other⟩ | ⟨retried, follows, higher⟩
        · exact (onTime.followed waiting earlier).onward _ (stays earlier other)
        · have kept : bridge.firstIssuedAfter first (.event (.answer header payload) now)
              waiting.serial = first attempt.serial := by
            rw [named]
            exact if_neg fun there => retried ⟨there.1, mem_serials_of_contains there.2⟩
          exact followed.retried _ (onTime.fresh now rfl attempt waited) follows higher kept

omit [Channel χ] in
/-- Where nothing new waits, everything stays on time. -/
theorem OnTime.of_bare {clock : Option Instant} {before after : Bridge χ}
    (onTime : OnTime maxAge clock first trace before) (allowed : after.maxAge = before.maxAge)
    (stays : ∀ waiting ∈ after.pending.attempts,
      ∃ earlier ∈ before.pending.attempts, earlier.bare = waiting.bare) :
    OnTime maxAge clock first trace after := by
  refine ⟨allowed.trans onTime.allowed, ?_, ?_⟩
  · intro now fired waiting member
    obtain ⟨earlier, there, same⟩ := stays waiting member
    rw [← Attempt.issuedAt_of_bare same]
    exact onTime.fresh now fired earlier there
  · intro waiting member
    obtain ⟨earlier, there, same⟩ := stays waiting member
    exact (onTime.followed earlier there).of_bare same

/-- Firing the timers starts a new round: what still waits is not too old at its instant. -/
theorem onTime_timers {clock : Option Instant} {bridge : Bridge χ}
    (onTime : OnTime maxAge clock first trace bridge) (now : Instant) :
    OnTime maxAge (some now) first trace (bridge.fireDueTimers now) := by
  have allowed : (bridge.fireDueTimers now).maxAge = bridge.maxAge :=
    @Maintained.timers χ _ _ (maxAge_maintained bridge.maxAge) [] bridge now rfl
  have kept : OnTime maxAge clock first trace (bridge.fireDueTimers now) := by
    refine onTime.of_bare allowed fun waiting member => ?_
    obtain ⟨earlier, there, same, -⟩ := mem_fireDueTimers member
    exact ⟨earlier, there, same⟩
  refine ⟨kept.allowed, ?_, kept.followed⟩
  rintro _ ⟨⟩ waiting member
  obtain ⟨-, -, -, young⟩ := mem_fireDueTimers member
  exact onTime.allowed ▸ young

theorem onTime_react {bridge : Bridge χ} {now : Instant} {event : Event}
    (before : bridge.collision = none) (sound : (bridge.react now event).collision = none)
    (onTime : OnTime maxAge (some now) first trace bridge) :
    OnTime maxAge (some now) (bridge.firstIssuedAfter first (.event event now))
      (trace ++ bridge.handedBy (.event event now)) (bridge.react now event) := by
  have allowed : (bridge.react now event).maxAge = bridge.maxAge :=
    @Maintained.react χ _ _ (maxAge_maintained bridge.maxAge) [] bridge now event before sound rfl
  cases event with
  | submit submission => exact onTime_submit before sound onTime
  | answer header payload => exact onTime_onAnswer sound onTime
  | requestAck | indication | channelLost | channelRestarted | listenIndications | listenStatus
  | shutdown =>
      show OnTime maxAge (some now) first (trace ++ []) _
      rw [List.append_nil]
      refine onTime.of_bare allowed fun waiting member => waiting_react ?_ ?_ member
      · exact fun _ named => nomatch named
      · exact fun _ _ named => nomatch named

theorem onTime_call {clock : Option Instant} {bridge : Bridge χ} {call : Call χ}
    (single : ∀ events now, call ≠ .batch events now) (paced : call.IsPaced clock)
    (sound : (bridge.call call).collision = none)
    (onTime : OnTime maxAge clock first trace bridge) :
    OnTime maxAge (call.clockAfter clock) (bridge.firstIssuedAfter first call)
      (trace ++ bridge.handedBy call) (bridge.call call) := by
  cases call with
  | batch events now => exact absurd rfl (single events now)
  | timers now =>
      show OnTime maxAge (some now) first (trace ++ []) _
      rw [List.append_nil]
      exact onTime_timers onTime now
  | event event now =>
      have before := collision_of_handle sound
      have reacts : bridge.call (.event event now) = bridge.react now event :=
        handle_of_sound before now event
      have fired : clock = some now := paced
      subst fired
      rw [reacts] at sound ⊢
      exact onTime_react before sound onTime
  | sampled | serialTaken | channelChanged | indicationListenerLost | statusListenerLost =>
      show OnTime maxAge clock first (trace ++ []) _
      rw [List.append_nil]
      exact onTime.of_bare rfl fun waiting member => ⟨waiting, member, rfl⟩

theorem onTime_steps {steps : List (Call χ)}
    (single : ∀ step ∈ steps, ∀ events now, step ≠ .batch events now)
    {clock : Option Instant} {first : Serial → Instant} {trace : List Handed} {bridge : Bridge χ}
    (paced : Paced clock steps) (sound : (bridge.run steps).collision = none)
    (onTime : OnTime maxAge clock first trace bridge) :
    OnTime maxAge (steps.foldl Call.clockAfter clock) (firstIssuedFrom first bridge steps)
      (trace ++ bridge.traceOfSteps steps) (bridge.run steps) := by
  induction steps generalizing clock first trace bridge with
  | nil =>
      rw [traceOfSteps, List.append_nil]
      exact onTime
  | cons step rest ih =>
      obtain ⟨here, onward⟩ := paced
      have kept := onTime_call (single step List.mem_cons_self) here (collision_of_run sound) onTime
      rw [traceOfSteps, ← List.append_assoc]
      have rest := fun later member => single later (List.mem_cons_of_mem step member)
      exact ih rest onward sound kept

end

/-! ## Batches -/

omit [Channel χ] in
theorem paced_append {earlier later : List (Call χ)} {clock : Option Instant} :
    Paced clock (earlier ++ later) ↔
      Paced clock earlier ∧ Paced (earlier.foldl Call.clockAfter clock) later := by
  induction earlier generalizing clock with
  | nil => exact ⟨fun paced => ⟨trivial, paced⟩, And.right⟩
  | cons step rest ih =>
      rw [List.cons_append, List.foldl_cons]
      exact (and_congr_right fun _ => ih).trans and_assoc.symm

omit [Channel χ] in
/-- Events alone do not change the clock. -/
theorem clockAfter_events (events : List Event) (now : Instant) (clock : Option Instant) :
    (events.map fun event => (Call.event event now : Call χ)).foldl Call.clockAfter clock =
      clock := by
  induction events with
  | nil => rfl
  | cons event rest ih => exact ih

omit [Channel χ] in
theorem paced_events (events : List Event) (now : Instant) :
    Paced (some now) (events.map fun event => (Call.event event now : Call χ)) := by
  induction events with
  | nil => trivial
  | cons event rest ih => exact ⟨rfl, ih⟩

omit [Channel χ] in
/-- A batch fires the timers, and then handles its events at the same instant. -/
theorem paced_batch (events : List Event) (now : Instant) (clock : Option Instant) :
    Paced clock (Call.batch events now : Call χ).steps ∧
      (Call.batch events now : Call χ).steps.foldl Call.clockAfter clock = some now := by
  refine ⟨paced_append.mpr ⟨⟨trivial, paced_events _ now⟩, trivial, trivial⟩, ?_⟩
  rw [Call.steps, List.foldl_append, List.foldl_cons]
  exact clockAfter_events _ now (some now)

omit [Channel χ] in
theorem paced_steps {calls : List (Call χ)} (batched : ∀ call ∈ calls, call.IsBatched)
    (clock : Option Instant) : Paced clock (calls.flatMap Call.steps) := by
  induction calls generalizing clock with
  | nil => trivial
  | cons call rest ih =>
      refine paced_append.mpr ⟨?_, ih (fun other member =>
        batched other (List.mem_cons_of_mem call member)) _⟩
      have own := batched call List.mem_cons_self
      cases call with
      | batch events now => exact (paced_batch events now clock).1
      | event event now => exact own.elim
      | timers | sampled | serialTaken | channelChanged | indicationListenerLost
      | statusListenerLost => exact ⟨trivial, trivial⟩

theorem onTime_run {config : BridgeConfig} {serials : SerialSource} {channel : χ}
    {calls : List (Call χ)} (batched : ∀ call ∈ calls, call.IsBatched)
    (sound : ((new config serials channel).run calls).collision = none) :
    OnTime config.requestMaxAge ((calls.flatMap Call.steps).foldl Call.clockAfter none)
      (firstIssued (new config serials channel) calls) ((new config serials channel).trace calls)
      ((new config serials channel).run calls) := by
  have start : OnTime config.requestMaxAge none (fun _ => 0) [] (new config serials channel) :=
    ⟨rfl, fun _ fired => (nomatch fired), fun _ waits => absurd waits List.not_mem_nil⟩
  -- In steps a batch is its timers and then its events, so the clock is set before each of these.
  rw [← run_steps] at sound ⊢
  have whole := onTime_steps (fun _ member => not_batch_of_mem_run member)
    (paced_steps batched none) sound start
  rwa [List.nil_append] at whole

/-- The same when the last call was a batch: the timers fired last at its instant. -/
theorem onTime_batch {config : BridgeConfig} {serials : SerialSource} {channel : χ}
    {calls : List (Call χ)} (batched : ∀ call ∈ calls, call.IsBatched) {events : List Event}
    {now : Instant}
    (sound : ((new config serials channel).run (calls ++ [.batch events now])).collision = none) :
    OnTime config.requestMaxAge (some now)
      (firstIssued (new config serials channel) (calls ++ [.batch events now]))
      ((new config serials channel).trace (calls ++ [.batch events now]))
      ((new config serials channel).run (calls ++ [.batch events now])) := by
  have whole : ∀ call ∈ calls ++ [.batch events now], call.IsBatched := by
    intro call there
    rcases List.mem_append.mp there with old | new
    · exact batched call old
    · rw [List.mem_singleton.mp new]
      trivial
  have clock : ((calls ++ [Call.batch events now]).flatMap Call.steps).foldl Call.clockAfter
      none = some now := by
    rw [List.flatMap_append, List.foldl_append, List.flatMap_singleton]
    exact (paced_batch events now _).2
  exact clock ▸ onTime_run whole sound

omit [Channel χ] in
/-- What waits is young, and its first attempt is no older than its attempts make up for. -/
theorem OnTime.bounds {maxAge : Span} {now : Instant} {first : Serial → Instant}
    {trace : List Handed} {bridge : Bridge χ}
    (onTime : OnTime maxAge (some now) first trace bridge) {waiting : Attempt}
    (member : waiting ∈ bridge.pending.attempts) :
    now.since waiting.issuedAt ≤ maxAge ∧
      ∃ handed ∈ trace, handed.attempt.number = 1 ∧ handed.attempt.SameRequest waiting ∧
        handed.attempt.issuedAt = first waiting.serial ∧
        now ≤ handed.attempt.issuedAt + waiting.number.toNat * maxAge := by
  have young := onTime.fresh now rfl waiting member
  obtain ⟨⟨handed, there, number, same, issued⟩, patience, -⟩ := onTime.followed waiting member
  have age : now.since waiting.issuedAt ≤ maxAge :=
    Nat.sub_le_of_le_add ((Nat.add_comm _ _) ▸ young)
  exact ⟨age, handed, there, number, same, issued, issued ▸ Nat.le_trans young patience⟩

/-- Nothing waits under a higher number than its ladder has rungs. -/
theorem number_le_rungs (config : BridgeConfig) (serials : SerialSource) (channel : χ)
    (calls : List (Call χ)) {waiting : Attempt}
    (member : waiting ∈ ((new config serials channel).run calls).pending.attempts) :
    waiting.number.toNat ≤ waiting.kind.ladder.rungs.length := by
  have begins : Orderly config.versionCap (new config serials channel) ∧
      ∃ lines, Lined [] [] ((new config serials channel).lives .empty) lines :=
    ⟨orderly_new config serials channel, [], .nil⟩
  obtain ⟨-, lines, lined⟩ := (kept_lined _ config.versionCap).run begins calls
  have lives : Live.made waiting.bare ∈ ((new config serials channel).run calls).lives .empty :=
    List.mem_map_of_mem (List.mem_map_of_mem member)
  obtain ⟨line, there, own⟩ := List.mem_filterMap.mp (lined.lives.mem_iff.mpr lives)
  have last : waiting.bare.IsLast line.submission line.made := (lined.sound line there).goesOn _ own
  have kind : waiting.kind = line.submission.kind := last.own.kind
  have number : waiting.number.toNat = line.made.length := last.number
  rw [number, kind]
  exact Nat.le_of_add_right_le last.room

/-- After any run in which events are handled in batches, a batch at an instant tells exactly those
requests that they timed out that were issued more than the allowed age before it, those first
issued first.  An answer to one of them in the same batch is only counted as stale, unless its
serial was handed over anew in the meantime.  What waits after the batch is at most as old as is
allowed, and was first handed over at most as many times the allowed age ago as it has made
attempts, so at most as many times as its ladder has rungs. -/
theorem age_out_exact (config : BridgeConfig) (serials : SerialSource) (channel : χ)
    (calls : List (Call χ)) (events : List Event) (now : Instant) (before after : Bridge χ)
    (batched : ∀ call ∈ calls, call.IsBatched)
    (reached : before = (new config serials channel).run calls)
    (handled : after = before.handleBatch events now) (sound : after.collision = none) :
    (∃ told, after.outcomes = before.outcomes ++
        (PendingTable.inOrder (before.pending.attempts.filter fun attempt =>
          attempt.issuedAt + config.requestMaxAge < now)).map expired ++ told ∧
      ∀ entry ∈ told, ∀ kind, entry.2 ≠ .failed (.timedOut kind)) ∧
    (∀ earlier header payload later,
      Event.inPhaseOrder events = earlier ++ .answer header payload :: later →
      ∀ late ∈ before.pending.attempts, late.serial = header.serial →
        late.issuedAt + config.requestMaxAge < now →
      let middle := (before.fireDueTimers now).handleEach now earlier
      middle.handle now (.answer header payload) = middle.countStale ∨
        ∃ handed ∈ (before.fireDueTimers now).traceOfSteps
            (earlier.map fun event => .event event now),
          handed.attempt.serial = header.serial ∧ handed.reply = .accepted) ∧
    ∀ waiting ∈ after.pending.attempts,
      now.since waiting.issuedAt ≤ config.requestMaxAge ∧
      ∃ first ∈ (new config serials channel).trace (calls ++ [.batch events now]),
        first.attempt.number = 1 ∧ first.attempt.SameRequest waiting ∧
        first.attempt.issuedAt = firstIssued (new config serials channel)
          (calls ++ [.batch events now]) waiting.serial ∧
        now ≤ first.attempt.issuedAt + waiting.number.toNat * config.requestMaxAge ∧
        now ≤ first.attempt.issuedAt + waiting.kind.ladder.rungs.length * config.requestMaxAge := by
  subst reached handled
  have through : ((new config serials channel).run calls).handleBatch events now =
      (new config serials channel).run (calls ++ [.batch events now]) :=
    (run_append _ calls [.batch events now]).symm
  have fired : ((((new config serials channel).run calls).fireDueTimers now).handleEach now
      (Event.inPhaseOrder events)).collision = none := sound
  have called : (((new config serials channel).run calls).call (.batch events now)).collision =
      none := sound
  have before := collision_of_call called
  have allowed : ((new config serials channel).run calls).maxAge = config.requestMaxAge :=
    (maxAge_maintained config.requestMaxAge).run [] before rfl
  have sourced := sourced_maintained.run [] before fun attempt waits =>
    absurd waits List.not_mem_nil
  refine ⟨?_, ?_, ?_⟩
  · obtain ⟨told, grown, timely⟩ := outcomes_handleBatch sound sourced
    rw [allowed] at grown
    exact ⟨told, grown, timely⟩
  · intro earlier header payload later order late waited named old
    rw [order, handleEach, List.foldl_append] at fired
    rw [← allowed] at old
    exact answer_after_expiry waited named old payload (collision_of_handleEach fired)
  · intro waiting member
    rw [through] at sound member
    obtain ⟨young, first, there, number, same, issued, bound⟩ :=
      (onTime_batch batched sound).bounds member
    have rungs := Nat.mul_le_mul_right config.requestMaxAge
      (number_le_rungs config serials channel _ member)
    exact ⟨young, first, there, number, same, issued, bound,
      Nat.le_trans bound (Nat.add_le_add_left rungs _)⟩

/-- Two requests wait, and the modem does not know the version of one just before both are too old.
A moment later the other times out, although the answer to it is in the batch, and the retry of the
first goes on waiting. -/
theorem age_out_exact_beside_retry :
    let start := new {} (.start 3) ({} : RecordingChannel)
    let calls := [.batch [.submit ⟨⟨1⟩, .sendSms, .empty, .unknown, 0, 0⟩,
        .submit ⟨⟨2⟩, .getSignalStrength, .empty, .unknown, 0, 1⟩] 0,
      .batch [.answer (.plain ⟨2⟩ .getSignalStrength .requestNotSupported) .empty] 90000000]
    let late := [.answer (.plain ⟨1⟩ .sendSms .success) .empty]
    let before := start.run calls
    let after := before.handleBatch late 90000001
    after.outcomes = [(0, .failed (.timedOut .sendSms))] ∧
      after.totals.staleAnswers = 1 ∧
      ∃ waiting ∈ after.pending.attempts, waiting.number = 2 ∧
        ∃ first ∈ start.trace (calls ++ [.batch late 90000001]),
          first.attempt.kind = .getSignalStrength ∧
          90000001 ≤ first.attempt.issuedAt + waiting.number.toNat * 90000000 := by
  intro start calls late before after
  obtain ⟨-, -, waits⟩ := age_out_exact {} (.start 3) ({} : RecordingChannel) calls late 90000001
    before after (by simp [calls, Call.IsBatched]) rfl rfl (by decide +kernel)
  have retried : ∃ waiting ∈ after.pending.attempts, waiting.number = 2 ∧
      waiting.kind = .getSignalStrength := by decide +kernel
  obtain ⟨waiting, member, second, kind⟩ := retried
  obtain ⟨-, first, handed, -, same, -, bound, -⟩ := waits waiting member
  exact ⟨by decide +kernel, by decide +kernel, waiting, member, second, first, handed,
    same.kind.symm.trans kind, bound⟩

end

end Bridge

end ModemLink
