/-
Module: ModemLink.Proofs.Issue
Purpose: The course of a request from its first hand-over until it waits or fails.
Main exports:
  SameRequest, Issue, issue_issued, Issue.ends, fallBack_cases, submit_of_spoken, answered,
  onAnswer_of_waiting
-/
import ModemLink.Proofs.Frame

namespace ModemLink

/-!
`issue` calls itself while the channel refuses versions.  `Issue` says the same as a relation, one
constructor for each way an attempt can go, and keeps the attempts handed over with the replies they
got.  All properties of issued requests are proved by induction on it.
-/

/-- The attempt as it is handed to the channel. -/
def Attempt.outbound (attempt : Attempt) : Outbound :=
  ⟨attempt.serial, attempt.kind, attempt.version, attempt.payload, attempt.origin⟩

/-- The attempt with a reference to the primary lock. -/
def Attempt.holding (attempt : Attempt) : Attempt :=
  { attempt with holdsLock := true }

/-- Two attempts at one request of a caller. -/
structure Attempt.SameRequest (attempt other : Attempt) : Prop where
  ticket : other.ticket = attempt.ticket
  kind : other.kind = attempt.kind
  payload : other.payload = attempt.payload
  origin : other.origin = attempt.origin

theorem Attempt.SameRequest.refl (attempt : Attempt) : attempt.SameRequest attempt :=
  ⟨rfl, rfl, rfl, rfl⟩

theorem Attempt.SameRequest.trans {first second third : Attempt}
    (earlier : first.SameRequest second) (later : second.SameRequest third) :
    first.SameRequest third :=
  ⟨later.ticket.trans earlier.ticket, later.kind.trans earlier.kind,
    later.payload.trans earlier.payload, later.origin.trans earlier.origin⟩

theorem Attempt.sameRequest_reissue (attempt : Attempt) (serial : Serial) (version : Version)
    (now : Instant) : attempt.SameRequest (attempt.reissue serial version now) :=
  ⟨rfl, rfl, rfl, rfl⟩

theorem getLast?_of_rest {α : Type} {first last : α} {rest : List α}
    (ended : rest.getLast? = some last) : (first :: rest).getLast? = some last := by
  rw [List.getLast?_cons, ended, Option.getD_some]

namespace Bridge

variable {χ : Type}

/-- An attempt takes its reference to the primary lock and is handed to the channel. -/
def handOver (bridge : Bridge χ) (attempt : Attempt) (reply : SendReply) (channel : χ)
    (now : Instant) : Bridge χ :=
  { bridge.acquireLock now with channel := channel }.emit [.handed attempt.outbound reply]

/-- An attempt that the channel accepted waits in the table. -/
def awaiting (bridge : Bridge χ) (attempt : Attempt) (pending : PendingTable) : Bridge χ :=
  { bridge with
    pending := pending
    totals := { bridge.totals with sent := bridge.totals.sent + 1 } }.measure
      (.submitted attempt.kind attempt.version)

/-- A kind is given up at a version. -/
def lowered (bridge : Bridge χ) (kind : RequestKind) (failed : Version) : Bridge χ :=
  { bridge with versions := bridge.versions.lower kind failed }

/-- A kind is given up at a version, and a retry gets a serial. -/
def retrying (bridge : Bridge χ) (kind : RequestKind) (failed version : Version) : Bridge χ :=
  { bridge with
    versions := bridge.versions.lower kind failed
    serials := bridge.serials.take.2
    totals := { bridge.totals with fallbacks := bridge.totals.fallbacks + 1 } }.measure
      (.fallback kind failed version)

/-! ## One attempt -/

theorem retreat_of_lower {bridge : Bridge χ} {attempt : Attempt} {failed version : Version}
    (lower : bridge.versions.next attempt.kind failed = some version) (now : Instant) :
    bridge.retreat attempt failed now =
      (some (attempt.reissue bridge.serials.take.1 version now),
        bridge.retrying attempt.kind failed version) := by
  simp only [retreat, VersionTable.stepDown, lower]
  rfl

theorem retreat_of_lowest {bridge : Bridge χ} {attempt : Attempt} {failed : Version}
    (lowest : bridge.versions.next attempt.kind failed = none) (now : Instant) :
    bridge.retreat attempt failed now =
      (none, (bridge.lowered attempt.kind failed).finish attempt
        (.failed (.unsupported attempt.kind)) now) := by
  simp only [retreat, VersionTable.stepDown, lowest]
  rfl

@[simp] theorem versions_handOver (bridge : Bridge χ) (attempt : Attempt) (reply : SendReply)
    (channel : χ) (now : Instant) :
    (bridge.handOver attempt reply channel now).versions = bridge.versions :=
  versions_acquireLock bridge now

@[simp] theorem serials_handOver (bridge : Bridge χ) (attempt : Attempt) (reply : SendReply)
    (channel : χ) (now : Instant) :
    (bridge.handOver attempt reply channel now).serials = bridge.serials :=
  (sameRequests_acquireLock bridge now).serials

@[simp] theorem pending_handOver (bridge : Bridge χ) (attempt : Attempt) (reply : SendReply)
    (channel : χ) (now : Instant) :
    (bridge.handOver attempt reply channel now).pending = bridge.pending :=
  (sameRequests_acquireLock bridge now).pending

theorem maxAge_handOver (bridge : Bridge χ) (attempt : Attempt) (reply : SendReply)
    (channel : χ) (now : Instant) :
    (bridge.handOver attempt reply channel now).maxAge = bridge.maxAge :=
  (sameRequests_acquireLock bridge now).maxAge

theorem running_handOver (bridge : Bridge χ) (attempt : Attempt) (reply : SendReply)
    (channel : χ) (now : Instant) :
    (bridge.handOver attempt reply channel now).running = bridge.running :=
  (sameRequests_acquireLock bridge now).running

theorem collision_handOver (bridge : Bridge χ) (attempt : Attempt) (reply : SendReply)
    (channel : χ) (now : Instant) :
    (bridge.handOver attempt reply channel now).collision = bridge.collision :=
  (sameRequests_acquireLock bridge now).collision

theorem handovers_handOver (bridge : Bridge χ) (attempt : Attempt) (reply : SendReply)
    (channel : χ) (now : Instant) :
    (bridge.handOver attempt reply channel now).handovers =
      bridge.handovers ++ [(attempt.outbound, reply)] := by
  rw [handovers, handOver, history_emit, List.filterMap_append]
  exact congrArg (· ++ _) (sameRequests_acquireLock bridge now).handovers

theorem outcomes_handOver (bridge : Bridge χ) (attempt : Attempt) (reply : SendReply)
    (channel : χ) (now : Instant) :
    (bridge.handOver attempt reply channel now).outcomes = bridge.outcomes := by
  rw [outcomes, handOver, history_emit, List.filterMap_append]
  exact (List.append_nil _).trans (sameRequests_acquireLock bridge now).outcomes

theorem outcomes_measure (bridge : Bridge χ) (measurement : Measurement) :
    (bridge.measure measurement).outcomes = bridge.outcomes :=
  (sameRequests_measure bridge measurement).outcomes

theorem handovers_measure (bridge : Bridge χ) (measurement : Measurement) :
    (bridge.measure measurement).handovers = bridge.handovers :=
  (sameRequests_measure bridge measurement).handovers

theorem outcomes_awaiting (bridge : Bridge χ) (attempt : Attempt) (pending : PendingTable) :
    (bridge.awaiting attempt pending).outcomes = bridge.outcomes :=
  outcomes_measure _ _

theorem handovers_awaiting (bridge : Bridge χ) (attempt : Attempt) (pending : PendingTable) :
    (bridge.awaiting attempt pending).handovers = bridge.handovers :=
  handovers_measure _ _

theorem pending_lowered (bridge : Bridge χ) (kind : RequestKind) (failed : Version) :
    (bridge.lowered kind failed).pending = bridge.pending := rfl

theorem outcomes_lowered (bridge : Bridge χ) (kind : RequestKind) (failed : Version) :
    (bridge.lowered kind failed).outcomes = bridge.outcomes := rfl

theorem maxAge_lowered (bridge : Bridge χ) (kind : RequestKind) (failed : Version) :
    (bridge.lowered kind failed).maxAge = bridge.maxAge := rfl

theorem running_lowered (bridge : Bridge χ) (kind : RequestKind) (failed : Version) :
    (bridge.lowered kind failed).running = bridge.running := rfl

theorem collision_lowered (bridge : Bridge χ) (kind : RequestKind) (failed : Version) :
    (bridge.lowered kind failed).collision = bridge.collision := rfl

theorem handovers_lowered (bridge : Bridge χ) (kind : RequestKind) (failed : Version) :
    (bridge.lowered kind failed).handovers = bridge.handovers := rfl

theorem maxAge_retrying (bridge : Bridge χ) (kind : RequestKind) (failed version : Version) :
    (bridge.retrying kind failed version).maxAge = bridge.maxAge := rfl

theorem running_retrying (bridge : Bridge χ) (kind : RequestKind) (failed version : Version) :
    (bridge.retrying kind failed version).running = bridge.running := rfl

theorem collision_retrying (bridge : Bridge χ) (kind : RequestKind) (failed version : Version) :
    (bridge.retrying kind failed version).collision = bridge.collision := rfl

theorem pending_retrying (bridge : Bridge χ) (kind : RequestKind) (failed version : Version) :
    (bridge.retrying kind failed version).pending = bridge.pending := rfl

theorem outcomes_retrying (bridge : Bridge χ) (kind : RequestKind) (failed version : Version) :
    (bridge.retrying kind failed version).outcomes = bridge.outcomes :=
  outcomes_measure _ _

theorem handovers_retrying (bridge : Bridge χ) (kind : RequestKind) (failed version : Version) :
    (bridge.retrying kind failed version).handovers = bridge.handovers :=
  handovers_measure _ _

/-- After a refusal a kind is spoken at the version at which it is tried again. -/
theorem current_retrying {bridge : Bridge χ} {kind : RequestKind} {failed version : Version}
    (lower : bridge.versions.next kind failed = some version) :
    (bridge.retrying kind failed version).versions.current kind = some version := by
  show (bridge.versions.lower kind failed).current kind = some version
  rw [VersionTable.current_lower, if_pos rfl, lower]

theorem retreat_eq_none {bridge after : Bridge χ} {attempt : Attempt} {failed : Version}
    {now : Instant} (retreated : bridge.retreat attempt failed now = (none, after)) :
    bridge.versions.next attempt.kind failed = none ∧
      after = (bridge.lowered attempt.kind failed).finish attempt
        (.failed (.unsupported attempt.kind)) now := by
  cases next : bridge.versions.next attempt.kind failed with
  | none =>
      rw [retreat_of_lowest next] at retreated
      cases retreated
      exact ⟨rfl, rfl⟩
  | some version =>
      rw [retreat_of_lower next] at retreated
      simp at retreated

theorem retreat_eq_some {bridge after : Bridge χ} {attempt retry : Attempt} {failed : Version}
    {now : Instant} (retreated : bridge.retreat attempt failed now = (some retry, after)) :
    ∃ version, bridge.versions.next attempt.kind failed = some version ∧
      retry = attempt.reissue bridge.serials.take.1 version now ∧
      after = bridge.retrying attempt.kind failed version := by
  cases next : bridge.versions.next attempt.kind failed with
  | none =>
      rw [retreat_of_lowest next] at retreated
      simp at retreated
  | some version =>
      rw [retreat_of_lower next] at retreated
      cases retreated
      exact ⟨version, rfl, rfl, rfl⟩

section

variable [Channel χ]

theorem dispatch_of_spoken {bridge : Bridge χ} {attempt : Attempt}
    (spoken : bridge.versions.current attempt.kind = some attempt.version) {reply : SendReply}
    {channel : χ} (replied : Channel.send bridge.channel attempt.outbound = (reply, channel)) :
    bridge.dispatch attempt =
      (.ofReply attempt.version reply,
        { bridge with channel := channel }.emit [.handed attempt.outbound reply]) := by
  have replied' : Channel.send bridge.channel ⟨attempt.serial, attempt.kind, attempt.version,
      attempt.payload, attempt.origin⟩ = (reply, channel) := replied
  simp only [dispatch, VersionTable.dispatch, spoken, replied']
  rfl

/-- What `offer` does once the attempt is in the table: the reply of the channel decides. -/
theorem offer_of_inserted {bridge : Bridge χ} {attempt : Attempt} {pending : PendingTable}
    {reply : SendReply} {channel : χ}
    (spoken : bridge.versions.current attempt.kind = some attempt.version)
    (inserted : bridge.pending.insert? attempt.holding = some pending)
    (replied : Channel.send bridge.channel attempt.outbound = (reply, channel))
    (now : Instant) :
    bridge.offer attempt now =
      match reply with
      | .accepted =>
        (none, (bridge.handOver attempt .accepted channel now).awaiting attempt pending)
      | .unavailable reason =>
        (none, (bridge.handOver attempt (.unavailable reason) channel now).finish attempt.holding
          (.failed (.channelUnavailable attempt.kind)) now)
      | .versionRefused =>
        (some (attempt.holding, attempt.version),
          bridge.handOver attempt .versionRefused channel now) := by
  have same := sameRequests_acquireLock bridge now
  have erased : pending.erase attempt.serial = (bridge.acquireLock now).pending := by
    rw [same.pending]
    have taken := PendingTable.erase_of_insert? inserted
    exact taken
  have inserted' : (bridge.acquireLock now).pending.insert? attempt.holding = some pending := by
    rw [same.pending]
    exact inserted
  have dispatched : { bridge.acquireLock now with pending := pending }.dispatch attempt.holding =
      (.ofReply attempt.version reply,
        { bridge.acquireLock now with pending := pending, channel := channel }.emit
          [.handed attempt.outbound reply]) := by
    apply dispatch_of_spoken
    · rw [versions_acquireLock]
      exact spoken
    · rw [channel_acquireLock]
      exact replied
  unfold Attempt.holding at inserted' dispatched ⊢
  simp only [offer, inserted', dispatched]
  cases reply with
  | accepted => rfl
  | unavailable reason =>
      simp only [Dispatch.ofReply, emit, erased]
      rfl
  | versionRefused =>
      simp only [Dispatch.ofReply, emit, erased]
      rfl

theorem offer_of_not_inserted {bridge : Bridge χ} {attempt : Attempt}
    (taken : bridge.pending.insert? attempt.holding = none) (now : Instant) :
    bridge.offer attempt now =
      (none, { bridge.acquireLock now with collision := some attempt.holding }) := by
  have taken' : (bridge.acquireLock now).pending.insert? attempt.holding = none := by
    rw [(sameRequests_acquireLock bridge now).pending]
    exact taken
  unfold Attempt.holding at taken' ⊢
  simp only [offer, taken']

theorem issue_of_dealt {bridge after : Bridge χ} {attempt : Attempt} {now : Instant}
    (dealt : bridge.offer attempt now = (none, after)) : bridge.issue attempt now = after := by
  rw [issue]
  split
  · rename_i offered
    rw [dealt] at offered
    cases offered
    rfl
  · rename_i offered
    rw [dealt] at offered
    cases offered

theorem issue_of_refused {bridge middle : Bridge χ} {attempt refused : Attempt}
    {version : Version} {now : Instant}
    (refusal : bridge.offer attempt now = (some (refused, version), middle)) :
    bridge.issue attempt now =
      match middle.retreat refused version now with
      | (none, after) => after
      | (some next, retried) => (retried.issue next now).releaseIf refused.holdsLock now := by
  rw [issue]
  split
  · rename_i offered
    rw [refusal] at offered
    cases offered
  · rename_i offered
    rw [refusal] at offered
    cases offered
    cases middle.retreat refused version now with
    | mk next after => cases next <;> rfl

/-! ## The whole course -/

/-- `Issue now bridge attempt trace after`: issuing the attempt leads to `after`, and `trace` has
the attempts handed over in between with the replies to them.  Each is handed over at the version of
its kind at that moment, under a serial that nothing waits under. -/
inductive Issue (now : Instant) :
    Bridge χ → Attempt → List (Attempt × SendReply) → Bridge χ → Prop where
  /-- The request is on its way. -/
  | accepted {bridge : Bridge χ} {attempt : Attempt} {pending : PendingTable} {channel : χ}
      (spoken : bridge.versions.current attempt.kind = some attempt.version)
      (inserted : bridge.pending.insert? attempt.holding = some pending)
      (replied : Channel.send bridge.channel attempt.outbound = (.accepted, channel)) :
      Issue now bridge attempt [(attempt, .accepted)]
        ((bridge.handOver attempt .accepted channel now).awaiting attempt pending)
  /-- The modem cannot be reached. -/
  | unavailable {bridge : Bridge χ} {attempt : Attempt} {pending : PendingTable} {channel : χ}
      {reason : String}
      (spoken : bridge.versions.current attempt.kind = some attempt.version)
      (inserted : bridge.pending.insert? attempt.holding = some pending)
      (replied : Channel.send bridge.channel attempt.outbound = (.unavailable reason, channel)) :
      Issue now bridge attempt [(attempt, .unavailable reason)]
        ((bridge.handOver attempt (.unavailable reason) channel now).finish attempt.holding
          (.failed (.channelUnavailable attempt.kind)) now)
  /-- The lowest version is refused. -/
  | exhausted {bridge : Bridge χ} {attempt : Attempt} {pending : PendingTable} {channel : χ}
      (spoken : bridge.versions.current attempt.kind = some attempt.version)
      (inserted : bridge.pending.insert? attempt.holding = some pending)
      (replied : Channel.send bridge.channel attempt.outbound = (.versionRefused, channel))
      (lowest : bridge.versions.next attempt.kind attempt.version = none) :
      Issue now bridge attempt [(attempt, .versionRefused)]
        (((bridge.handOver attempt .versionRefused channel now).lowered attempt.kind
          attempt.version).finish attempt.holding (.failed (.unsupported attempt.kind)) now)
  /-- The version is refused, and the request is issued at a lower one. -/
  | retried {bridge after : Bridge χ} {attempt : Attempt} {pending : PendingTable} {channel : χ}
      {version : Version} {trace : List (Attempt × SendReply)}
      (spoken : bridge.versions.current attempt.kind = some attempt.version)
      (inserted : bridge.pending.insert? attempt.holding = some pending)
      (replied : Channel.send bridge.channel attempt.outbound = (.versionRefused, channel))
      (lower : bridge.versions.next attempt.kind attempt.version = some version)
      (rest : Issue now
        ((bridge.handOver attempt .versionRefused channel now).retrying attempt.kind
          attempt.version version)
        (attempt.reissue bridge.serials.take.1 version now) trace after) :
      Issue now bridge attempt ((attempt, .versionRefused) :: trace) (after.releaseLock now)

theorem Issue.of_dealt {bridge after : Bridge χ} {attempt : Attempt} {now : Instant}
    (spoken : bridge.versions.current attempt.kind = some attempt.version)
    (offered : bridge.offer attempt now = (none, after)) (sound : after.collision = none) :
    ∃ trace, Issue now bridge attempt trace after := by
  cases inserted : bridge.pending.insert? attempt.holding with
  | none =>
      rw [offer_of_not_inserted inserted] at offered
      cases offered
      simp at sound
  | some pending =>
      cases replied : Channel.send bridge.channel attempt.outbound with
      | mk reply channel =>
          rw [offer_of_inserted spoken inserted replied] at offered
          cases reply with
          | accepted =>
              cases offered
              exact ⟨_, .accepted spoken inserted replied⟩
          | unavailable reason =>
              cases offered
              exact ⟨_, .unavailable spoken inserted replied⟩
          | versionRefused => simp at offered

/-- The channel refuses an attempt only at the version at which it was handed over. -/
theorem offer_eq_some {bridge after : Bridge χ} {attempt refused : Attempt} {version : Version}
    {now : Instant} (spoken : bridge.versions.current attempt.kind = some attempt.version)
    (offered : bridge.offer attempt now = (some (refused, version), after)) :
    ∃ pending channel, bridge.pending.insert? attempt.holding = some pending ∧
      Channel.send bridge.channel attempt.outbound = (.versionRefused, channel) ∧
      refused = attempt.holding ∧ version = attempt.version ∧
      after = bridge.handOver attempt .versionRefused channel now := by
  cases inserted : bridge.pending.insert? attempt.holding with
  | none =>
      rw [offer_of_not_inserted inserted] at offered
      simp at offered
  | some pending =>
      cases replied : Channel.send bridge.channel attempt.outbound with
      | mk reply channel =>
          rw [offer_of_inserted spoken inserted replied] at offered
          cases reply with
          | accepted => simp at offered
          | unavailable reason => simp at offered
          | versionRefused =>
              cases offered
              exact ⟨pending, channel, rfl, rfl, rfl, rfl, rfl⟩

/-- Unless serials collide, `issue` takes the course that the relation describes. -/
theorem issue_issued (bridge : Bridge χ) (attempt : Attempt) {now : Instant}
    (spoken : bridge.versions.current attempt.kind = some attempt.version)
    (sound : (bridge.issue attempt now).collision = none) :
    ∃ trace, Issue now bridge attempt trace (bridge.issue attempt now) := by
  fun_induction issue bridge attempt now with
  | case1 bridge attempt after offered => exact Issue.of_dealt spoken offered sound
  | case2 bridge attempt refused version middle offered after retreated =>
      obtain ⟨pending, channel, inserted, replied, rfl, rfl, rfl⟩ := offer_eq_some spoken offered
      obtain ⟨lowest, rfl⟩ := retreat_eq_none retreated
      rw [versions_handOver] at lowest
      exact ⟨_, .exhausted spoken inserted replied lowest⟩
  | case3 bridge attempt refused version middle offered next retried retreated ih =>
      obtain ⟨pending, channel, inserted, replied, rfl, rfl, rfl⟩ := offer_eq_some spoken offered
      obtain ⟨lower, next_eq, rfl, rfl⟩ := retreat_eq_some retreated
      have spokenLower := current_retrying next_eq
      have soundInner := (sameRequests_releaseIf _ true now).collision.symm.trans sound
      obtain ⟨trace, issued⟩ := ih spokenLower soundInner
      rw [versions_handOver] at next_eq
      rw [serials_handOver] at issued ⊢
      exact ⟨_, .retried spoken inserted replied next_eq issued⟩

/-- Whatever is issued is at its kind's version, under a serial that was free. -/
theorem Issue.exists_insert {bridge after : Bridge χ} {attempt : Attempt} {now : Instant}
    {trace : List (Attempt × SendReply)} (issued : Issue now bridge attempt trace after) :
    bridge.versions.current attempt.kind = some attempt.version ∧
      ∃ pending, bridge.pending.insert? attempt.holding = some pending := by
  cases issued with
  | accepted spoken inserted | unavailable spoken inserted | exhausted spoken inserted
  | retried spoken inserted => exact ⟨spoken, _, inserted⟩

/-! ## How it ends -/

/-- What was handed over is what the trace says, and a request waits in the end, was not delivered,
or was refused down to the lowest version. -/
structure Issue.Ending (bridge : Bridge χ) (attempt : Attempt)
    (trace : List (Attempt × SendReply)) (after : Bridge χ) : Prop where
  maxAge : after.maxAge = bridge.maxAge
  running : after.running = bridge.running
  collision : after.collision = bridge.collision
  handovers : after.handovers =
    bridge.handovers ++ trace.map fun handed => (handed.1.outbound, handed.2)
  ending :
    (∃ last, attempt.SameRequest last ∧ trace.getLast? = some (last, .accepted) ∧
      bridge.pending.insert? last.holding = some after.pending ∧
      after.outcomes = bridge.outcomes) ∨
    (∃ last reason, attempt.SameRequest last ∧
      trace.getLast? = some (last, .unavailable reason) ∧ after.pending = bridge.pending ∧
      after.outcomes = bridge.outcomes ++
        [(attempt.ticket, .failed (.channelUnavailable attempt.kind))]) ∨
    (∃ last, attempt.SameRequest last ∧ trace.getLast? = some (last, .versionRefused) ∧
      after.pending = bridge.pending ∧ after.versions.current attempt.kind = none ∧
      after.outcomes = bridge.outcomes ++ [(attempt.ticket, .failed (.unsupported attempt.kind))])

theorem Issue.ends {bridge after : Bridge χ} {attempt : Attempt} {now : Instant}
    {trace : List (Attempt × SendReply)} (issued : Issue now bridge attempt trace after) :
    Issue.Ending bridge attempt trace after := by
  induction issued with
  | @accepted bridge attempt pending channel spoken inserted replied =>
      constructor
      · exact maxAge_handOver bridge attempt .accepted channel now
      · exact running_handOver bridge attempt .accepted channel now
      · exact collision_handOver bridge attempt .accepted channel now
      · rw [handovers_awaiting, handovers_handOver]
        rfl
      · refine Or.inl ⟨attempt, .refl attempt, rfl, inserted, ?_⟩
        rw [outcomes_awaiting, outcomes_handOver]
  | @unavailable bridge attempt pending channel reason spoken inserted replied =>
      have finished := settles_finish (bridge.handOver attempt (.unavailable reason) channel now)
        attempt.holding (.failed (.channelUnavailable attempt.kind)) now
      constructor
      · rw [finished.maxAge, maxAge_handOver]
      · rw [finished.running, running_handOver]
      · rw [finished.collision, collision_handOver]
      · rw [finished.handovers, handovers_handOver]
        rfl
      · refine Or.inr (Or.inl ⟨attempt, reason, .refl attempt, rfl, ?_, ?_⟩)
        · rw [finished.pending, pending_handOver]
        · rw [finished.outcomes, outcomes_handOver]
          rfl
  | @exhausted bridge attempt pending channel spoken inserted replied lowest =>
      have finished := settles_finish
        ((bridge.handOver attempt .versionRefused channel now).lowered attempt.kind attempt.version)
        attempt.holding (.failed (.unsupported attempt.kind)) now
      constructor
      · rw [finished.maxAge, maxAge_lowered, maxAge_handOver]
      · rw [finished.running, running_lowered, running_handOver]
      · rw [finished.collision, collision_lowered, collision_handOver]
      · rw [finished.handovers, handovers_lowered, handovers_handOver]
        rfl
      · refine Or.inr (Or.inr ⟨attempt, .refl attempt, rfl, ?_, ?_, ?_⟩)
        · rw [finished.pending, pending_lowered, pending_handOver]
        · rw [finished.versions, lowered, VersionTable.current_lower, if_pos rfl, versions_handOver,
            lowest]
        · rw [finished.outcomes, outcomes_lowered, outcomes_handOver]
          rfl
  | @retried bridge after attempt pending channel version trace spoken inserted replied lower rest
      ih =>
      have released := sameRequests_releaseLock after now
      have same := attempt.sameRequest_reissue bridge.serials.take.1 version now
      constructor
      · rw [released.maxAge, ih.maxAge, maxAge_retrying, maxAge_handOver]
      · rw [released.running, ih.running, running_retrying, running_handOver]
      · rw [released.collision, ih.collision, collision_retrying, collision_handOver]
      · rw [released.handovers, ih.handovers, handovers_retrying, handovers_handOver,
          List.map_cons, List.append_assoc]
        rfl
      · have ending := ih.ending
        rw [outcomes_retrying, outcomes_handOver, pending_retrying, pending_handOver] at ending
        rw [released.outcomes, released.pending, released.versions]
        rcases ending with ⟨last, later, ended, waits, none⟩ |
          ⟨last, reason, later, ended, out, failed⟩ | ⟨last, later, ended, out, silent, failed⟩
        · exact Or.inl ⟨last, same.trans later, getLast?_of_rest ended, waits, none⟩
        · exact Or.inr (Or.inl
            ⟨last, reason, same.trans later, getLast?_of_rest ended, out, failed⟩)
        · exact Or.inr (Or.inr
            ⟨last, same.trans later, getLast?_of_rest ended, out, silent, failed⟩)

theorem Issue.size_le {bridge after : Bridge χ} {attempt : Attempt} {now : Instant}
    {trace : List (Attempt × SendReply)} (issued : Issue now bridge attempt trace after) :
    after.pending.size ≤ bridge.pending.size + 1 := by
  rcases issued.ends.ending with ⟨last, -, -, inserted, -⟩ | ⟨last, reason, -, -, same, -⟩ |
    ⟨last, -, -, same, -⟩
  · rw [PendingTable.size, PendingTable.attempts_insert? inserted]
    exact Nat.le_refl _
  · rw [same]
    exact Nat.le_succ _
  · rw [same]
    exact Nat.le_succ _

/-! ## Requests, retries and answers -/

/-- A retry is issued, or the request fails because no version is left. -/
theorem fallBack_cases {bridge : Bridge χ} {attempt : Attempt} {failed : Version} {now : Instant}
    (sound : (bridge.fallBack attempt failed now).collision = none) :
    (bridge.versions.next attempt.kind failed = none ∧
      bridge.fallBack attempt failed now =
        (bridge.lowered attempt.kind failed).finish attempt
          (.failed (.unsupported attempt.kind)) now) ∨
    ∃ version trace after, bridge.versions.next attempt.kind failed = some version ∧
      Issue now (bridge.retrying attempt.kind failed version)
        (attempt.reissue bridge.serials.take.1 version now) trace after ∧
      bridge.fallBack attempt failed now = after.releaseIf attempt.holdsLock now := by
  cases next : bridge.versions.next attempt.kind failed with
  | none =>
      refine Or.inl ⟨rfl, ?_⟩
      simp only [fallBack, retreat_of_lowest next]
  | some version =>
      have course : bridge.fallBack attempt failed now =
          ((bridge.retrying attempt.kind failed version).issue
            (attempt.reissue bridge.serials.take.1 version now) now).releaseIf
              attempt.holdsLock now := by
        simp only [fallBack, retreat_of_lower next]
      rw [course] at sound
      have soundInner := (sameRequests_releaseIf _ attempt.holdsLock now).collision.symm.trans sound
      obtain ⟨trace, issued⟩ :=
        issue_issued (bridge.retrying attempt.kind failed version)
          (attempt.reissue bridge.serials.take.1 version now) (current_retrying next) soundInner
      exact Or.inr ⟨version, trace, _, rfl, issued, course⟩

theorem submit_of_unspoken {bridge : Bridge χ} {submission : Submission}
    (unspoken : bridge.versions.current submission.kind = none) (now : Instant) :
    bridge.submit submission now =
      (bridge.recordOutcome submission.kind (.failed (.unsupported submission.kind)) 0).emit
        [.settled submission.ticket (.failed (.unsupported submission.kind))] := by
  simp only [submit, unspoken]

/-- A request of a kind that is not spoken is told so at once. -/
theorem settles_submit_of_unspoken {bridge : Bridge χ} {submission : Submission}
    (unspoken : bridge.versions.current submission.kind = none) (now : Instant) :
    Settles bridge (bridge.submit submission now)
      [(submission.ticket, .failed (.unsupported submission.kind))] := by
  rw [submit_of_unspoken unspoken]
  have recorded := sameRequests_recordOutcome bridge submission.kind
    (.failed (.unsupported submission.kind)) 0
  exact recorded.settles.trans (settles_emit _ submission.ticket _)

theorem submit_of_spoken {bridge : Bridge χ} {submission : Submission} {version : Version}
    (spoken : bridge.versions.current submission.kind = some version) {now : Instant}
    (sound : (bridge.submit submission now).collision = none) :
    ∃ trace, Issue now bridge (.ofSubmission submission version now) trace
      (bridge.submit submission now) := by
  have course : bridge.submit submission now =
      bridge.issue (.ofSubmission submission version now) now := by
    simp only [submit, spoken]
  rw [course] at sound ⊢
  exact issue_issued bridge _ spoken sound

/-- The bridge once the answer to an attempt is taken in, before anything is done about it: the
attempt is out of the table, the frame acknowledged, and the answer seen by the fault detector. -/
def answered (bridge : Bridge χ) (attempt : Attempt) (header : AnswerHeader) (now : Instant) :
    Bridge χ :=
  let received :=
    { bridge with pending := bridge.pending.erase header.serial }.sendAckIf
      header.type.ackExpected now
  received.withDetector (received.detector.onAnswer attempt.kind header.code now)

theorem sameRequests_answered (bridge : Bridge χ) (attempt : Attempt) (header : AnswerHeader)
    (now : Instant) :
    SameRequests { bridge with pending := bridge.pending.erase header.serial }
      (bridge.answered attempt header now) :=
  (sameRequests_sendAckIf _ header.type.ackExpected now).trans (sameRequests_withDetector _ _)

theorem outcomes_answered (bridge : Bridge χ) (attempt : Attempt) (header : AnswerHeader)
    (now : Instant) : (bridge.answered attempt header now).outcomes = bridge.outcomes :=
  (sameRequests_answered bridge attempt header now).outcomes

theorem handovers_answered (bridge : Bridge χ) (attempt : Attempt) (header : AnswerHeader)
    (now : Instant) : (bridge.answered attempt header now).handovers = bridge.handovers :=
  (sameRequests_answered bridge attempt header now).handovers

theorem pending_answered (bridge : Bridge χ) (attempt : Attempt) (header : AnswerHeader)
    (now : Instant) :
    (bridge.answered attempt header now).pending = bridge.pending.erase header.serial :=
  (sameRequests_answered bridge attempt header now).pending

theorem onAnswer_of_stale {bridge : Bridge χ} {header : AnswerHeader}
    (stale : bridge.pending.find? header.serial = none) (payload : Payload) (now : Instant) :
    bridge.onAnswer header payload now =
      { bridge with
        totals := { bridge.totals with staleAnswers := bridge.totals.staleAnswers + 1 } }.measure
          .staleAnswer := by
  simp only [onAnswer, stale]

theorem onAnswer_of_waiting {bridge : Bridge χ} {header : AnswerHeader} {attempt : Attempt}
    (waiting : bridge.pending.find? header.serial = some attempt) (payload : Payload)
    (now : Instant) :
    bridge.onAnswer header payload now =
      if header.code.isNotSupported then
        (bridge.answered attempt header now).fallBack attempt attempt.version now
      else if header.code.isSuccess then
        (bridge.answered attempt header now).finish attempt (.ok payload) now
      else
        (bridge.answered attempt header now).finish attempt
          (.failed (.rejected attempt.kind header.code)) now := by
  simp only [onAnswer, waiting]
  rfl

end

end Bridge

end ModemLink
