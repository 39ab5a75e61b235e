/-
Module: ModemLink.Proofs.Refusals
Purpose: A version refused by the channel counts as one that the modem answers it does not know.
Main exports:
  Channel.Refuses, Akin, answerRefused, Stage, Issue.akin_answered, refusal_as_answer
-/
import ModemLink.Proofs.Nesting

namespace ModemLink

/-!
A channel may know which versions its modem speaks, and refuse a request at once; or it may hand
over everything, and the modem answers that it does not know the request.  A refused request is
retried inside `issue`, under references to the primary lock that nest; an answered one is retried
after it waited, one reference at a time.  Both lead to the same bridge but for what is said about
frames.
-/

namespace Channel

variable {χ : Type} [Channel χ]

/-- The channel after some requests were handed to it. -/
def afterSending (channel : χ) (requests : List Outbound) : χ :=
  requests.foldl (fun channel request => (send channel request).2) channel

/-- The channel refuses some kinds at some versions and accepts everything else, whatever was handed
to it before. -/
def Refuses (channel : χ) (refuses : RequestKind → Version → Bool) : Prop :=
  ∀ sent request, (send (afterSending channel sent) request).1 =
    if refuses request.kind request.version then .versionRefused else .accepted

namespace Refuses

variable {channel : χ} {refuses : RequestKind → Version → Bool}

theorem reply (refusing : Refuses channel refuses) (request : Outbound) :
    (send channel request).1 =
      if refuses request.kind request.version then .versionRefused else .accepted :=
  refusing [] request

theorem after (refusing : Refuses channel refuses) (request : Outbound) :
    Refuses (send channel request).2 refuses :=
  fun sent => refusing (request :: sent)

theorem of_versionRefused {request : Outbound} {next : χ} (refusing : Refuses channel refuses)
    (replied : send channel request = (.versionRefused, next)) :
    refuses request.kind request.version = true := by
  have reply := refusing.reply request
  rw [replied] at reply
  split at reply
  · assumption
  · cases reply

theorem of_accepted {request : Outbound} {next : χ} (refusing : Refuses channel refuses)
    (replied : send channel request = (.accepted, next)) :
    ¬refuses request.kind request.version = true := by
  intro refused
  have reply := refusing.reply request
  rw [replied, if_pos refused] at reply
  cases reply

end Refuses

end Channel

open Channel (Refuses)

/-- The answer that the modem does not know a request. -/
def Outbound.unknown (request : Outbound) : AnswerHeader :=
  .plain request.serial request.kind .requestNotSupported

/-- A record that can be kept refuses what it was made to refuse. -/
theorem RecordingChannel.refuses_refused {channel : RecordingChannel}
    (reachable : channel.unavailable = none) :
    Refuses channel fun kind version => channel.refused.contains (kind, version) := by
  intro sent
  induction sent generalizing channel with
  | nil =>
      intro request
      simp only [Channel.afterSending, List.foldl_nil, Channel.send, send, reachable]
      split <;> rfl
  | cons first rest ih =>
      have kept : (Channel.send channel first).2.unavailable = none ∧
          (Channel.send channel first).2.refused = channel.refused := by
        simp only [Channel.send, send, reachable]
        split
        · exact ⟨reachable, rfl⟩
        · exact ⟨rfl, rfl⟩
      rw [← kept.2]
      exact ih kept.1

/-- Neither an outcome nor about the primary lock. -/
structure Effect.IsQuiet (effect : Effect) : Prop where
  outcome : effect.outcome? = none
  lock : effect.lock? ≠ some .primary

namespace Bridge

variable {χ : Type}

/-! ## Bridges that differ in frames alone -/

/-- What was done about the primary lock: calls to it, and samples of them. -/
def primaryEffects (bridge : Bridge χ) : List Effect :=
  bridge.history.filter fun effect => effect.lock? = some .primary

/-- Two bridges that differ at most in what they handed over, in what the fault detector saw, and in
the order in which outcomes and locks took turns. -/
structure Akin (bridge other : Bridge χ) : Prop where
  rest : { bridge with
    channel := other.channel
    detector := other.detector
    totals := other.totals
    journal := other.journal } = other
  totals : { bridge.totals with sent := other.totals.sent } = other.totals
  outcomes : bridge.outcomes = other.outcomes
  primary : bridge.primaryEffects = other.primaryEffects

namespace Akin

variable {bridge other third : Bridge χ}

theorem refl (bridge : Bridge χ) : Akin bridge bridge :=
  ⟨rfl, rfl, rfl, rfl⟩

theorem symm (akin : Akin bridge other) : Akin other bridge where
  rest := (congrArg (fun other : Bridge χ => { other with
    channel := bridge.channel
    detector := bridge.detector
    totals := bridge.totals
    journal := bridge.journal }) akin.rest).symm
  totals := (congrArg (fun totals : Totals => { totals with sent := bridge.totals.sent })
    akin.totals).symm
  outcomes := akin.outcomes.symm
  primary := akin.primary.symm

theorem trans (first : Akin bridge other) (second : Akin other third) : Akin bridge third where
  rest := (congrArg (fun other : Bridge χ => { other with
    channel := third.channel
    detector := third.detector
    totals := third.totals
    journal := third.journal }) first.rest).trans second.rest
  totals := (congrArg (fun totals : Totals => { totals with sent := third.totals.sent })
    first.totals).trans second.totals
  outcomes := first.outcomes.trans second.outcomes
  primary := first.primary.trans second.primary

theorem pending (akin : Akin bridge other) : bridge.pending = other.pending := by
  have same := congrArg Bridge.pending akin.rest
  exact same

theorem versions (akin : Akin bridge other) : bridge.versions = other.versions := by
  have same := congrArg Bridge.versions akin.rest
  exact same

theorem serials (akin : Akin bridge other) : bridge.serials = other.serials := by
  have same := congrArg Bridge.serials akin.rest
  exact same

theorem locks (akin : Akin bridge other) : bridge.locks = other.locks := by
  have same := congrArg Bridge.locks akin.rest
  exact same

/-- Quiet effects make no difference. -/
theorem of_quiet {effects : List Effect}
    (rest : { bridge with
      channel := other.channel
      detector := other.detector
      totals := other.totals
      journal := other.journal } = other)
    (totals : { bridge.totals with sent := other.totals.sent } = other.totals)
    (grown : other.history = bridge.history ++ effects)
    (quiet : ∀ effect ∈ effects, effect.IsQuiet) : Akin bridge other where
  rest := rest
  totals := totals
  outcomes := by
    have none : effects.filterMap Effect.outcome? = [] :=
      List.filterMap_eq_nil_iff.mpr fun effect member => (quiet effect member).outcome
    rw [Bridge.outcomes, Bridge.outcomes, grown, List.filterMap_append, none, List.append_nil]
  primary := by
    have none : effects.filter (fun effect => effect.lock? = some .primary) = [] :=
      List.filter_eq_nil_iff.mpr fun effect member about =>
        (quiet effect member).lock (of_decide_eq_true about)
    rw [primaryEffects, primaryEffects, grown, List.filter_append, none, List.append_nil]

/-! ### The same step on both sides -/

/-- What leaves the history alone, and depends on nothing in which the two may differ. -/
theorem withPending (akin : Akin bridge other) (pending : PendingTable) :
    Akin { bridge with pending := pending } { other with pending := pending } where
  rest := congrArg (fun bridge : Bridge χ => { bridge with pending := pending }) akin.rest
  totals := akin.totals
  outcomes := akin.outcomes
  primary := akin.primary

theorem lowered (akin : Akin bridge other) (kind : RequestKind) (failed : Version) :
    Akin (bridge.lowered kind failed) (other.lowered kind failed) where
  rest := congrArg (fun bridge : Bridge χ => bridge.lowered kind failed) akin.rest
  totals := akin.totals
  outcomes := akin.outcomes
  primary := akin.primary

theorem emit (akin : Akin bridge other) (effects : List Effect) :
    Akin (bridge.emit effects) (other.emit effects) where
  rest := congrArg (fun bridge : Bridge χ => bridge.emit effects) akin.rest
  totals := akin.totals
  outcomes := by
    rw [Bridge.outcomes, Bridge.outcomes, history_emit, history_emit, List.filterMap_append,
      List.filterMap_append]
    exact congrArg (· ++ _) akin.outcomes
  primary := by
    rw [primaryEffects, primaryEffects, history_emit, history_emit, List.filter_append,
      List.filter_append]
    exact congrArg (· ++ _) akin.primary

theorem retrying (akin : Akin bridge other) (kind : RequestKind) (failed version : Version) :
    Akin (bridge.retrying kind failed version) (other.retrying kind failed version) := by
  have moved : Akin
      { bridge with
        versions := bridge.versions.lower kind failed
        serials := bridge.serials.take.2
        totals := { bridge.totals with fallbacks := bridge.totals.fallbacks + 1 } }
      { other with
        versions := other.versions.lower kind failed
        serials := other.serials.take.2
        totals := { other.totals with fallbacks := other.totals.fallbacks + 1 } } :=
    ⟨congrArg (fun bridge : Bridge χ => { bridge with
        versions := bridge.versions.lower kind failed
        serials := bridge.serials.take.2
        totals := { bridge.totals with fallbacks := bridge.totals.fallbacks + 1 } }) akin.rest,
      congrArg (fun totals : Totals => { totals with fallbacks := totals.fallbacks + 1 })
        akin.totals, akin.outcomes, akin.primary⟩
  exact moved.emit _

theorem schedule (akin : Akin bridge other) (timer : LockTimer) :
    Akin (bridge.schedule timer) (other.schedule timer) := by
  obtain ⟨lock, generation, deadline⟩ := timer
  cases lock with
  | primary =>
      exact ⟨congrArg (fun bridge : Bridge χ => { bridge with
        primaryTimer := some ⟨.primary, generation, deadline⟩ }) akin.rest, akin.totals,
        akin.outcomes, akin.primary⟩
  | ack =>
      exact ⟨congrArg (fun bridge : Bridge χ => { bridge with
        ackTimer := some ⟨.ack, generation, deadline⟩ }) akin.rest, akin.totals,
        akin.outcomes, akin.primary⟩

theorem acquireLock (akin : Akin bridge other) (now : Instant) :
    Akin (bridge.acquireLock now) (other.acquireLock now) := by
  cases dealt : bridge.locks.acquire now with
  | mk timer rest =>
      have same : other.locks.acquire now = (timer, rest) := akin.locks ▸ dealt
      have moved : Akin { bridge with locks := rest.1 } { other with locks := rest.1 } :=
        ⟨congrArg (fun bridge : Bridge χ => { bridge with locks := rest.1 }) akin.rest,
          akin.totals, akin.outcomes, akin.primary⟩
      cases timer with
      | none =>
          simp only [Bridge.acquireLock, dealt, same]
          exact moved.emit rest.2
      | some timer =>
          simp only [Bridge.acquireLock, dealt, same]
          exact (moved.emit rest.2).schedule timer

theorem releaseLock (akin : Akin bridge other) (now : Instant) :
    Akin (bridge.releaseLock now) (other.releaseLock now) := by
  unfold Bridge.releaseLock
  rw [← akin.locks]
  generalize bridge.locks.release now = dropped
  have moved : Akin
      { bridge with
        locks := dropped.1
        primaryTimer := if dropped.1.primary.isHeld then bridge.primaryTimer else none }
      { other with
        locks := dropped.1
        primaryTimer := if dropped.1.primary.isHeld then other.primaryTimer else none } :=
    ⟨congrArg (fun bridge : Bridge χ => { bridge with
        locks := dropped.1
        primaryTimer := if dropped.1.primary.isHeld then bridge.primaryTimer else none })
      akin.rest, akin.totals, akin.outcomes, akin.primary⟩
  exact moved.emit dropped.2

theorem recordOutcome (akin : Akin bridge other) (kind : RequestKind) (outcome : Outcome)
    (latency : Span) :
    Akin (bridge.recordOutcome kind outcome latency)
      (other.recordOutcome kind outcome latency) := by
  have moved : ∀ outcome : OutcomeClass,
      Akin { bridge with totals := bridge.totals.record outcome }
        { other with totals := other.totals.record outcome } := by
    intro outcome
    refine ⟨congrArg (fun bridge : Bridge χ => { bridge with
      totals := other.totals.record outcome }) akin.rest, ?_, akin.outcomes, akin.primary⟩
    have counted := congrArg (·.record outcome) akin.totals
    cases outcome <;> exact counted
  exact (moved outcome.outcomeClass).emit _

end Akin

/-! ## Small steps that make no difference -/

/-- A request is handed over. -/
def noted (bridge : Bridge χ) (attempt : Attempt) (reply : SendReply) (channel : χ) : Bridge χ :=
  { bridge with channel := channel }.emit [.handed attempt.outbound reply]

/-- A caller is told the outcome of an attempt. -/
def tell (bridge : Bridge χ) (attempt : Attempt) (outcome : Outcome) (now : Instant) : Bridge χ :=
  (bridge.recordOutcome attempt.kind outcome (attempt.latency now)).emit
    [.settled attempt.ticket outcome]

theorem akin_noted (bridge : Bridge χ) (attempt : Attempt) (reply : SendReply) (channel : χ) :
    Akin bridge (bridge.noted attempt reply channel) := by
  refine .of_quiet rfl rfl (history_of_journal rfl) fun effect member => ?_
  rw [List.mem_singleton.mp member]
  exact ⟨rfl, by simp [Effect.lock?]⟩

theorem handovers_noted (bridge : Bridge χ) (attempt : Attempt) (reply : SendReply) (channel : χ) :
    (bridge.noted attempt reply channel).handovers =
      bridge.handovers ++ [(attempt.outbound, reply)] := by
  rw [handovers, noted, history_emit, List.filterMap_append]
  rfl

theorem akin_awaiting (bridge : Bridge χ) (attempt : Attempt) (pending : PendingTable) :
    Akin { bridge with pending := pending } (bridge.awaiting attempt pending) := by
  refine .of_quiet rfl rfl (history_of_journal rfl) fun effect member => ?_
  rw [List.mem_singleton.mp member]
  exact ⟨rfl, by simp [Effect.lock?]⟩

theorem akin_withDetector (bridge : Bridge χ) (step : Option FaultStatus × FaultDetector) :
    Akin bridge (bridge.withDetector step) := by
  obtain ⟨change, detector⟩ := step
  cases change with
  | none => exact ⟨rfl, rfl, rfl, rfl⟩
  | some status =>
      refine .of_quiet rfl rfl (history_of_journal rfl) fun effect member => ?_
      simp only [List.mem_cons, List.mem_map] at member
      rcases member with rfl | ⟨listener, -, rfl⟩ <;> exact ⟨rfl, by simp [Effect.lock?]⟩

/-- Whether a caller is told before a reference is dropped or after it. -/
theorem akin_tell_releaseLock (bridge : Bridge χ) (attempt : Attempt) (outcome : Outcome)
    (now : Instant) :
    Akin ((bridge.tell attempt outcome now).releaseLock now)
      ((bridge.releaseLock now).tell attempt outcome now) := by
  obtain ⟨talk, told, silent⟩ : ∃ talk : List Effect,
      (∀ bridge : Bridge χ, (bridge.tell attempt outcome now).history = bridge.history ++ talk) ∧
        talk.filter (fun effect => effect.lock? = some .primary) = [] :=
    ⟨[.measured (.completed attempt.kind outcome.outcomeClass),
      .measured (.latency attempt.kind (attempt.latency now)), .settled attempt.ticket outcome],
      fun bridge => history_of_journal rfl, rfl⟩
  have dropped : ∀ bridge : Bridge χ, (bridge.releaseLock now).history =
      bridge.history ++ (bridge.locks.release now).2 := fun bridge => history_emit _ _
  have locks : (bridge.tell attempt outcome now).locks = bridge.locks := rfl
  refine ⟨?_, ?_, ?_, ?_⟩
  · simp only [tell, Bridge.recordOutcome, emit, Bridge.releaseLock]
    rfl
  · simp only [tell, Bridge.recordOutcome, emit, Bridge.releaseLock]
  · have before := (sameRequests_releaseLock (bridge.tell attempt outcome now) now).outcomes
    have after := (sameRequests_releaseLock bridge now).outcomes
    rw [before, outcomes, outcomes, told, told, List.filterMap_append, List.filterMap_append]
    exact congrArg (· ++ _) after.symm
  · simp only [primaryEffects, dropped, told, locks, List.filter_append, silent, List.append_nil]

theorem Akin.finish_holding {bridge other : Bridge χ} (akin : Akin bridge other)
    (attempt : Attempt) (outcome : Outcome) (now : Instant) :
    Akin (bridge.finish attempt.holding outcome now) (other.finish attempt.holding outcome now) :=
  ((akin.releaseLock now).recordOutcome _ _ _).emit _

/-- An attempt is finished under references that are dropped afterwards. -/
theorem akin_finish_deeper {bridge : Bridge χ} {depth : Nat} (has : bridge.HasDepth depth)
    (attempt : Attempt) (outcome : Outcome) (now : Instant) :
    Akin (((bridge.deeper depth).finish attempt.holding outcome now).releaseTimes depth now)
      (bridge.finish attempt.holding outcome now) := by
  cases depth with
  | zero =>
      rw [deeper_zero]
      exact .refl _
  | succ depth =>
      have told : (bridge.deeper (depth + 1)).finish attempt.holding outcome now =
          (bridge.tell attempt outcome now).deeper depth :=
        congrArg (·.tell attempt outcome now) (releaseLock_deeper has now)
      have has : (bridge.tell attempt outcome now).HasDepth depth :=
        (has.mono (Nat.le_succ depth)).of_locks rfl
      rw [told, releaseTimes_succ_deeper has]
      exact akin_tell_releaseLock bridge attempt outcome now

section

variable [Channel χ]

/-! ## A modem that answers -/

/-- The requests that were handed over since. -/
def framesSince (earlier later : Bridge χ) : List Outbound :=
  (later.handovers.drop earlier.handovers.length).map Prod.fst

/-- The modem does not know some kinds at some versions.  It answers the requests handed to it, one
after the other, and those that are handed to it in return, unless these are too many. -/
def answerRefused (refuses : RequestKind → Version → Bool) (payload : Payload) (now : Instant) :
    Nat → List Outbound → Bridge χ → Option (Bridge χ)
  | _, [], bridge => some bridge
  | 0, _ :: _, _ => none
  | requests + 1, first :: rest, bridge =>
    if refuses first.kind first.version then
      let after := bridge.onAnswer first.unknown payload now
      answerRefused refuses payload now requests (rest ++ bridge.framesSince after) after
    else answerRefused refuses payload now requests rest bridge

theorem answerRefused_mono {refuses : RequestKind → Version → Bool} {payload : Payload}
    {now : Instant} {few more : Nat} (enough : few ≤ more) {requests : List Outbound}
    {bridge after : Bridge χ}
    (answered : bridge.answerRefused refuses payload now few requests = some after) :
    bridge.answerRefused refuses payload now more requests = some after := by
  induction few generalizing more requests bridge with
  | zero =>
      cases requests with
      | nil => cases more <;> exact answered
      | cons first rest => cases answered
  | succ few ih =>
      cases requests with
      | nil => cases more <;> exact answered
      | cons first rest =>
          obtain ⟨more, rfl⟩ := Nat.exists_eq_add_one_of_ne_zero (Nat.ne_zero_of_lt enough)
          have fewer := Nat.le_of_succ_le_succ enough
          rw [answerRefused] at answered ⊢
          split at answered
          · rename_i refused
            rw [if_pos refused]
            exact ih fewer answered
          · rename_i accepted
            rw [if_neg accepted]
            exact ih fewer answered

/-! ## Refused at once, or answered -/

theorem Issue.length_le {bridge after : Bridge χ} {attempt : Attempt} {now : Instant}
    {trace : List (Attempt × SendReply)} (issued : Issue now bridge attempt trace after) :
    1 ≤ trace.length ∧ trace.length ≤ attempt.kind.ladder.rungsBelow attempt.version + 1 := by
  induction issued with
  | accepted | unavailable | exhausted => exact ⟨Nat.le_refl 1, Nat.le_add_left 1 _⟩
  | retried spoken inserted replied lower rest ih =>
      obtain ⟨rung, below⟩ := VersionTable.next_of_current spoken lower
      have fewer := Ladder.rungsBelow_lt below rung
      refine ⟨Nat.le_add_left 1 _, Nat.succ_le_succ (Nat.le_trans ih.2 ?_)⟩
      exact fewer

theorem fallBack_of_lowest {bridge : Bridge χ} (attempt : Attempt) {failed : Version}
    (lowest : bridge.versions.next attempt.kind failed = none) (now : Instant) :
    bridge.fallBack attempt failed now = (bridge.lowered attempt.kind failed).finish attempt
      (.failed (.unsupported attempt.kind)) now := by
  rw [fallBack, retreat_of_lowest lowest]

theorem fallBack_of_lower {bridge : Bridge χ} (attempt : Attempt) {failed version : Version}
    (lower : bridge.versions.next attempt.kind failed = some version) (now : Instant) :
    bridge.fallBack attempt failed now =
      ((bridge.retrying attempt.kind failed version).issue
        (attempt.reissue bridge.serials.take.1 version now) now).releaseIf attempt.holdsLock
          now := by
  rw [fallBack, retreat_of_lower lower]

/-- A channel that accepts everything lets a request wait. -/
theorem issue_of_accepting {bridge : Bridge χ} {attempt : Attempt} {pending : PendingTable}
    (accepting : Refuses bridge.channel fun _ _ => false)
    (spoken : bridge.versions.current attempt.kind = some attempt.version)
    (inserted : bridge.pending.insert? attempt.holding = some pending) (now : Instant) :
    bridge.issue attempt now =
      (((bridge.acquireLock now).noted attempt .accepted
        (Channel.send bridge.channel attempt.outbound).2).awaiting attempt pending) := by
  have replied : Channel.send bridge.channel attempt.outbound =
      (.accepted, (Channel.send bridge.channel attempt.outbound).2) :=
    Prod.ext (accepting.reply attempt.outbound) rfl
  exact issue_of_dealt (offer_of_inserted spoken inserted replied now)

/-- The modem answered that it does not know an attempt that waits. -/
def declined (bridge : Bridge χ) (attempt : Attempt) (now : Instant) : Bridge χ :=
  bridge.answered attempt.holding attempt.outbound.unknown now

theorem onAnswer_declined {bridge : Bridge χ} {earlier pending : PendingTable} {attempt : Attempt}
    (inserted : earlier.insert? attempt.holding = some pending) (waits : bridge.pending = pending)
    (payload : Payload) (now : Instant) :
    bridge.onAnswer attempt.outbound.unknown payload now =
      (bridge.declined attempt now).fallBack attempt.holding attempt.version now := by
  have member : attempt.holding ∈ bridge.pending.attempts := by
    rw [waits, PendingTable.attempts_insert? inserted]
    exact List.mem_cons_self
  have found : bridge.pending.find?
      attempt.outbound.unknown.serial = some attempt.holding := PendingTable.find?_of_mem member
  exact onAnswer_of_waiting found payload now

theorem channel_declined (bridge : Bridge χ) (attempt : Attempt) (now : Instant) :
    (bridge.declined attempt now).channel = bridge.channel := by
  have kept : ∀ (bridge : Bridge χ) step, (bridge.withDetector step).channel = bridge.channel := by
    rintro bridge ⟨change, detector⟩
    cases change <;> rfl
  exact kept { bridge with pending := bridge.pending.erase attempt.serial } _

/-- The attempt that waited is out of the table again. -/
theorem Akin.declined {once waiting : Bridge χ} {attempt : Attempt} {pending : PendingTable}
    (akin : Akin { once with pending := pending } waiting)
    (inserted : once.pending.insert? attempt.holding = some pending) (now : Instant) :
    Akin once (waiting.declined attempt now) := by
  have erased : waiting.pending.erase attempt.serial = once.pending := by
    have waits : pending = waiting.pending := akin.pending
    have taken := PendingTable.erase_of_insert? inserted
    exact waits ▸ taken
  have received : Akin { waiting with pending := waiting.pending.erase attempt.serial }
      (waiting.declined attempt now) :=
    akin_withDetector { waiting with pending := waiting.pending.erase attempt.serial } _
  rw [erased] at received
  exact (akin.withPending once.pending).trans received

omit [Channel χ] in
theorem framesSince_of_handovers {earlier later : Bridge χ} {more : List (Outbound × SendReply)}
    (grown : later.handovers = earlier.handovers ++ more) :
    earlier.framesSince later = more.map Prod.fst := by
  rw [framesSince, grown, List.drop_left]

section

variable {refuses : RequestKind → Version → Bool} {payload : Payload} {now : Instant}
  {bridge declined : Bridge χ} {attempt : Attempt}

theorem answerRefused_first (refused : refuses attempt.kind attempt.version)
    (course : bridge.onAnswer attempt.outbound.unknown payload now = declined) (requests : Nat) :
    bridge.answerRefused refuses payload now (requests + 1) [attempt.outbound] =
      declined.answerRefused refuses payload now requests (bridge.framesSince declined) := by
  rw [← course]
  exact if_pos refused

/-- The modem does not know the lowest version. -/
theorem answerRefused_lowest (refused : refuses attempt.kind attempt.version)
    (course : bridge.onAnswer attempt.outbound.unknown payload now =
      declined.fallBack attempt.holding attempt.version now)
    (handed : declined.handovers = bridge.handovers)
    (lowest : declined.versions.next attempt.kind attempt.version = none) :
    bridge.answerRefused refuses payload now 1 [attempt.outbound] =
      some ((declined.lowered attempt.kind attempt.version).finish attempt.holding
        (.failed (.unsupported attempt.kind)) now) := by
  have ends : declined.fallBack attempt.holding attempt.version now =
      (declined.lowered attempt.kind attempt.version).finish attempt.holding
        (.failed (.unsupported attempt.kind)) now :=
    fallBack_of_lowest attempt.holding lowest now
  rw [ends] at course
  have grown : ((declined.lowered attempt.kind attempt.version).finish attempt.holding
      (.failed (.unsupported attempt.kind)) now).handovers = bridge.handovers ++ [] := by
    rw [(settles_finish _ attempt.holding _ now).handovers, handovers_lowered, handed,
      List.append_nil]
  rw [answerRefused_first refused course, framesSince_of_handovers grown]
  rfl

/-- Over a channel that accepts everything a retry waits.  Its reference and the one of the attempt
before it cancel. -/
theorem fallBack_of_accepting {version : Version}
    (lower : declined.versions.next attempt.kind attempt.version = some version)
    (accepting : Refuses declined.channel fun _ _ => false) (has : declined.HasDepth 1)
    {next : Attempt} (reissued : next = attempt.reissue declined.serials.take.1 version now)
    {pending : PendingTable} (inserted : declined.pending.insert? next.holding = some pending) :
    declined.fallBack attempt.holding attempt.version now =
      ((declined.retrying attempt.kind attempt.version version).noted next .accepted
        (Channel.send declined.channel next.outbound).2).awaiting next pending := by
  subst reissued
  let retried := declined.retrying attempt.kind attempt.version version
  let next := attempt.reissue declined.serials.take.1 version now
  let sent := (retried.noted next .accepted
    (Channel.send declined.channel next.outbound).2).awaiting next pending
  have free : retried.HasDepth 1 := has.of_locks rfl
  have held : sent.HasDepth 1 := has.of_locks rfl
  have accepts : Refuses retried.channel fun _ _ => false := accepting
  have spoken : retried.versions.current next.kind = some next.version := current_retrying lower
  have acquired : retried.acquireLock now = retried.deeper 1 := by
    have nested := acquireLock_deeper (free.mono (Nat.zero_le 1)) now
    rwa [deeper_zero] at nested
  have waits : retried.issue next now = sent.deeper 1 := by
    rw [issue_of_accepting accepts spoken inserted now, acquired]
    rfl
  calc declined.fallBack attempt.holding attempt.version now
      = (retried.issue next now).releaseLock now := fallBack_of_lower attempt.holding lower now
    _ = (sent.deeper 1).releaseLock now := congrArg (·.releaseLock now) waits
    _ = sent := releaseTimes_deeper held now

/-- The modem does not know a version, and gets the request at a lower one. -/
theorem answerRefused_lower (refused : refuses attempt.kind attempt.version)
    (course : bridge.onAnswer attempt.outbound.unknown payload now =
      declined.fallBack attempt.holding attempt.version now)
    (handed : declined.handovers = bridge.handovers) {version : Version}
    (lower : declined.versions.next attempt.kind attempt.version = some version)
    (accepting : Refuses declined.channel fun _ _ => false) (has : declined.HasDepth 1)
    {next : Attempt} (reissued : next = attempt.reissue declined.serials.take.1 version now)
    {pending : PendingTable} (inserted : declined.pending.insert? next.holding = some pending)
    (requests : Nat) :
    bridge.answerRefused refuses payload now (requests + 1) [attempt.outbound] =
      (((declined.retrying attempt.kind attempt.version version).noted next .accepted
        (Channel.send declined.channel next.outbound).2).awaiting next pending).answerRefused
          refuses payload now requests [next.outbound] := by
  let retried := declined.retrying attempt.kind attempt.version version
  let sent := (retried.noted next .accepted
    (Channel.send declined.channel next.outbound).2).awaiting next pending
  have grown : sent.handovers = bridge.handovers ++ [(next.outbound, .accepted)] := by
    rw [← handed, ← handovers_retrying declined attempt.kind attempt.version version]
    exact (handovers_awaiting _ next pending).trans (handovers_noted retried next _ _)
  rw [fallBack_of_accepting lower accepting has reissued inserted] at course
  rw [answerRefused_first refused course, framesSince_of_handovers grown]
  rfl

end

/-- One rung of both courses.  On one side an attempt is about to be handed over, and its reference
comes on top of `depth` others that are dropped when it is done; `once` is the bridge with this
reference alone.  On the other side the attempt waits, and all else is as it is in `once`. -/
structure Stage (refuses : RequestKind → Version → Bool) (now : Instant) (attempt : Attempt)
    (pending : PendingTable) (depth rungs : Nat) (bridge once waiting : Bridge χ) : Prop where
  refusing : Refuses bridge.channel refuses
  accepting : Refuses waiting.channel fun _ _ => false
  nested : bridge.acquireLock now = once.deeper depth
  has : once.HasDepth (depth + rungs)
  inserted : bridge.pending.insert? attempt.holding = some pending
  akin : Akin { once with pending := pending } waiting

namespace Stage

variable {refuses : RequestKind → Version → Bool} {now : Instant} {attempt : Attempt}
  {pending : PendingTable} {depth rungs : Nat} {bridge once waiting : Bridge χ}

theorem sameRequests (stage : Stage refuses now attempt pending depth rungs bridge once waiting) :
    SameRequests bridge once := by
  have taken := sameRequests_acquireLock bridge now
  rw [stage.nested] at taken
  exact ⟨taken.maxAge, taken.serials, taken.pending, taken.versions, taken.running,
    taken.collision, taken.history⟩

theorem handOver (stage : Stage refuses now attempt pending depth rungs bridge once waiting)
    (reply : SendReply) (channel : χ) :
    bridge.handOver attempt reply channel now = (once.noted attempt reply channel).deeper depth :=
  congrArg (·.noted attempt reply channel) stage.nested

theorem declined (stage : Stage refuses now attempt pending depth rungs bridge once waiting) :
    Akin once (waiting.declined attempt now) :=
  stage.akin.declined (stage.sameRequests.pending ▸ stage.inserted) now

theorem onAnswer (stage : Stage refuses now attempt pending depth rungs bridge once waiting)
    (payload : Payload) :
    waiting.onAnswer attempt.outbound.unknown payload now =
      (waiting.declined attempt now).fallBack attempt.holding attempt.version now :=
  onAnswer_declined stage.inserted stage.akin.pending.symm payload now

/-- Both sides wait. -/
theorem accepted (stage : Stage refuses now attempt pending depth rungs bridge once waiting)
    (channel : χ) :
    Akin (((bridge.handOver attempt .accepted channel now).awaiting attempt pending).releaseTimes
      depth now) waiting := by
  have ended : (bridge.handOver attempt .accepted channel now).awaiting attempt pending =
      ((once.noted attempt .accepted channel).awaiting attempt pending).deeper depth :=
    congrArg (·.awaiting attempt pending) (stage.handOver .accepted channel)
  have free : ((once.noted attempt .accepted channel).awaiting attempt pending).HasDepth depth :=
    (stage.has.mono (Nat.le_add_right depth rungs)).of_locks rfl
  rw [ended, releaseTimes_deeper free]
  have noted := (akin_noted once attempt .accepted channel).withPending pending
  exact (noted.trans (akin_awaiting _ attempt pending)).symm.trans stage.akin

/-- Both sides fail. -/
theorem exhausted (stage : Stage refuses now attempt pending depth rungs bridge once waiting)
    (refused : refuses attempt.kind attempt.version)
    (lowest : bridge.versions.next attempt.kind attempt.version = none) (channel : χ)
    (payload : Payload) :
    ∃ final, waiting.answerRefused refuses payload now 1 [attempt.outbound] = some final ∧
      Akin ((((bridge.handOver attempt .versionRefused channel now).lowered attempt.kind
        attempt.version).finish attempt.holding (.failed (.unsupported attempt.kind))
          now).releaseTimes depth now) final := by
  have noted := akin_noted once attempt .versionRefused channel
  have down := (noted.symm.trans stage.declined).lowered attempt.kind attempt.version
  have below : (bridge.handOver attempt .versionRefused channel now).lowered attempt.kind
      attempt.version = ((once.noted attempt .versionRefused channel).lowered attempt.kind
        attempt.version).deeper depth :=
    congrArg (·.lowered attempt.kind attempt.version) (stage.handOver .versionRefused channel)
  have free : ((once.noted attempt .versionRefused channel).lowered attempt.kind
      attempt.version).HasDepth depth :=
    (stage.has.mono (Nat.le_add_right depth rungs)).of_locks rfl
  rw [← stage.sameRequests.versions, stage.declined.versions] at lowest
  refine ⟨_, answerRefused_lowest refused (stage.onAnswer payload)
    (handovers_answered waiting attempt.holding _ now) lowest, ?_⟩
  rw [below]
  exact (akin_finish_deeper free attempt _ now).trans (down.finish_holding attempt _ now)

/-- Both sides are one rung lower. -/
theorem retried (stage : Stage refuses now attempt pending depth (rungs + 1) bridge once waiting)
    (refused : refuses attempt.kind attempt.version) {channel : χ}
    (onward : Refuses channel refuses) {version : Version}
    (lower : bridge.versions.next attempt.kind attempt.version = some version)
    {others : PendingTable}
    (inserted : ((bridge.handOver attempt .versionRefused channel now).retrying attempt.kind
      attempt.version version).pending.insert?
        (attempt.reissue bridge.serials.take.1 version now).holding = some others)
    (payload : Payload) :
    ∃ onceMore again, Stage refuses now (attempt.reissue bridge.serials.take.1 version now) others
        (depth + 1) rungs ((bridge.handOver attempt .versionRefused channel now).retrying
          attempt.kind attempt.version version) onceMore again ∧
      waiting.answerRefused refuses payload now (rungs + 1) [attempt.outbound] =
        again.answerRefused refuses payload now rungs
          [(attempt.reissue bridge.serials.take.1 version now).outbound] := by
  generalize reissued : attempt.reissue bridge.serials.take.1 version now = next at inserted ⊢
  let declined := waiting.declined attempt now
  let onceMore := (once.noted attempt .versionRefused channel).retrying attempt.kind
    attempt.version version
  let again := ((declined.retrying attempt.kind attempt.version version).noted next .accepted
    (Channel.send declined.channel next.outbound).2).awaiting next others
  have accepts : Refuses declined.channel fun _ _ => false :=
    channel_declined waiting attempt now ▸ stage.accepting
  -- The reference of the retry is one of those that there is room for.
  have has : once.HasDepth (depth + 1 + rungs) := by
    rw [Nat.add_assoc, Nat.add_comm 1]
    exact stage.has
  have below : (bridge.handOver attempt .versionRefused channel now).retrying attempt.kind
      attempt.version version = onceMore.deeper depth :=
    congrArg (·.retrying attempt.kind attempt.version version)
      (stage.handOver .versionRefused channel)
  have akin : Akin onceMore (declined.retrying attempt.kind attempt.version version) :=
    ((akin_noted once attempt .versionRefused channel).symm.trans stage.declined).retrying _ _ _
  refine ⟨onceMore, again, ⟨onward, accepts.after _, ?_, has.of_locks rfl, inserted, ?_⟩, ?_⟩
  · have fits : onceMore.HasDepth depth :=
      (has.mono (Nat.le_trans (Nat.le_succ depth) (Nat.le_add_right _ rungs))).of_locks rfl
    rw [below]
    exact acquireLock_deeper fits now
  · have sent := akin.trans (akin_noted _ next .accepted
      (Channel.send declined.channel next.outbound).2)
    exact (sent.withPending others).trans (akin_awaiting _ next others)
  · have single : declined.HasDepth 1 :=
      (has.mono (Nat.le_trans (Nat.le_add_left 1 depth) (Nat.le_add_right _ rungs))).of_locks
        stage.declined.locks.symm
    have waits : declined.pending.insert? next.holding = some others := by
      rw [← stage.declined.pending, stage.sameRequests.pending,
        ← pending_handOver bridge attempt .versionRefused channel now]
      exact inserted
    rw [← stage.sameRequests.versions, stage.declined.versions] at lower
    rw [← stage.sameRequests.serials, stage.declined.serials] at reissued
    exact answerRefused_lower refused (stage.onAnswer payload)
      (handovers_answered waiting attempt.holding _ now) lower accepts single reissued.symm waits
        rungs

end Stage

/-- A request goes down its ladder inside `issue`, or with the answers of the modem. -/
theorem Issue.akin_answered {refuses : RequestKind → Version → Bool} {now : Instant}
    {bridge after : Bridge χ} {attempt : Attempt} {trace : List (Attempt × SendReply)}
    (issued : Issue now bridge attempt trace after) {pending : PendingTable} {depth : Nat}
    {once waiting : Bridge χ}
    (stage : Stage refuses now attempt pending depth trace.length bridge once waiting)
    (payload : Payload) :
    ∃ final, waiting.answerRefused refuses payload now trace.length [attempt.outbound] =
        some final ∧
      Akin (after.releaseTimes depth now) final := by
  induction issued generalizing pending depth once waiting with
  | @accepted bridge attempt others channel spoken put replied =>
      have known := stage.refusing.of_accepted replied
      cases put.symm.trans stage.inserted
      refine ⟨waiting, ?_, stage.accepted channel⟩
      rw [List.length_singleton, answerRefused, if_neg known, answerRefused]
  | @unavailable bridge attempt others channel reason spoken put replied =>
      -- The channel either refuses the version or accepts.
      have reply := stage.refusing.reply attempt.outbound
      rw [replied] at reply
      split at reply <;> cases reply
  | @exhausted bridge attempt others channel spoken put replied lowest =>
      exact stage.exhausted (stage.refusing.of_versionRefused replied) lowest channel payload
  | @retried bridge after attempt others channel version trace spoken put replied lower rest ih =>
      have onward : Refuses channel refuses := by
        have after := stage.refusing.after attempt.outbound
        rwa [replied] at after
      obtain ⟨-, others, inserted⟩ := rest.exists_insert
      obtain ⟨onceMore, again, next, answered⟩ := stage.retried
        (stage.refusing.of_versionRefused replied) onward lower inserted payload
      obtain ⟨final, ends, same⟩ := ih next
      exact ⟨final, answered.trans ends, same⟩

/-- The highest rung: on one side a request is about to be issued, on the other it was. -/
theorem Akin.stage {refuses : RequestKind → Version → Bool} {left right : Bridge χ}
    (akin : Akin left right) (refusal : Refuses left.channel refuses)
    (acceptance : Refuses right.channel fun _ _ => false) {attempt : Attempt}
    {pending : PendingTable} (inserted : left.pending.insert? attempt.holding = some pending)
    (spoken : left.versions.current attempt.kind = some attempt.version) {rungs : Nat}
    (room : left.locks.primary.count.toNat + 1 + rungs < UInt32.size) (now : Instant) :
    Stage refuses now attempt pending 0 rungs left (left.acquireLock now)
        (right.issue attempt now) ∧
      right.framesSince (right.issue attempt now) = [attempt.outbound] := by
  let sent := (right.acquireLock now).noted attempt .accepted
    (Channel.send right.channel attempt.outbound).2
  have waits : right.issue attempt now = sent.awaiting attempt pending :=
    issue_of_accepting acceptance (akin.versions ▸ spoken) (akin.pending ▸ inserted) now
  have handed : (sent.awaiting attempt pending).handovers =
      right.handovers ++ [(attempt.outbound, .accepted)] := by
    rw [← (sameRequests_acquireLock right now).handovers]
    exact (handovers_awaiting _ attempt pending).trans (handovers_noted _ attempt _ _)
  have noted : Akin (left.acquireLock now) sent :=
    (akin.acquireLock now).trans (akin_noted _ attempt .accepted _)
  rw [waits]
  refine ⟨⟨refusal, acceptance.after attempt.outbound, (deeper_zero _).symm, ?_, inserted, ?_⟩, ?_⟩
  · rw [Nat.zero_add]
    exact hasDepth_acquireLock room now
  · exact (noted.withPending pending).trans (akin_awaiting sent attempt pending)
  · exact framesSince_of_handovers handed

/-- A request is submitted to two bridges that are akin, where one channel refuses versions, and
the modem behind the other does not know them. -/
theorem Akin.submit {refuses : RequestKind → Version → Bool} {left right : Bridge χ}
    (akin : Akin left right) (refusal : Refuses left.channel refuses)
    (acceptance : Refuses right.channel fun _ _ => false) {submission : Submission} {now : Instant}
    (sound : (left.submit submission now).collision = none)
    (room : left.locks.primary.count.toNat + RequestKind.maxRungs + 2 < UInt32.size)
    (payload : Payload) :
    ∃ answered, (right.submit submission now).answerRefused refuses payload now
        (RequestKind.maxRungs + 1) (right.framesSince (right.submit submission now)) =
          some answered ∧
      Akin (left.submit submission now) answered := by
  cases spoken : left.versions.current submission.kind with
  | none =>
      have unspoken : right.versions.current submission.kind = none := akin.versions ▸ spoken
      have quiet : (right.submit submission now).handovers = right.handovers ++ [] := by
        rw [(settles_submit_of_unspoken unspoken now).handovers, List.append_nil]
      refine ⟨right.submit submission now, ?_, ?_⟩
      · rw [framesSince_of_handovers quiet]
        rfl
      · rw [submit_of_unspoken spoken, submit_of_unspoken unspoken]
        exact (akin.recordOutcome submission.kind _ 0).emit _
  | some version =>
      let attempt := Attempt.ofSubmission submission version now
      obtain ⟨trace, issued⟩ := submit_of_spoken spoken sound
      obtain ⟨-, pending, inserted⟩ := issued.exists_insert
      have course : right.submit submission now = right.issue attempt now := by
        have spokenToo : right.versions.current submission.kind = some version :=
          akin.versions ▸ spoken
        simp only [Bridge.submit, spokenToo]
        rfl
      have short : trace.length ≤ RequestKind.maxRungs + 1 := by
        have rungs := Nat.le_trans (attempt.kind.ladder.rungsBelow_le_length attempt.version)
          attempt.kind.length_rungs_le
        exact Nat.le_trans issued.length_le.2 (Nat.succ_le_succ rungs)
      have deep : left.locks.primary.count.toNat + 1 + trace.length < UInt32.size := by omega
      obtain ⟨stage, frames⟩ := akin.stage refusal acceptance inserted spoken deep now
      obtain ⟨answered, ends, same⟩ := issued.akin_answered stage payload
      refine ⟨answered, ?_, same⟩
      rw [course, frames]
      exact answerRefused_mono short ends

/-- One submission over two channels, one that refuses versions and one that accepts everything and
has a modem behind it which answers, in the same instant, that it does not know them.  The modem is
done after as many answers as there can be rungs, and then the two bridges are akin.  References are
counted in 32 bits, and those of the refused attempts need room at once. -/
theorem refusal_as_answer (bridge : Bridge χ) (submission : Submission) (now : Instant)
    (refuses : RequestKind → Version → Bool) (payload : Payload) (refusing accepting : χ)
    (refusal : Refuses refusing refuses) (acceptance : Refuses accepting fun _ _ => false)
    (sound : ({ bridge with channel := refusing }.submit submission now).collision = none)
    (room : bridge.locks.primary.count.toNat + RequestKind.maxRungs + 2 < UInt32.size) :
    let refused := { bridge with channel := refusing }.submit submission now
    let waiting := { bridge with channel := accepting }.submit submission now
    ∃ answered, waiting.answerRefused refuses payload now (RequestKind.maxRungs + 1)
        ({ bridge with channel := accepting }.framesSince waiting) = some answered ∧
      Akin refused answered := by
  intro refused waiting
  have start : Akin { bridge with channel := refusing } { bridge with channel := accepting } :=
    ⟨rfl, rfl, rfl, rfl⟩
  exact start.submit refusal acceptance sound room payload

/-- While another request waits, a channel refuses the two highest versions of one.  The modem that
answers so instead leaves the same attempts waiting, two references, and nothing more done about the
lock. -/
theorem refusal_as_answer_down_two_rungs :
    let bridge := (new {} (.start 3) ({} : RecordingChannel)).run
      [.event (.submit ⟨⟨1⟩, .sendSms, .empty, .unknown, 0, 0⟩) 0]
    let submission : Submission := ⟨⟨2⟩, .getSignalStrength, .empty, .unknown, 0, 1⟩
    let pairs := [(.getSignalStrength, ⟨1, 6⟩), (.getSignalStrength, ⟨1, 4⟩)]
    let refuses : RequestKind → Version → Bool := fun kind version => pairs.contains (kind, version)
    let accepting : RecordingChannel := {}
    let waiting := { bridge with channel := accepting }.submit submission 5
    ∃ answered, waiting.answerRefused refuses .empty 5 6
        ({ bridge with channel := accepting }.framesSince waiting) = some answered ∧
      answered.pending.attempts.map (fun attempt => (attempt.serial, attempt.version)) =
        [(⟨4⟩, ⟨1, 2⟩), (⟨1⟩, ⟨1, 6⟩)] ∧
      answered.locks.primary.count = 2 ∧ answered.totals.fallbacks = 2 ∧
      answered.primaryEffects = bridge.primaryEffects := by
  intro bridge submission pairs refuses accepting waiting
  obtain ⟨answered, ends, akin⟩ := refusal_as_answer bridge submission 5 refuses .empty
    { refused := pairs } accepting (RecordingChannel.refuses_refused rfl)
    (@RecordingChannel.refuses_refused accepting rfl) (by decide +kernel) (by decide +kernel)
  refine ⟨answered, ends, ?_, ?_, ?_, ?_⟩
  · rw [← akin.pending]
    decide +kernel
  · rw [← akin.locks]
    decide +kernel
  · have counted := congrArg Totals.fallbacks akin.totals
    simp only at counted
    rw [← counted]
    decide +kernel
  · rw [← akin.primary]
    decide +kernel

end

end Bridge

end ModemLink
