/-
Module: ModemLink.Proofs.Negotiation
Purpose: Requests find the version their modem speaks, whatever the order of its answers.
Main exports: Session, Exchange, Negotiating, negotiating_exchange, negotiation_converges
-/
import Mathlib.Data.List.Perm.Basic
import ModemLink.Proofs.Run
import ModemLink.Proofs.Verdict

namespace ModemLink

/-!
Several requests of a kind can be on their way at different versions, and the refusal of a high one
can come after the kind was lowered.  What holds throughout is that no kind is below the version to
be found, and that each request sent and not answered belongs to one attempt in the table.
-/

open VersionTable (Allows)

/-- A bridge and its modem: what the modem has not answered, and what callers handed in. -/
structure Session (χ : Type) where
  bridge : Bridge χ
  unanswered : List Outbound
  submitted : List Submission

/-- Nothing is handed in yet. -/
def Session.start {χ : Type} (config : BridgeConfig) (serials : SerialSource) (channel : χ) :
    Session χ :=
  ⟨.new config serials channel, [], []⟩

/-- From one state to another the bridge sends these requests, and the channel takes them all. -/
def Bridge.Sends {χ : Type} (before after : Bridge χ) (requests : List Outbound) : Prop :=
  after.handovers = before.handovers ++ requests.map fun request => (request, .accepted)

instance {χ : Type} (before after : Bridge χ) (requests : List Outbound) :
    Decidable (before.Sends after requests) :=
  inferInstanceAs (Decidable (_ = _))

/-- Calls that neither hand in a request nor answer or end one. -/
def Call.IsAside {χ : Type} (bridge : Bridge χ) : Call χ → Prop
  | .timers now =>
    ∀ attempt ∈ bridge.pending.attempts, PendingTable.isExpired now bridge.maxAge attempt = false
  | .event (.requestAck _) _ | .event (.indication _) _ | .event .channelRestarted _
  | .event (.listenIndications _) _ | .event (.listenStatus _) _ => True
  | .event (.submit _) _ | .event (.answer _ _) _ | .event .channelLost _
  | .event .shutdown _ => False
  | .batch _ _ => False
  | .sampled | .serialTaken | .channelChanged _ | .indicationListenerLost _
  | .statusListenerLost _ => True

/-- One step of a bridge and a modem of a profile.  Which of the unanswered requests is answered
next, and when, is open; one that the modem ignores stays among them. -/
inductive Exchange {χ : Type} [Channel χ] (profile : ModemProfile) :
    Session χ → Session χ → Prop where
  /-- A request is handed in. -/
  | submitted {session : Session χ} {after : Bridge χ} (submission : Submission) (now : Instant)
      (requests : List Outbound)
      (course : after = session.bridge.handle now (.submit submission))
      (sends : session.bridge.Sends after requests) :
      Exchange profile session
        ⟨after, session.unanswered ++ requests, session.submitted ++ [submission]⟩
  /-- The modem answers a request as its profile says, and with success it echoes the payload. -/
  | answered {session : Session χ} {after : Bridge χ} (request : Outbound) (header : AnswerHeader)
      (payload : Payload) (now : Instant) (requests : List Outbound)
      (waits : request ∈ session.unanswered)
      (reaction : profile.react request.kind request.version = .respond header.code)
      (addressed : header.serial = request.serial)
      (echo : header.code.isSuccess = true → payload = request.payload)
      (course : after = session.bridge.handle now (.answer header payload))
      (sends : session.bridge.Sends after requests) :
      Exchange profile session
        ⟨after, session.unanswered.erase request ++ requests, session.submitted⟩
  /-- Something else happens. -/
  | aside {session : Session χ} {after : Bridge χ} (call : Call χ) (requests : List Outbound)
      (spares : call.IsAside session.bridge)
      (course : after = session.bridge.call call)
      (sends : session.bridge.Sends after requests) :
      Exchange profile session ⟨after, session.unanswered ++ requests, session.submitted⟩

/-! ## The table of versions -/

namespace VersionTable

/-- Each kind is spoken at a rung that the cap allows, and at or above its target. -/
structure Within (profile : ModemProfile) (cap : Option Version) (table : VersionTable) :
    Prop where
  rung : ∀ kind version, table.current kind = some version →
    version ∈ kind.ladder.rungs ∧ Allows cap version
  floor : ∀ kind target, profile.target cap kind = some target →
    ∃ version, table.current kind = some version ∧ target ≤ version

theorem within_new (profile : ModemProfile) (cap : Option Version) :
    Within profile cap (.new cap) where
  rung kind version spoken := by
    rw [current_new] at spoken
    exact initial_eq_some spoken
  floor kind target found := by
    obtain ⟨member, allowed, -⟩ := ModemProfile.target_eq_some found
    rw [current_new]
    exact initial_of_rung member allowed

/-- The refusal of a version that the modem does not speak lowers no kind below its target. -/
theorem Within.lower {profile : ModemProfile} {cap : Option Version} {table : VersionTable}
    (within : Within profile cap table) {kind : RequestKind} {failed : Version}
    (above : profile.maxVersionFor kind < failed) :
    Within profile cap (table.lower kind failed) where
  rung other version spoken := by
    rw [current_lower] at spoken
    by_cases same : other = kind
    · subst same
      rw [if_pos rfl] at spoken
      exact next_allowed (within.rung other) spoken
    · rw [if_neg same] at spoken
      exact within.rung other version spoken
  floor other target found := by
    rw [current_lower]
    by_cases same : other = kind
    · subst same
      obtain ⟨current, spoken, bound⟩ := within.floor other target found
      obtain ⟨member, -, known⟩ := ModemProfile.target_eq_some found
      have lower : target < failed := Nat.lt_of_le_of_lt known above
      rw [if_pos rfl]
      exact next_of_rung member lower spoken bound
    · rw [if_neg same]
      exact within.floor other target found

/-- A kind that falls to no version has no target. -/
theorem Within.target_of_lowest {profile : ModemProfile} {cap : Option Version}
    {table : VersionTable} (within : Within profile cap table) {kind : RequestKind}
    {failed : Version} (above : profile.maxVersionFor kind < failed)
    (lowest : table.next kind failed = none) : profile.target cap kind = none := by
  cases found : profile.target cap kind with
  | none => rfl
  | some target =>
      obtain ⟨version, spoken, -⟩ := (within.lower above).floor kind target found
      rw [current_lower, if_pos rfl, lowest] at spoken
      cases spoken

end VersionTable

open VersionTable (Within)

/-- A request sent at a rung that the cap allows, of a kind that the modem does not refuse at all
versions. -/
structure Outbound.Offered (profile : ModemProfile) (cap : Option Version) (request : Outbound) :
    Prop where
  rung : request.version ∈ request.kind.ladder.rungs
  allowed : Allows cap request.version
  honest : profile.errors.get request.kind ≠ some .requestNotSupported

namespace ModemProfile

/-- The caller of a submission and what it should hear. -/
def promised (profile : ModemProfile) (cap : Option Version) (submission : Submission) :
    Ticket × Option Outcome :=
  (submission.ticket, profile.verdict cap submission.kind submission.payload)

/-- The caller of an attempt and what it should hear. -/
def expected (profile : ModemProfile) (cap : Option Version) (attempt : Attempt) :
    Ticket × Option Outcome :=
  (attempt.ticket, profile.verdict cap attempt.kind attempt.payload)

theorem expected_of_same {attempt other : Attempt} (same : attempt.SameRequest other)
    (profile : ModemProfile) (cap : Option Version) :
    profile.expected cap other = profile.expected cap attempt := by
  rw [expected, expected, same.ticket, same.kind, same.payload]

end ModemProfile

namespace Bridge

variable {χ : Type}

/-- The callers that were told an outcome, with it. -/
def told (bridge : Bridge χ) : List (Ticket × Option Outcome) :=
  bridge.outcomes.map fun told => (told.1, some told.2)

theorem told_of_outcomes {before after : Bridge χ} {settled : List (Ticket × Outcome)}
    (outcomes : after.outcomes = before.outcomes ++ settled) :
    after.told = before.told ++ settled.map fun told => (told.1, some told.2) := by
  rw [told, outcomes, List.map_append]
  rfl

/-- Where nothing is handed over, nothing is sent. -/
theorem Sends.eq_nil {before after : Bridge χ} {requests : List Outbound}
    (sends : before.Sends after requests) (same : after.handovers = before.handovers) :
    requests = [] := by
  unfold Sends at sends
  rw [same] at sends
  exact List.map_eq_nil_iff.mp (List.append_right_eq_self.mp sends.symm)

/-! ## Steps that leave requests alone -/

/-- A step that changes at most the marks of attempts. -/
structure Alike (before after : Bridge χ) : Prop where
  versions : after.versions = before.versions
  pending : after.pending.bare = before.pending.bare
  outcomes : after.outcomes = before.outcomes
  handovers : after.handovers = before.handovers

theorem SameRequests.alike {before after : Bridge χ} (same : SameRequests before after) :
    Alike before after :=
  ⟨same.versions, congrArg PendingTable.bare same.pending, same.outcomes, same.handovers⟩

theorem alike_fireDueTimers {bridge : Bridge χ} {now : Instant}
    (young : ∀ attempt ∈ bridge.pending.attempts,
      PendingTable.isExpired now bridge.maxAge attempt = false) :
    Alike bridge (bridge.fireDueTimers now) := by
  obtain ⟨pending, bare, same⟩ := sameRequests_fireLockTimers bridge now
  have stillYoung : ∀ attempt ∈ pending.attempts,
      PendingTable.isExpired now bridge.maxAge attempt = false := by
    intro attempt waits
    obtain ⟨marked, member, alike⟩ := PendingTable.mem_of_bare bare waits
    have blind : PendingTable.isExpired now bridge.maxAge marked.bare =
        PendingTable.isExpired now bridge.maxAge attempt.bare := by rw [alike]
    exact blind.symm.trans (young marked member)
  have settles := settles_ageOut ((bridge.firePrimaryTimer now).fireAckTimer now) now
  have age : ((bridge.firePrimaryTimer now).fireAckTimer now).maxAge = bridge.maxAge := same.maxAge
  have table : ((bridge.firePrimaryTimer now).fireAckTimer now).pending = pending := same.pending
  rw [age, table, PendingTable.ageOut_of_young stillYoung] at settles
  constructor
  · exact settles.versions.trans same.versions
  · exact (congrArg PendingTable.bare settles.pending).trans bare
  · exact (settles.outcomes.trans (List.append_nil _)).trans same.outcomes
  · exact settles.handovers.trans same.handovers

theorem alike_of_aside [Channel χ] {bridge : Bridge χ} {call : Call χ}
    (spares : call.IsAside bridge) (sound : bridge.collision = none) :
    Alike bridge (bridge.call call) := by
  cases call with
  | batch events now => exact absurd spares id
  | timers now => exact alike_fireDueTimers spares
  | event event now =>
      have reacts : bridge.call (.event event now) = bridge.react now event :=
        handle_of_sound sound now event
      rw [reacts]
      cases event with
      | submit | answer | channelLost | shutdown => exact absurd spares id
      | requestAck serial => exact ⟨rfl, bridge.pending.bare_acknowledge serial, rfl, rfl⟩
      | indication indication => exact (sameRequests_onIndication bridge indication now).alike
      | channelRestarted => exact (sameRequests_withDetector bridge bridge.detector.reset).alike
      | listenIndications listener | listenStatus listener => exact ⟨rfl, rfl, rfl, rfl⟩
  | sampled => exact (sameRequests_measure bridge _).alike
  | serialTaken | channelChanged | indicationListenerLost | statusListenerLost =>
      exact ⟨rfl, rfl, rfl, rfl⟩

/-! ## Steps that carry a request on -/

/-- A request that is issued, and that the channel takes, waits in the table and is sent once. -/
theorem Issue.of_sends [Channel χ] {bridge after : Bridge χ} {attempt : Attempt} {now : Instant}
    {trace : List (Attempt × SendReply)} {requests : List Outbound}
    (issued : Issue now bridge attempt trace after) (sends : bridge.Sends after requests) :
    requests = [attempt.outbound] ∧ bridge.pending.insert? attempt.holding = some after.pending ∧
      after.versions = bridge.versions ∧ after.outcomes = bridge.outcomes := by
  have handed : (requests.map fun request => (request, SendReply.accepted)) =
      trace.map fun handed => (handed.1.outbound, handed.2) := by
    unfold Sends at sends
    rw [issued.ends.handovers] at sends
    exact (List.append_cancel_left sends).symm
  have taken : ∀ handed ∈ trace, handed.2 = .accepted := by
    intro handed member
    have there : (handed.1.outbound, handed.2) ∈
        requests.map fun request => (request, SendReply.accepted) := by
      rw [‹(requests.map _) = _›]
      exact List.mem_map.mpr ⟨handed, member, rfl⟩
    obtain ⟨request, -, same⟩ := List.mem_map.mp there
    exact (congrArg Prod.snd same).symm
  cases issued with
  | @accepted _ _ pending channel spoken inserted replied =>
      obtain ⟨request, rfl, same⟩ := List.map_eq_singleton_iff.mp handed
      refine ⟨congrArg (fun handed => [handed.1]) same, inserted, ?_, ?_⟩
      · exact versions_handOver bridge attempt .accepted channel now
      · rw [outcomes_awaiting, outcomes_handOver]
  | unavailable => cases taken _ List.mem_cons_self
  | exhausted => cases taken _ List.mem_cons_self
  | retried => cases taken _ List.mem_cons_self

/-- What an exchange maintains, with some attempts in hand that are neither in the table nor told:
the kinds are at or above their targets, each request without an answer belongs to one attempt in
the table, and those told, together with those that wait, are all that was handed in. -/
structure Negotiating (profile : ModemProfile) (cap : Option Version) (session : Session χ)
    (hand : List Attempt) : Prop where
  within : Within profile cap session.bridge.versions
  offered : ∀ request ∈ session.unanswered, request.Offered profile cap
  sent : session.unanswered.Perm (session.bridge.pending.attempts.map Attempt.outbound)
  balance : (session.bridge.told ++
      (hand ++ session.bridge.pending.attempts).map (profile.expected cap)).Perm
    (session.submitted.map (profile.promised cap))

theorem negotiating_start (profile : ModemProfile) (config : BridgeConfig) (serials : SerialSource)
    (channel : χ) :
    Negotiating profile config.versionCap (.start config serials channel) [] where
  within := VersionTable.within_new profile config.versionCap
  offered _ waits := absurd waits List.not_mem_nil
  sent := .refl _
  balance := .refl _

namespace Negotiating

variable {profile : ModemProfile} {cap : Option Version} {bridge after : Bridge χ}
  {unanswered requests : List Outbound} {submitted : List Submission} {attempt : Attempt}

theorem of_alike {hand : List Attempt}
    (state : Negotiating profile cap ⟨bridge, unanswered, submitted⟩ hand)
    (alike : Alike bridge after) (sends : bridge.Sends after requests) :
    Negotiating profile cap ⟨after, unanswered ++ requests, submitted⟩ hand := by
  have outbounds : after.pending.attempts.map Attempt.outbound =
      bridge.pending.attempts.map Attempt.outbound :=
    PendingTable.map_attempts_of_bare (fun _ => rfl) alike.pending
  have callers : after.pending.attempts.map (profile.expected cap) =
      bridge.pending.attempts.map (profile.expected cap) :=
    PendingTable.map_attempts_of_bare (fun _ => rfl) alike.pending
  rw [sends.eq_nil alike.handovers, List.append_nil]
  constructor
  · exact alike.versions.symm ▸ state.within
  · exact state.offered
  · rw [outbounds]
    exact state.sent
  · rw [List.map_append, callers, told, alike.outcomes, ← List.map_append]
    exact state.balance

/-- A request that is handed in is in hand. -/
theorem handedIn (state : Negotiating profile cap ⟨bridge, unanswered, submitted⟩ [])
    (submission : Submission) (version : Version) (now : Instant) :
    Negotiating profile cap ⟨bridge, unanswered, submitted ++ [submission]⟩
      [.ofSubmission submission version now] := by
  refine ⟨state.within, state.offered, state.sent, ?_⟩
  rw [List.map_append, List.map_append]
  exact List.perm_middle.trans ((state.balance.cons _).trans (List.perm_append_singleton _ _).symm)

/-- An attempt that is answered is taken in hand. -/
theorem takenOut (state : Negotiating profile cap ⟨bridge, unanswered, submitted⟩ [])
    (waits : bridge.pending.find? attempt.serial = some attempt) :
    Negotiating profile cap
      ⟨{ bridge with pending := bridge.pending.erase attempt.serial },
        unanswered.erase attempt.outbound, submitted⟩ [attempt] := by
  have parts := PendingTable.perm_erase waits
  constructor
  · exact state.within
  · intro request waiting
    exact state.offered request (List.mem_of_mem_erase waiting)
  · have erased := (state.sent.trans (parts.map Attempt.outbound)).erase attempt.outbound
    rw [List.map_cons, List.erase_cons_head] at erased
    exact erased
  · exact ((parts.map (profile.expected cap)).symm.append_left bridge.told).trans state.balance

/-- A request in hand that is told its verdict. -/
theorem settled (state : Negotiating profile cap ⟨bridge, unanswered, submitted⟩ [attempt])
    {outcome : Outcome} (settles : Settles bridge after [(attempt.ticket, outcome)])
    (due : profile.verdict cap attempt.kind attempt.payload = some outcome)
    (sends : bridge.Sends after requests) :
    Negotiating profile cap ⟨after, unanswered ++ requests, submitted⟩ [] := by
  rw [sends.eq_nil settles.handovers, List.append_nil]
  constructor
  · exact settles.versions.symm ▸ state.within
  · exact state.offered
  · rw [settles.pending]
    exact state.sent
  · rw [told_of_outcomes settles.outcomes, settles.pending, List.append_assoc]
    have same : profile.expected cap attempt = (attempt.ticket, some outcome) := by
      rw [ModemProfile.expected, due]
    have balance := state.balance
    rw [List.map_append, List.map_singleton, same] at balance
    exact balance

/-- An attempt in hand is sent, and waits. -/
theorem issued [Channel χ]
    (state : Negotiating profile cap ⟨bridge, unanswered, submitted⟩ [attempt])
    (offered : attempt.outbound.Offered profile cap) {now : Instant}
    {trace : List (Attempt × SendReply)} (course : Issue now bridge attempt trace after)
    (sends : bridge.Sends after requests) :
    Negotiating profile cap ⟨after, unanswered ++ requests, submitted⟩ [] := by
  obtain ⟨rfl, inserted, versions, outcomes⟩ := course.of_sends sends
  have added := PendingTable.attempts_insert? inserted
  constructor
  · exact versions.symm ▸ state.within
  · intro request waits
    rcases List.mem_append.mp waits with earlier | new
    · exact state.offered request earlier
    · rw [List.mem_singleton.mp new]
      exact offered
  · rw [added]
    exact (List.perm_append_singleton _ _).trans (state.sent.cons _)
  · rw [added, told, outcomes]
    exact state.balance

/-- The version of an attempt in hand is refused and lowered, and the request gets a new attempt. -/
theorem lowered (state : Negotiating profile cap ⟨bridge, unanswered, submitted⟩ [attempt])
    {retry : Attempt} (same : attempt.SameRequest retry) {failed : Version}
    (above : profile.maxVersionFor attempt.kind < failed) (version : Version) :
    Negotiating profile cap ⟨bridge.retrying attempt.kind failed version, unanswered, submitted⟩
      [retry] := by
  have outcomes := outcomes_retrying bridge attempt.kind failed version
  constructor
  · exact state.within.lower above
  · exact state.offered
  · exact state.sent
  · have balance := state.balance
    rw [List.map_append, List.map_singleton] at balance ⊢
    rw [ModemProfile.expected_of_same same, told, outcomes]
    exact balance

end Negotiating

/-! ## Events -/

section

variable [Channel χ] {profile : ModemProfile} {cap : Option Version} {bridge : Bridge χ}
  {unanswered requests : List Outbound} {submitted : List Submission}

theorem negotiating_submit (state : Negotiating profile cap ⟨bridge, unanswered, submitted⟩ [])
    {submission : Submission} {now : Instant}
    (honest : profile.errors.get submission.kind ≠ some .requestNotSupported)
    (sound : (bridge.submit submission now).collision = none)
    (sends : bridge.Sends (bridge.submit submission now) requests) :
    Negotiating profile cap
      ⟨bridge.submit submission now, unanswered ++ requests, submitted ++ [submission]⟩ [] := by
  cases spoken : bridge.versions.current submission.kind with
  | none =>
      have beyond : profile.target cap submission.kind = none := by
        cases found : profile.target cap submission.kind with
        | none => rfl
        | some target =>
            obtain ⟨version, speaks, -⟩ := state.within.floor submission.kind target found
            rw [spoken] at speaks
            cases speaks
      have due := ModemProfile.verdict_of_no_target beyond submission.payload
      have settles := settles_submit_of_unspoken spoken now
      exact (state.handedIn submission ⟨0, 0⟩ now).settled settles due sends
  | some version =>
      obtain ⟨trace, course⟩ := submit_of_spoken spoken sound
      obtain ⟨rung, allowed⟩ := state.within.rung submission.kind version spoken
      exact (state.handedIn submission version now).issued ⟨rung, allowed, honest⟩ course sends

/-- The refusal of a version that the modem does not speak. -/
theorem negotiating_fallBack {attempt : Attempt} {now : Instant}
    (state : Negotiating profile cap ⟨bridge, unanswered, submitted⟩ [attempt])
    (honest : profile.errors.get attempt.kind ≠ some .requestNotSupported)
    (above : profile.maxVersionFor attempt.kind < attempt.version)
    (sound : (bridge.fallBack attempt attempt.version now).collision = none)
    (sends : bridge.Sends (bridge.fallBack attempt attempt.version now) requests) :
    Negotiating profile cap
      ⟨bridge.fallBack attempt attempt.version now, unanswered ++ requests, submitted⟩ [] := by
  rcases fallBack_cases sound with ⟨lowest, course⟩ | ⟨version, trace, after, lower, issued, course⟩
  · rw [course] at sends ⊢
    have beyond := state.within.target_of_lowest above lowest
    have due := ModemProfile.verdict_of_no_target beyond attempt.payload
    have fallen : Negotiating profile cap
        ⟨bridge.lowered attempt.kind attempt.version, unanswered, submitted⟩ [attempt] :=
      ⟨state.within.lower above, state.offered, state.sent, state.balance⟩
    exact fallen.settled (settles_finish _ attempt _ now) due sends
  · rw [course] at sends ⊢
    have released := sameRequests_releaseIf after attempt.holdsLock now
    have sent : (bridge.retrying attempt.kind attempt.version version).Sends after requests := by
      unfold Sends at sends ⊢
      rw [handovers_retrying, ← released.handovers]
      exact sends
    obtain ⟨rung, allowed⟩ := (state.within.lower above).rung attempt.kind version
      (current_retrying lower)
    have again := state.lowered (attempt.sameRequest_reissue bridge.serials.take.1 version now)
      above version
    have waits := again.issued ⟨rung, allowed, honest⟩ issued sent
    have nothing : after.Sends (after.releaseIf attempt.holdsLock now) [] := by
      unfold Sends
      rw [released.handovers, List.map_nil, List.append_nil]
    have kept := waits.of_alike released.alike nothing
    rw [List.append_nil] at kept
    exact kept

/-- The modem answers as its profile says. -/
theorem negotiating_onAnswer (valid : profile.validate = .ok ())
    (state : Negotiating profile cap ⟨bridge, unanswered, submitted⟩ []) {request : Outbound}
    {header : AnswerHeader} {payload : Payload} {now : Instant} (waits : request ∈ unanswered)
    (reaction : profile.react request.kind request.version = .respond header.code)
    (addressed : header.serial = request.serial)
    (echo : header.code.isSuccess = true → payload = request.payload)
    (sound : (bridge.onAnswer header payload now).collision = none)
    (sends : bridge.Sends (bridge.onAnswer header payload now) requests) :
    Negotiating profile cap
      ⟨bridge.onAnswer header payload now, unanswered.erase request ++ requests, submitted⟩ [] := by
  obtain ⟨rung, allowed, honest⟩ := state.offered request waits
  obtain ⟨attempt, member, rfl⟩ := List.mem_map.mp (state.sent.mem_iff.mp waits)
  have found : bridge.pending.find? header.serial = some attempt := by
    rw [addressed]
    exact PendingTable.find?_of_mem member
  have own : header.serial = attempt.serial := addressed
  have same := sameRequests_answered bridge attempt header now
  have nothing : { bridge with pending := bridge.pending.erase header.serial }.Sends
      (bridge.answered attempt header now) [] := by
    unfold Sends
    rw [same.handovers, List.map_nil, List.append_nil]
  have taken := state.takenOut (own ▸ found)
  rw [← own] at taken
  have inHand := taken.of_alike same.alike nothing
  rw [List.append_nil] at inHand
  have sent : (bridge.answered attempt header now).Sends (bridge.onAnswer header payload now)
      requests := by
    unfold Sends at sends ⊢
    rw [handovers_answered]
    exact sends
  rw [onAnswer_of_waiting found] at sound sent ⊢
  by_cases refused : header.code.isNotSupported = true
  · rw [if_pos refused] at sound sent ⊢
    have above := ModemProfile.above_of_refused honest reaction refused
    exact negotiating_fallBack inHand honest above sound sent
  · have due := ModemProfile.verdict_of_answer valid rung allowed reaction
      (Bool.eq_false_iff.mpr refused) attempt.payload
    rw [if_neg refused] at sent ⊢
    by_cases success : header.code.isSuccess = true
    · rw [if_pos success] at due sent ⊢
      rw [echo success] at sent ⊢
      exact inHand.settled (settles_finish _ attempt _ now) due sent
    · rw [if_neg success] at due sent ⊢
      exact inHand.settled (settles_finish _ attempt _ now) due sent

end

end Bridge

/-! ## Exchanges -/

section

variable {χ : Type} [Channel χ] {profile : ModemProfile} {session later : Session χ}

theorem collision_of_exchange (step : Exchange profile session later)
    (sound : later.bridge.collision = none) : session.bridge.collision = none := by
  cases step with
  | submitted submission now requests course sends =>
      subst course
      exact Bridge.collision_of_handle sound
  | answered request header payload now requests waits reaction addressed echo course sends =>
      subst course
      exact Bridge.collision_of_handle sound
  | aside call requests spares course sends =>
      subst course
      exact Bridge.collision_of_call sound

theorem submitted_of_exchange (step : Exchange profile session later) {submission : Submission}
    (member : submission ∈ session.submitted) : submission ∈ later.submitted := by
  cases step with
  | submitted => exact List.mem_append_left _ member
  | answered => exact member
  | aside => exact member

/-- One step of an exchange. -/
theorem negotiating_exchange {cap : Option Version} (valid : profile.validate = .ok ())
    (state : Bridge.Negotiating profile cap session []) (step : Exchange profile session later)
    (honest : ∀ submission ∈ later.submitted,
      profile.errors.get submission.kind ≠ some .requestNotSupported)
    (sound : later.bridge.collision = none) : Bridge.Negotiating profile cap later [] := by
  have before := collision_of_exchange step sound
  cases step with
  | submitted submission now requests course sends =>
      rw [Bridge.handle_of_sound before] at course
      subst course
      have asked := honest submission (List.mem_append_right _ List.mem_cons_self)
      exact Bridge.negotiating_submit state asked sound sends
  | answered request header payload now requests waits reaction addressed echo course sends =>
      rw [Bridge.handle_of_sound before] at course
      subst course
      exact Bridge.negotiating_onAnswer valid state waits reaction addressed echo sound sends
  | aside call requests spares course sends =>
      subst course
      exact state.of_alike (Bridge.alike_of_aside spares before) sends

/-- All steps of an exchange. -/
theorem negotiating_reached {config : BridgeConfig} {serials : SerialSource} {channel : χ}
    (valid : profile.validate = .ok ())
    (reached : Relation.ReflTransGen (Exchange profile) (.start config serials channel) session)
    (honest : ∀ submission ∈ session.submitted,
      profile.errors.get submission.kind ≠ some .requestNotSupported)
    (sound : session.bridge.collision = none) :
    Bridge.Negotiating profile config.versionCap session [] := by
  induction reached with
  | refl => exact Bridge.negotiating_start profile config serials channel
  | tail earlier step ih =>
      have state := ih
        (fun submission member => honest submission (submitted_of_exchange step member))
        (collision_of_exchange step sound)
      exact negotiating_exchange valid state step honest sound

/-- With any modem whose profile makes sense, whatever the cap, the order of the answers and the
requests handed in between, as long as no serials collide: a kind with a target is spoken at or
above it; each caller that was told heard the verdict on its own request, and heard it once; and
when the modem will answer no more, all that are to be told are, and the requests that wait are
those it ignores. -/
theorem negotiation_converges (config : BridgeConfig) (serials : SerialSource) (channel : χ)
    (profile : ModemProfile) (session : Session χ) (valid : profile.validate = .ok ())
    (reached : Relation.ReflTransGen (Exchange profile) (.start config serials channel) session)
    (honest : ∀ submission ∈ session.submitted,
      profile.errors.get submission.kind ≠ some .requestNotSupported)
    (sound : session.bridge.collision = none) :
    (∀ kind target, profile.target config.versionCap kind = some target →
      ∃ version, session.bridge.versions.current kind = some version ∧ target ≤ version) ∧
    session.bridge.told.Subperm (session.submitted.map (profile.promised config.versionCap)) ∧
    ((∀ request ∈ session.unanswered,
        profile.react request.kind request.version = .ignore) →
      (session.bridge.told ++
        session.bridge.pending.attempts.map fun attempt : Attempt => (attempt.ticket, none)).Perm
        (session.submitted.map (profile.promised config.versionCap))) := by
  have state := negotiating_reached valid reached honest sound
  refine ⟨state.within.floor, ?_, ?_⟩
  · exact (List.sublist_append_left _ _).subperm.trans state.balance.subperm
  · intro quiet
    have waiting : session.bridge.pending.attempts.map (profile.expected config.versionCap) =
        session.bridge.pending.attempts.map fun attempt : Attempt => (attempt.ticket, none) := by
      apply List.map_congr_left
      intro attempt waits
      have sent : attempt.outbound ∈ session.unanswered :=
        state.sent.mem_iff.mpr (List.mem_map.mpr ⟨attempt, waits, rfl⟩)
      obtain ⟨rung, allowed, -⟩ := state.offered attempt.outbound sent
      have ignored := quiet attempt.outbound sent
      have ever := ModemProfile.verdict_of_ignored rung allowed ignored attempt.payload
      rw [ModemProfile.expected]
      exact congrArg (Prod.mk attempt.ticket) ever
    rw [← waiting]
    exact state.balance

/-- Two requests are sent at 1.6 to a modem that speaks 1.5, where their kind has no rung.  The
second is refused when the first is already answered at 1.4. -/
theorem negotiation_converges_past_late_refusal :
    let first : Submission := ⟨⟨1⟩, .getSignalStrength, .empty, .unknown, 0, 0⟩
    let second : Submission := ⟨⟨2⟩, .getSignalStrength, .empty, .unknown, 0, 1⟩
    let answer (serial : Serial) (code : AnswerCode) : Call RecordingChannel :=
      .event (.answer (.plain serial .getSignalStrength code) .empty) 1
    let bridge : Bridge RecordingChannel := (Bridge.new {} (.start 3) {}).run
      [.event (.submit first) 0, .event (.submit second) 0, answer ⟨1⟩ .requestNotSupported,
        answer ⟨3⟩ .success, answer ⟨2⟩ .requestNotSupported, answer ⟨4⟩ .success]
    (∃ version, bridge.versions.current .getSignalStrength = some version ∧ ⟨1, 4⟩ ≤ version) ∧
      bridge.told.Perm [(0, some (.ok .empty)), (1, some (.ok .empty))] := by
  intro first second answer bridge
  let profile : ModemProfile := { maxVersion := ⟨1, 5⟩ }
  let sent (serial : Serial) (version : Version) : Outbound :=
    ⟨serial, .getSignalStrength, version, .empty, .unknown⟩
  have one : Exchange profile (.start {} (.start 3) ({} : RecordingChannel)) _ :=
    .submitted first 0 [sent ⟨1⟩ ⟨1, 6⟩] rfl (by decide +kernel)
  have two := (Relation.ReflTransGen.single one).tail
    (.submitted second 0 [sent ⟨2⟩ ⟨1, 6⟩] rfl (by decide +kernel))
  have three := two.tail
    (.answered (sent ⟨1⟩ ⟨1, 6⟩) (.plain ⟨1⟩ .getSignalStrength .requestNotSupported) .empty 1
      [sent ⟨3⟩ ⟨1, 4⟩] (by decide +kernel) (by decide +kernel) rfl (fun _ => rfl) rfl
      (by decide +kernel))
  have four := three.tail
    (.answered (sent ⟨3⟩ ⟨1, 4⟩) (.plain ⟨3⟩ .getSignalStrength .success) .empty 1
      [] (by decide +kernel) (by decide +kernel) rfl (fun _ => rfl) rfl (by decide +kernel))
  have five := four.tail
    (.answered (sent ⟨2⟩ ⟨1, 6⟩) (.plain ⟨2⟩ .getSignalStrength .requestNotSupported) .empty 1
      [sent ⟨4⟩ ⟨1, 4⟩] (by decide +kernel) (by decide +kernel) rfl (fun _ => rfl) rfl
      (by decide +kernel))
  have six := five.tail
    (.answered (sent ⟨4⟩ ⟨1, 4⟩) (.plain ⟨4⟩ .getSignalStrength .success) .empty 1
      [] (by decide +kernel) (by decide +kernel) rfl (fun _ => rfl) rfl (by decide +kernel))
  have valid : profile.validate = .ok () := if_pos (by decide +kernel)
  have converges := negotiation_converges {} (.start 3) ({} : RecordingChannel) profile _ valid six
    (by decide +kernel) (by decide +kernel)
  constructor
  · exact converges.1 .getSignalStrength ⟨1, 4⟩ (by decide +kernel)
  · have ended : (bridge.told ++
        bridge.pending.attempts.map fun attempt : Attempt => (attempt.ticket, none)).Perm
        ([first, second].map (profile.promised none)) := converges.2.2 (by decide +kernel)
    have empty : bridge.pending.attempts = [] := by decide +kernel
    have due : [first, second].map (profile.promised none) =
        [(0, some (.ok .empty)), (1, some (.ok .empty))] := by decide +kernel
    rw [empty, List.map_nil, List.append_nil, due] at ended
    exact ended

end

end ModemLink
