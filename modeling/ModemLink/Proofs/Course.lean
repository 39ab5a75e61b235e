/-
Module: ModemLink.Proofs.Course
Purpose: What a call does to requests, leg by leg, also where serials collide.
Main exports:
  Hand, Handed, Leg, Course, Begins, issued, handedBy, trace, course_issue, course_call, Kept,
  Kept.run, handovers_run
-/
import ModemLink.Proofs.Run

namespace ModemLink

/-!
A call first takes at most one attempt in hand: that of a request handed in, or one whose version
the modem refused.  Then it goes on in legs, each of which does one thing to the attempt in hand, to
the table or to the versions, until the hand is empty.  A property that every leg keeps holds after
every run, and nothing has to be said about retries or collisions again.

`trace` has what the channel is handed in a run together with the attempts for which it is handed.
-/

/-- What a bridge has in hand, besides the attempts in its table. -/
inductive Hand where
  | empty
  /-- An attempt that is to be handed to the channel next. -/
  | upcoming (attempt : Attempt)
  /-- An attempt whose version was refused, by the channel or by the modem. -/
  | refused (attempt : Attempt)

/-- A frame that the channel was handed, with the attempt for which it was. -/
structure Handed where
  attempt : Attempt
  request : Outbound
  reply : SendReply
deriving DecidableEq

/-- The frame and the reply. -/
def Handed.frame (handed : Handed) : Outbound × SendReply :=
  (handed.request, handed.reply)

/-- What is handed over for an attempt that gets this reply. -/
def Attempt.handed (attempt : Attempt) (reply : SendReply) : Handed :=
  ⟨attempt, attempt.outbound, reply⟩

namespace Bridge

variable {χ : Type}

/-- One leg: what is in hand, or in the table, goes one step on.  The list has what is handed to the
channel. -/
inductive Leg : Bridge χ → Hand → List Handed → Bridge χ → Hand → Prop where
  /-- Outcomes are told, and things are done that do not concern requests. -/
  | settled {before after : Bridge χ} {hand : Hand} {told : List (Ticket × Outcome)}
      (settles : Settles before after told) : Leg before hand [] after hand
  /-- Marks of attempts in the table change. -/
  | marked {before : Bridge χ} {hand : Hand} {pending : PendingTable}
      (bare : pending.bare = before.pending.bare) :
      Leg before hand [] { before with pending := pending } hand
  /-- Attempts leave the table. -/
  | removed (before : Bridge χ) (hand : Hand) (keep : Attempt → Bool) :
      Leg before hand [] { before with pending := before.pending.filter keep } hand
  | stopped (before : Bridge χ) (hand : Hand) :
      Leg before hand [] { before with running := false } hand
  /-- A caller takes a serial. -/
  | serialTaken (before : Bridge χ) :
      Leg before .empty [] { before with serials := before.serials.take.2 } .empty
  /-- The attempt in hand finds its serial taken. -/
  | collided {before : Bridge χ} {attempt : Attempt} (now : Instant)
      (taken : before.pending.insert? attempt.holding = none) :
      Leg before (.upcoming attempt) []
        { before.acquireLock now with collision := some attempt.holding } .empty
  /-- The attempt in hand is on its way. -/
  | accepted {before : Bridge χ} {attempt : Attempt} {pending : PendingTable} (channel : χ)
      (now : Instant) (spoken : before.versions.current attempt.kind = some attempt.version)
      (inserted : before.pending.insert? attempt.holding = some pending) :
      Leg before (.upcoming attempt) [attempt.handed .accepted]
        ((before.handOver attempt .accepted channel now).awaiting attempt pending) .empty
  /-- The attempt in hand cannot be handed over. -/
  | unavailable {before : Bridge χ} {attempt : Attempt} (reason : String) (channel : χ)
      (now : Instant) (spoken : before.versions.current attempt.kind = some attempt.version)
      (free : attempt.serial ∉ before.pending.attempts.map Attempt.serial) :
      Leg before (.upcoming attempt) [attempt.handed (.unavailable reason)]
        (before.handOver attempt (.unavailable reason) channel now) .empty
  /-- The channel refuses the version of the attempt in hand. -/
  | refused {before : Bridge χ} {attempt : Attempt} (channel : χ) (now : Instant)
      (spoken : before.versions.current attempt.kind = some attempt.version)
      (free : attempt.serial ∉ before.pending.attempts.map Attempt.serial) :
      Leg before (.upcoming attempt) [attempt.handed .versionRefused]
        (before.handOver attempt .versionRefused channel now) (.refused attempt.holding)
  /-- A refused attempt is followed by one at a lower version. -/
  | retried {before : Bridge χ} {attempt : Attempt} {version : Version} (now : Instant)
      (lower : before.versions.next attempt.kind attempt.version = some version) :
      Leg before (.refused attempt) [] (before.retrying attempt.kind attempt.version version)
        (.upcoming (attempt.reissue before.serials.take.1 version now))
  /-- No version is left after a refused attempt. -/
  | exhausted {before : Bridge χ} {attempt : Attempt}
      (lowest : before.versions.next attempt.kind attempt.version = none) :
      Leg before (.refused attempt) [] (before.lowered attempt.kind attempt.version) .empty

/-- Some legs, one after the other. -/
inductive Course : Bridge χ → Hand → List Handed → Bridge χ → Hand → Prop where
  | done (bridge : Bridge χ) (hand : Hand) : Course bridge hand [] bridge hand
  | step {before middle after : Bridge χ} {hand held last : Hand} {handed more : List Handed}
      (leg : Leg before hand handed middle held) (rest : Course middle held more after last) :
      Course before hand (handed ++ more) after last

/-- What a call takes in hand before its first leg. -/
inductive Begins (before : Bridge χ) : Call χ → Bridge χ → Hand → Prop where
  | bare (call : Call χ) : Begins before call before .empty
  /-- A request is handed in whose kind is spoken. -/
  | submitted {submission : Submission} {version : Version} {now : Instant}
      (sound : before.collision = none)
      (spoken : before.versions.current submission.kind = some version) :
      Begins before (.event (.submit submission) now) before
        (.upcoming (.ofSubmission submission version now))
  /-- The modem does not know the version of an attempt that waits. -/
  | answered {header : AnswerHeader} {payload : Payload} {attempt : Attempt} {now : Instant}
      (sound : before.collision = none)
      (waiting : before.pending.find? header.serial = some attempt)
      (unknown : header.code = .requestNotSupported) :
      Begins before (.event (.answer header payload) now)
        { before with pending := before.pending.erase header.serial } (.refused attempt)

namespace Course

theorem single {before after : Bridge χ} {hand held : Hand} {handed : List Handed}
    (leg : Leg before hand handed after held) : Course before hand handed after held := by
  have course := Course.step leg (.done after held)
  rwa [List.append_nil] at course

theorem trans {first middle last : Bridge χ} {hand held left : Hand} {old new : List Handed}
    (earlier : Course first hand old middle held) (later : Course middle held new last left) :
    Course first hand (old ++ new) last left := by
  induction earlier with
  | done => exact later
  | step leg rest ih =>
      rw [List.append_assoc]
      exact .step leg (ih later)

/-- A leg after which nothing more is handed over. -/
theorem andThen {before middle after : Bridge χ} {hand held last : Hand} {handed : List Handed}
    (course : Course before hand handed middle held) (leg : Leg middle held [] after last) :
    Course before hand handed after last := by
  have whole := course.trans (single leg)
  rwa [List.append_nil] at whole

theorem of_same {before after : Bridge χ} (same : SameRequests before after) (hand : Hand) :
    Course before hand [] after hand :=
  single (.settled same.settles)

end Course

/-! ## What a leg can do -/

namespace Leg

variable {before after : Bridge χ} {hand held : Hand} {handed : List Handed}

theorem handovers (leg : Leg before hand handed after held) :
    after.handovers = before.handovers ++ handed.map Handed.frame := by
  cases leg with
  | settled settles => exact settles.handovers.trans (List.append_nil _).symm
  | marked | removed | stopped | serialTaken => exact (List.append_nil _).symm
  | collided now taken =>
      exact (sameRequests_acquireLock before now).handovers.trans (List.append_nil _).symm
  | accepted channel now spoken inserted =>
      exact (handovers_awaiting _ _ _).trans (handovers_handOver before _ .accepted channel now)
  | unavailable reason channel now => exact handovers_handOver before _ _ channel now
  | refused channel now => exact handovers_handOver before _ _ channel now
  | retried now lower => exact (handovers_retrying _ _ _ _).trans (List.append_nil _).symm
  | exhausted lowest => exact (handovers_lowered _ _ _).trans (List.append_nil _).symm

/-- A leg leaves the versions alone, or lowers the kind of a refused attempt. -/
theorem versions_cases (leg : Leg before hand handed after held) :
    after.versions = before.versions ∨
      ∃ attempt, hand = .refused attempt ∧
        after.versions = before.versions.lower attempt.kind attempt.version := by
  cases leg with
  | settled settles => exact Or.inl settles.versions
  | marked | removed | stopped | serialTaken => exact Or.inl rfl
  | collided now taken => exact Or.inl (versions_acquireLock before now)
  | @accepted attempt pending channel now =>
      exact Or.inl (versions_handOver before attempt .accepted channel now)
  | unavailable reason channel now => exact Or.inl (versions_handOver before _ _ channel now)
  | refused channel now => exact Or.inl (versions_handOver before _ _ channel now)
  | @retried attempt => exact Or.inr ⟨attempt, rfl, rfl⟩
  | @exhausted attempt => exact Or.inr ⟨attempt, rfl, rfl⟩

/-- A leg hands nothing over, or the attempt in hand: at the version of its kind, and under a serial
that nothing waits under. -/
theorem handed_cases (leg : Leg before hand handed after held) :
    handed = [] ∨
      ∃ attempt reply, hand = .upcoming attempt ∧ handed = [attempt.handed reply] ∧
        before.versions.current attempt.kind = some attempt.version ∧
        attempt.serial ∉ before.pending.attempts.map Attempt.serial := by
  cases leg with
  | settled | marked | removed | stopped | serialTaken | collided | retried | exhausted =>
      exact Or.inl rfl
  | @accepted attempt pending channel now spoken inserted =>
      have free := PendingTable.serial_not_mem_of_insert? inserted
      exact Or.inr ⟨attempt, _, rfl, rfl, spoken, free⟩
  | @unavailable attempt reason channel now spoken free =>
      exact Or.inr ⟨attempt, _, rfl, rfl, spoken, free⟩
  | @refused attempt channel now spoken free =>
      exact Or.inr ⟨attempt, _, rfl, rfl, spoken, free⟩

/-- What waits after a leg waited before it, marks apart, or was accepted in it. -/
theorem waiting_cases (leg : Leg before hand handed after held) {waiting : Attempt}
    (member : waiting ∈ after.pending.attempts) :
    (∃ earlier ∈ before.pending.attempts, earlier.bare = waiting.bare) ∨
      ∃ attempt, hand = .upcoming attempt ∧ handed = [attempt.handed .accepted] ∧
        waiting = attempt.holding := by
  have stays : after.pending = before.pending →
      ∃ earlier ∈ before.pending.attempts, earlier.bare = waiting.bare :=
    fun same => ⟨waiting, same ▸ member, rfl⟩
  cases leg with
  | settled settles => exact Or.inl (stays settles.pending)
  | marked bare => exact Or.inl (PendingTable.mem_of_bare bare member)
  | removed => exact Or.inl ⟨waiting, (List.mem_filter.mp member).1, rfl⟩
  | stopped | serialTaken | exhausted | retried => exact Or.inl (stays rfl)
  | collided now => exact Or.inl (stays (sameRequests_acquireLock before now).pending)
  | unavailable reason channel now =>
      exact Or.inl (stays (pending_handOver before _ _ channel now))
  | refused channel now => exact Or.inl (stays (pending_handOver before _ _ channel now))
  | @accepted attempt pending channel now spoken inserted =>
      have put : waiting ∈ pending.attempts := member
      rw [PendingTable.attempts_insert? inserted] at put
      rcases List.mem_cons.mp put with rfl | earlier
      · exact Or.inr ⟨attempt, rfl, rfl, rfl⟩
      · exact Or.inl ⟨waiting, earlier, rfl⟩

/-- A refused attempt was refused before the leg, or by the channel in it. -/
theorem refused_cases (leg : Leg before hand handed after held) {attempt : Attempt}
    (refused : held = .refused attempt) :
    hand = .refused attempt ∨
      ∃ first : Attempt, attempt = first.holding ∧ handed = [first.handed .versionRefused] := by
  cases leg with
  | settled | marked | removed | stopped => exact Or.inl refused
  | serialTaken | collided | accepted | unavailable | retried | exhausted => cases refused
  | @refused first =>
      cases refused
      exact Or.inr ⟨first, rfl, rfl⟩

end Leg

/-! ## Requests -/

section

variable [Channel χ]

/-- What the channel is handed while an attempt is offered to it. -/
def offered (bridge : Bridge χ) (attempt : Attempt) (now : Instant) : List Handed :=
  ((bridge.offer attempt now).2.handovers.drop bridge.handovers.length).map
    fun frame => ⟨attempt, frame.1, frame.2⟩

/-- What the channel is handed while an attempt is issued, retries included. -/
def issued (bridge : Bridge χ) (attempt : Attempt) (now : Instant) : List Handed :=
  match _offered : bridge.offer attempt now with
  | (none, _) => bridge.offered attempt now
  | (some (refused, version), after) =>
    match _retreated : after.retreat refused version now with
    | (none, _) => bridge.offered attempt now
    | (some next, after) => bridge.offered attempt now ++ after.issued next now
termination_by bridge.versions.height attempt.kind
decreasing_by
  obtain ⟨hRefused, hCurrent, hOffer⟩ := versions_of_offer_eq_some _offered
  obtain ⟨hKind, hRetreat⟩ := versions_of_retreat_eq_some _retreated
  rw [hKind, hRetreat, hOffer, hRefused]
  exact VersionTable.height_lower_lt hCurrent

theorem offered_of_handovers {bridge : Bridge χ} {attempt : Attempt} {now : Instant}
    {frames : List (Outbound × SendReply)}
    (handed : (bridge.offer attempt now).2.handovers = bridge.handovers ++ frames) :
    bridge.offered attempt now = frames.map fun frame => ⟨attempt, frame.1, frame.2⟩ := by
  rw [offered, handed, List.drop_left]

theorem issued_of_dealt {bridge after : Bridge χ} {attempt : Attempt} {now : Instant}
    (dealt : bridge.offer attempt now = (none, after)) :
    bridge.issued attempt now = bridge.offered attempt now := by
  rw [issued]
  split
  · rfl
  · rename_i refusal
    rw [dealt] at refusal
    simp at refusal

theorem issued_of_refused {bridge middle : Bridge χ} {attempt refused : Attempt}
    {version : Version} {now : Instant}
    (refusal : bridge.offer attempt now = (some (refused, version), middle)) :
    bridge.issued attempt now = bridge.offered attempt now ++
      match middle.retreat refused version now with
      | (none, _) => []
      | (some next, after) => after.issued next now := by
  rw [issued]
  split
  · rename_i dealt
    rw [refusal] at dealt
    simp at dealt
  · rename_i again
    rw [refusal] at again
    cases again
    split
    · rename_i retreated
      rw [retreated, List.append_nil]
    · rename_i retreated
      rw [retreated]

/-- An attempt that is dealt with when it is offered: its serial was taken, the channel accepted it,
or the channel could not be reached. -/
theorem course_of_dealt {bridge after : Bridge χ} {attempt : Attempt} {now : Instant}
    (spoken : bridge.versions.current attempt.kind = some attempt.version)
    (dealt : bridge.offer attempt now = (none, after)) :
    Course bridge (.upcoming attempt) (bridge.offered attempt now) after .empty := by
  have frames : ∀ {frames}, after.handovers = bridge.handovers ++ frames →
      bridge.offered attempt now = frames.map fun frame => ⟨attempt, frame.1, frame.2⟩ := by
    intro frames handed
    apply offered_of_handovers
    rw [dealt]
    exact handed
  cases inserted : bridge.pending.insert? attempt.holding with
  | none =>
      rw [offer_of_not_inserted inserted] at dealt
      cases dealt
      have nothing : (bridge.acquireLock now).handovers = bridge.handovers ++ [] := by
        rw [(sameRequests_acquireLock bridge now).handovers, List.append_nil]
      rw [frames nothing]
      exact .single (.collided now inserted)
  | some pending =>
      have free := PendingTable.serial_not_mem_of_insert? inserted
      cases replied : Channel.send bridge.channel attempt.outbound with
      | mk reply channel =>
          rw [offer_of_inserted spoken inserted replied] at dealt
          cases reply with
          | accepted =>
              cases dealt
              rw [frames ((handovers_awaiting _ attempt pending).trans
                (handovers_handOver bridge attempt .accepted channel now))]
              exact .single (.accepted channel now spoken inserted)
          | unavailable reason =>
              cases dealt
              have settles := settles_finish
                (bridge.handOver attempt (.unavailable reason) channel now) attempt.holding
                (.failed (.channelUnavailable attempt.kind)) now
              rw [frames (settles.handovers.trans
                (handovers_handOver bridge attempt (.unavailable reason) channel now))]
              exact (Course.single (.unavailable reason channel now spoken free)).andThen
                (.settled settles)
          | versionRefused => simp at dealt

/-- An attempt that the channel refuses when it is offered. -/
theorem course_of_refused {bridge after : Bridge χ} {attempt refused : Attempt}
    {version : Version} {now : Instant}
    (spoken : bridge.versions.current attempt.kind = some attempt.version)
    (refusal : bridge.offer attempt now = (some (refused, version), after)) :
    refused = attempt.holding ∧ version = attempt.version ∧
      Course bridge (.upcoming attempt) (bridge.offered attempt now) after (.refused refused) := by
  obtain ⟨pending, channel, inserted, -, rfl, rfl, rfl⟩ := offer_eq_some spoken refusal
  have free := PendingTable.serial_not_mem_of_insert? inserted
  have frames : (bridge.offer attempt now).2.handovers =
      bridge.handovers ++ [(attempt.outbound, .versionRefused)] := by
    rw [refusal]
    exact handovers_handOver bridge attempt .versionRefused channel now
  rw [offered_of_handovers frames]
  exact ⟨rfl, rfl, .single (.refused channel now spoken free)⟩

/-- The course of a request that is issued, whatever the channel replies and whichever serials are
taken. -/
theorem course_issue (bridge : Bridge χ) (attempt : Attempt) (now : Instant)
    (spoken : bridge.versions.current attempt.kind = some attempt.version) :
    Course bridge (.upcoming attempt) (bridge.issued attempt now) (bridge.issue attempt now)
      .empty := by
  fun_induction issue bridge attempt now with
  | case1 bridge attempt after dealt =>
      rw [issued_of_dealt dealt]
      exact course_of_dealt spoken dealt
  | case2 bridge attempt refused version middle refusal after retreated =>
      obtain ⟨rfl, rfl, course⟩ := course_of_refused spoken refusal
      rw [issued_of_refused refusal, retreated, List.append_nil]
      obtain ⟨lowest, rfl⟩ := retreat_eq_none retreated
      exact (course.andThen (.exhausted lowest)).andThen (.settled (settles_finish _ _ _ now))
  | case3 bridge attempt refused version middle refusal next retried retreated ih =>
      obtain ⟨rfl, rfl, course⟩ := course_of_refused spoken refusal
      rw [issued_of_refused refusal, retreated]
      obtain ⟨lower, next_eq, rfl, rfl⟩ := retreat_eq_some retreated
      have rest := ih (current_retrying next_eq)
      have onward := (course.andThen (.retried now next_eq)).trans rest
      exact onward.andThen (.settled (sameRequests_releaseIf _ _ now).settles)

/-- What the channel is handed after a version was refused. -/
def reissued (bridge : Bridge χ) (attempt : Attempt) (now : Instant) : List Handed :=
  match bridge.retreat attempt attempt.version now with
  | (none, _) => []
  | (some next, after) => after.issued next now

theorem course_fallBack (bridge : Bridge χ) (attempt : Attempt) (now : Instant) :
    Course bridge (.refused attempt) (bridge.reissued attempt now)
      (bridge.fallBack attempt attempt.version now) .empty := by
  unfold reissued fallBack
  cases retreated : bridge.retreat attempt attempt.version now with
  | mk retry after =>
      cases retry with
      | none =>
          obtain ⟨lowest, rfl⟩ := retreat_eq_none retreated
          exact (Course.single (.exhausted lowest)).andThen (.settled (settles_finish _ _ _ now))
      | some next =>
          obtain ⟨lower, next_eq, rfl, rfl⟩ := retreat_eq_some retreated
          have rest := course_issue _ (attempt.reissue bridge.serials.take.1 lower now) now
            (current_retrying next_eq)
          have onward := (Course.single (.retried now next_eq)).trans rest
          exact onward.andThen (.settled (sameRequests_releaseIf _ _ now).settles)

/-! ## Calls -/

/-- What the channel is handed in a call that is no batch. -/
def handedBy (bridge : Bridge χ) : Call χ → List Handed
  | .event (.submit submission) now =>
    if bridge.collision.isSome then []
    else
      match bridge.versions.current submission.kind with
      | none => []
      | some version => bridge.issued (.ofSubmission submission version now) now
  | .event (.answer header _) now =>
    if bridge.collision.isSome then []
    else
      match bridge.pending.find? header.serial with
      | none => []
      | some attempt =>
        if header.code.isNotSupported then
          (bridge.answered attempt header now).reissued attempt now
        else []
  | _ => []

/-- What the channel is handed in calls that are no batches. -/
def traceOfSteps (bridge : Bridge χ) : List (Call χ) → List Handed
  | [] => []
  | step :: rest => bridge.handedBy step ++ (bridge.call step).traceOfSteps rest

/-- What the channel is handed in a run, in order. -/
def trace (bridge : Bridge χ) (calls : List (Call χ)) : List Handed :=
  bridge.traceOfSteps (calls.flatMap Call.steps)

omit [Channel χ] in
theorem course_onLockTimers (bridge : Bridge χ) (now : Instant) (hand : Hand) :
    Course bridge hand [] ((bridge.firePrimaryTimer now).fireAckTimer now) hand := by
  obtain ⟨pending, bare, same⟩ := sameRequests_fireLockTimers bridge now
  exact (Course.single (.marked bare)).andThen (.settled same.settles)

omit [Channel χ] in
theorem course_fireDueTimers (bridge : Bridge χ) (now : Instant) (hand : Hand) :
    Course bridge hand [] (bridge.fireDueTimers now) hand :=
  ((course_onLockTimers bridge now hand).andThen (.removed _ hand _)).andThen
    (.settled (settles_ageOut _ now))

omit [Channel χ] in
theorem leg_emptied (bridge : Bridge χ) (hand : Hand) :
    Leg bridge hand [] { bridge with pending := .empty } hand := by
  have none : bridge.pending.filter (fun _ => false) = .empty :=
    PendingTable.ext_attempts (List.filter_eq_nil_iff.mpr fun _ _ => Bool.false_ne_true)
  have removed := Leg.removed bridge hand fun _ => false
  rwa [none] at removed

omit [Channel χ] in
theorem course_failAll (bridge : Bridge χ) (now : Instant) (hand : Hand) :
    Course bridge hand [] (bridge.failAll now) hand :=
  (Course.single (leg_emptied bridge hand)).andThen (.settled (settles_failAll bridge now))

omit [Channel χ] in
theorem course_shutdown (bridge : Bridge χ) (now : Instant) (hand : Hand) :
    Course bridge hand [] (bridge.shutdown now) hand := by
  cases running : bridge.running with
  | false =>
      rw [shutdown_of_stopped running]
      exact .done bridge hand
  | true =>
      have stopped := (Course.single (leg_emptied bridge hand)).andThen (.stopped _ hand)
      exact stopped.andThen (.settled (settles_shutdown running now))

theorem course_submit {bridge : Bridge χ} (sound : bridge.collision = none)
    (submission : Submission) (now : Instant) :
    ∃ middle hand, Begins bridge (.event (.submit submission) now) middle hand ∧
      Course middle hand (bridge.handedBy (.event (.submit submission) now))
        (bridge.submit submission now) .empty := by
  cases spoken : bridge.versions.current submission.kind with
  | none =>
      refine ⟨bridge, .empty, .bare _, ?_⟩
      simp only [handedBy, sound, spoken, Option.isSome_none, Bool.false_eq_true, if_false]
      exact .single (.settled (settles_submit_of_unspoken spoken now))
  | some version =>
      refine ⟨bridge, _, .submitted sound spoken, ?_⟩
      simp only [handedBy, submit, sound, spoken, Option.isSome_none, Bool.false_eq_true, if_false]
      exact course_issue bridge (.ofSubmission submission version now) now spoken

theorem handedBy_answer {bridge : Bridge χ} (sound : bridge.collision = none)
    {header : AnswerHeader} {attempt : Attempt}
    (waiting : bridge.pending.find? header.serial = some attempt) (payload : Payload)
    (now : Instant) :
    bridge.handedBy (.event (.answer header payload) now) =
      if header.code.isNotSupported then
        (bridge.answered attempt header now).reissued attempt now
      else [] := by
  simp [handedBy, sound, waiting]

theorem course_onAnswer {bridge : Bridge χ} (sound : bridge.collision = none)
    (header : AnswerHeader) (payload : Payload) (now : Instant) :
    ∃ middle hand, Begins bridge (.event (.answer header payload) now) middle hand ∧
      Course middle hand (bridge.handedBy (.event (.answer header payload) now))
        (bridge.onAnswer header payload now) .empty := by
  cases waiting : bridge.pending.find? header.serial with
  | none =>
      have nothing : bridge.handedBy (.event (.answer header payload) now) = [] := by
        simp [handedBy, waiting]
      rw [nothing]
      have same := sameRequests_onAnswer_of_stale waiting payload now
      exact ⟨bridge, .empty, .bare _, .of_same same _⟩
  | some attempt =>
      have same := sameRequests_answered bridge attempt header now
      rw [onAnswer_of_waiting waiting, handedBy_answer sound waiting]
      by_cases unknown : header.code.isNotSupported
      · rw [if_pos unknown, if_pos unknown]
        refine ⟨_, _, .answered sound waiting (AnswerCode.isNotSupported_iff.mp unknown), ?_⟩
        exact (Course.of_same same _).trans (course_fallBack _ attempt now)
      · rw [if_neg unknown, if_neg unknown]
        have removed := Course.single (.removed bridge .empty (·.serial ≠ header.serial))
        have received := removed.trans (.of_same same .empty)
        refine ⟨bridge, .empty, .bare _, ?_⟩
        split
        · exact received.andThen (.settled (settles_finish _ attempt _ now))
        · exact received.andThen (.settled (settles_finish _ attempt _ now))

theorem course_react {bridge : Bridge χ} (sound : bridge.collision = none) (event : Event)
    (now : Instant) :
    ∃ middle hand, Begins bridge (.event event now) middle hand ∧
      Course middle hand (bridge.handedBy (.event event now)) (bridge.react now event) .empty := by
  cases event with
  | submit submission => exact course_submit sound submission now
  | answer header payload => exact course_onAnswer sound header payload now
  | requestAck serial =>
      exact ⟨bridge, .empty, .bare _, .single (.marked (bridge.pending.bare_acknowledge serial))⟩
  | indication indication =>
      exact ⟨bridge, .empty, .bare _, .of_same (sameRequests_onIndication bridge indication now) _⟩
  | channelLost => exact ⟨bridge, .empty, .bare _, course_failAll bridge now .empty⟩
  | channelRestarted =>
      exact ⟨bridge, .empty, .bare _, .of_same (sameRequests_withDetector bridge _) _⟩
  | listenIndications listener =>
      exact ⟨bridge, .empty, .bare _, .of_same (sameRequests_listenIndications bridge listener) _⟩
  | listenStatus listener =>
      exact ⟨bridge, .empty, .bare _, .of_same (sameRequests_listenStatus bridge listener) _⟩
  | shutdown => exact ⟨bridge, .empty, .bare _, course_shutdown bridge now .empty⟩

theorem handedBy_of_collided {bridge : Bridge χ} (collided : bridge.collision.isSome = true)
    (event : Event) (now : Instant) : bridge.handedBy (.event event now) = [] := by
  cases event <;> simp [handedBy, collided]

/-- Every call takes something in hand, or nothing, and goes on from there until the hand is
empty. -/
theorem course_call (bridge : Bridge χ) {call : Call χ}
    (single : ∀ events now, call ≠ .batch events now) :
    ∃ middle hand, Begins bridge call middle hand ∧
      Course middle hand (bridge.handedBy call) (bridge.call call) .empty := by
  cases call with
  | batch events now => exact absurd rfl (single events now)
  | timers now => exact ⟨bridge, .empty, .bare _, course_fireDueTimers bridge now .empty⟩
  | event event now =>
      cases collided : bridge.collision with
      | none =>
          rw [call, handle_of_sound collided]
          exact course_react collided event now
      | some attempt =>
          have isSome : bridge.collision.isSome = true := by rw [collided]; rfl
          rw [handedBy_of_collided isSome, call, handle, if_pos isSome]
          exact ⟨bridge, .empty, .bare _, .done bridge .empty⟩
  | sampled => exact ⟨bridge, .empty, .bare _, .of_same (sameRequests_measure _ _) _⟩
  | serialTaken => exact ⟨bridge, .empty, .bare _, .single (.serialTaken bridge)⟩
  | channelChanged | indicationListenerLost | statusListenerLost =>
      refine ⟨bridge, .empty, .bare _, .of_same ?_ _⟩
      exact ⟨rfl, rfl, rfl, rfl, rfl, rfl, [], (List.append_nil _).symm, by simp⟩

/-! ## Runs -/

/-- A property of the calls made so far, of what the channel was handed in them, of the bridge and
of what it has in hand, which all calls keep that are made on a bridge that began as `start`. -/
structure Kept (start : Bridge χ)
    (P : List (Call χ) → List Handed → Bridge χ → Hand → Prop) : Prop where
  begins : ∀ {calls trace call middle hand}, P calls trace (start.run calls) .empty →
    Begins (start.run calls) call middle hand → P (calls ++ [call]) trace middle hand
  leg : ∀ {calls trace before hand handed after held}, P calls trace before hand →
    Leg before hand handed after held → P calls (trace ++ handed) after held

namespace Kept

variable {start : Bridge χ} {P : List (Call χ) → List Handed → Bridge χ → Hand → Prop}

theorem course (kept : Kept start P) {calls : List (Call χ)} {trace handed : List Handed}
    {before after : Bridge χ} {hand held : Hand} (holds : P calls trace before hand)
    (course : Course before hand handed after held) : P calls (trace ++ handed) after held := by
  induction course generalizing trace with
  | done => rwa [List.append_nil]
  | step leg rest ih =>
      rw [← List.append_assoc]
      exact ih (kept.leg holds leg)

theorem steps (kept : Kept start P) {steps : List (Call χ)} {earlier : List (Call χ)}
    {trace : List Handed} (single : ∀ step ∈ steps, ∀ events now, step ≠ .batch events now)
    (holds : P earlier trace (start.run earlier) .empty) :
    P (earlier ++ steps) (trace ++ (start.run earlier).traceOfSteps steps)
      (start.run (earlier ++ steps)) .empty := by
  induction steps generalizing earlier trace with
  | nil =>
      rw [traceOfSteps, List.append_nil, List.append_nil]
      exact holds
  | cons step rest ih =>
      obtain ⟨middle, hand, begins, course⟩ :=
        course_call (start.run earlier) (single step List.mem_cons_self)
      have here := kept.course (kept.begins holds begins) course
      have there : (start.run earlier).call step = start.run (earlier ++ [step]) :=
        (run_append start earlier [step]).symm
      rw [there] at here
      have whole := ih (fun later member => single later (List.mem_cons_of_mem step member)) here
      rw [List.append_assoc, List.append_assoc, ← there] at whole
      exact whole

/-- What all calls keep holds after every run, of the steps that the run is made of. -/
theorem run (kept : Kept start P) (holds : P [] [] start .empty) (calls : List (Call χ)) :
    P (calls.flatMap Call.steps) (start.trace calls) (start.run calls) .empty := by
  have whole : P ([] ++ calls.flatMap Call.steps) ([] ++ start.trace calls)
      (start.run ([] ++ calls.flatMap Call.steps)) .empty := 
      kept.steps (fun _ member => not_batch_of_mem_run member) holds
  rw [List.nil_append, List.nil_append, run_steps] at whole
  exact whole

end Kept

/-- The trace of a run has what was handed over in it. -/
theorem handovers_run (start : Bridge χ) (calls : List (Call χ)) :
    (start.run calls).handovers = start.handovers ++ (start.trace calls).map Handed.frame := by
  have kept : Kept start fun _ trace bridge _ =>
      bridge.handovers = start.handovers ++ trace.map Handed.frame := by
    constructor
    · intro calls trace call middle hand holds begins
      cases begins <;> exact holds
    · intro calls trace before hand handed after held holds leg
      rw [leg.handovers, holds, List.map_append, List.append_assoc]
  exact kept.run (List.append_nil _).symm calls

end

end Bridge

end ModemLink
