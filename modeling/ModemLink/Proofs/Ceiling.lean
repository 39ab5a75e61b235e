/-
Module: ModemLink.Proofs.Ceiling
Purpose: The version of a kind bounds what is sent, falls only when it is refused, and never rises.
Main exports: versionsSent, HandedLast, Orderly, Refused, Floored
-/
import ModemLink.Proofs.Course
import ModemLink.Proofs.Rungs

namespace ModemLink

/-!
The version at which a kind is spoken is a ceiling for all that follows: no request of the kind is
handed over above it.  It is a floor for all that came before: no request of the kind was handed
over below it.  So a version that is refused is never below the ceiling, whenever its request was
issued, and lowering the ceiling from that version gives up nothing else.
-/

/-- The last frame handed over under the serial of an attempt is the attempt, and the channel
accepted it. -/
def Attempt.HandedLast (attempt : Attempt) (handovers : List (Outbound × SendReply)) : Prop :=
  (handovers.filter (·.1.serial = attempt.serial)).getLast? = some (attempt.outbound, .accepted)

theorem Attempt.HandedLast.mem {attempt : Attempt} {handovers : List (Outbound × SendReply)}
    (last : attempt.HandedLast handovers) : (attempt.outbound, .accepted) ∈ handovers :=
  (List.mem_filter.mp (List.mem_of_getLast? last)).1

/-- What is handed over under another serial does not matter. -/
theorem Attempt.HandedLast.append {attempt : Attempt} {handovers : List (Outbound × SendReply)}
    {frame : Outbound × SendReply} (last : attempt.HandedLast handovers)
    (other : frame.1.serial ≠ attempt.serial) : attempt.HandedLast (handovers ++ [frame]) := by
  rw [HandedLast, List.filter_append, List.filter_cons_of_neg (by simpa using other),
    List.filter_nil, List.append_nil]
  exact last

theorem Attempt.handedLast_append (attempt : Attempt) (handovers : List (Outbound × SendReply)) :
    attempt.HandedLast (handovers ++ [(attempt.outbound, .accepted)]) := by
  have own : attempt.outbound.serial = attempt.serial := rfl
  rw [HandedLast, List.filter_append, List.filter_cons_of_pos (by simpa using own),
    List.getLast?_append]
  rfl

/-- The marks of an attempt do not matter. -/
theorem Attempt.HandedLast.of_bare {attempt other : Attempt}
    {handovers : List (Outbound × SendReply)} (last : attempt.HandedLast handovers)
    (bare : attempt.bare = other.bare) : other.HandedLast handovers := by
  show other.bare.HandedLast handovers
  rw [← bare]
  exact last

namespace Bridge

variable {χ : Type}

/-- The versions at which requests of a kind were handed to the channel, in order. -/
def versionsSent (bridge : Bridge χ) (kind : RequestKind) : List Version :=
  (bridge.handovers.filter (·.1.kind = kind)).map (·.1.version)

namespace Leg

variable {before after : Bridge χ} {hand held : Hand} {handed : List Handed}

/-- A kind falls, if it does. -/
theorem current_le (leg : Leg before hand handed after held) {kind : RequestKind}
    {lower : Version} (spoken : after.versions.current kind = some lower) :
    ∃ current, before.versions.current kind = some current ∧ lower ≤ current := by
  rcases leg.versions_cases with same | ⟨attempt, rfl, lowered⟩
  · exact ⟨lower, same ▸ spoken, Nat.le_refl _⟩
  · rw [lowered, VersionTable.current_lower] at spoken
    split at spoken
    · rename_i here
      obtain ⟨current, rung, speaks, -, -, rfl⟩ := VersionTable.next_eq_some spoken
      refine ⟨current, here ▸ speaks, ?_⟩
      rw [Version.le_def, Version.rank_min]
      exact Nat.min_le_left _ _
    · exact ⟨lower, spoken, Nat.le_refl _⟩

/-- What is handed over in a leg is handed over at the version of its kind. -/
theorem frame_cases (leg : Leg before hand handed after held) {frame : Outbound × SendReply}
    (member : frame ∈ after.handovers) :
    frame ∈ before.handovers ∨
      before.versions.current frame.1.kind = some frame.1.version ∧
        after.versions = before.versions := by
  rw [leg.handovers] at member
  rcases List.mem_append.mp member with old | new
  · exact Or.inl old
  · rcases leg.handed_cases with rfl | ⟨attempt, reply, rfl, rfl, speaks, -⟩
    · exact absurd new List.not_mem_nil
    · rw [List.map_singleton, List.mem_singleton] at new
      subst new
      rcases leg.versions_cases with same | ⟨refused, impossible, -⟩
      · exact Or.inr ⟨speaks, same⟩
      · cases impossible

end Leg

/-- Of one kind, nothing is handed over at a higher version than before. -/
def Falling (handovers : List (Outbound × SendReply)) : Prop :=
  handovers.Pairwise fun earlier later =>
    earlier.1.kind = later.1.kind → later.1.version ≤ earlier.1.version

/-- All kinds are spoken, and were handed over, at rungs that the cap allows, and none is spoken
above a version at which it was handed over. -/
structure Orderly (cap : Option Version) (bridge : Bridge χ) : Prop where
  spoken : ∀ kind current, bridge.versions.current kind = some current →
    current ∈ kind.ladder.rungs ∧ VersionTable.Allows cap current
  handed : ∀ frame ∈ bridge.handovers,
    frame.1.version ∈ frame.1.kind.ladder.rungs ∧ VersionTable.Allows cap frame.1.version
  ceiling : ∀ frame ∈ bridge.handovers, ∀ current,
    bridge.versions.current frame.1.kind = some current → current ≤ frame.1.version
  falling : Falling bridge.handovers
  waiting : ∀ attempt ∈ bridge.pending.attempts, attempt.HandedLast bridge.handovers

theorem orderly_new (config : BridgeConfig) (serials : SerialSource) (channel : χ) :
    Orderly config.versionCap (Bridge.new config serials channel) where
  spoken := by
    intro kind current start
    rw [Bridge.new, VersionTable.current_new] at start
    exact VersionTable.initial_eq_some start
  handed := fun frame member => absurd member List.not_mem_nil
  ceiling := fun frame member => absurd member List.not_mem_nil
  falling := .nil
  waiting := fun attempt member => absurd member List.not_mem_nil

namespace Orderly

variable {cap : Option Version} {before after : Bridge χ} {hand held : Hand}
  {handed : List Handed}

theorem spoken_leg (orderly : Orderly cap before) (leg : Leg before hand handed after held)
    (kind : RequestKind) (current : Version) (speaks : after.versions.current kind = some current) :
    current ∈ kind.ladder.rungs ∧ VersionTable.Allows cap current := by
  rcases leg.versions_cases with same | ⟨attempt, rfl, lowered⟩
  · exact orderly.spoken kind current (same ▸ speaks)
  · rw [lowered, VersionTable.current_lower] at speaks
    split at speaks
    · rename_i here
      rw [here]
      exact VersionTable.next_allowed (orderly.spoken attempt.kind) speaks
    · exact orderly.spoken kind current speaks

theorem handed_leg (orderly : Orderly cap before) (leg : Leg before hand handed after held)
    (frame : Outbound × SendReply) (member : frame ∈ after.handovers) :
    frame.1.version ∈ frame.1.kind.ladder.rungs ∧ VersionTable.Allows cap frame.1.version := by
  rcases leg.frame_cases member with old | ⟨speaks, -⟩
  · exact orderly.handed frame old
  · exact orderly.spoken _ _ speaks

theorem ceiling_leg (orderly : Orderly cap before) (leg : Leg before hand handed after held)
    (frame : Outbound × SendReply) (member : frame ∈ after.handovers) (lower : Version)
    (speaks : after.versions.current frame.1.kind = some lower) : lower ≤ frame.1.version := by
  rcases leg.frame_cases member with old | ⟨spoken, same⟩
  · obtain ⟨current, spoken, falls⟩ := leg.current_le speaks
    exact Nat.le_trans falls (orderly.ceiling frame old current spoken)
  · rw [same, spoken] at speaks
    cases speaks
    exact Nat.le_refl _

theorem falling_leg (orderly : Orderly cap before) (leg : Leg before hand handed after held) :
    Falling after.handovers := by
  rw [leg.handovers]
  rcases leg.handed_cases with rfl | ⟨attempt, reply, rfl, rfl, speaks, -⟩
  · rw [List.map_nil, List.append_nil]
    exact orderly.falling
  · refine List.pairwise_append.mpr ⟨orderly.falling, List.pairwise_singleton _ _, ?_⟩
    intro earlier member later new same
    rw [List.map_singleton, List.mem_singleton] at new
    subst new
    exact orderly.ceiling earlier member attempt.version (same ▸ speaks)

theorem waiting_leg (orderly : Orderly cap before) (leg : Leg before hand handed after held)
    (waiting : Attempt) (member : waiting ∈ after.pending.attempts) :
    waiting.HandedLast after.handovers := by
  rw [leg.handovers]
  rcases leg.waiting_cases member with ⟨earlier, there, bare⟩ | ⟨attempt, -, rfl, rfl⟩
  · have last := orderly.waiting earlier there
    refine Attempt.HandedLast.of_bare ?_ bare
    rcases leg.handed_cases with rfl | ⟨attempt, reply, -, rfl, -, free⟩
    · rw [List.map_nil, List.append_nil]
      exact last
    · apply last.append
      intro same
      exact free (List.mem_map.mpr ⟨earlier, there, same.symm⟩)
  · exact attempt.holding.handedLast_append before.handovers

theorem leg (orderly : Orderly cap before) (leg : Leg before hand handed after held) :
    Orderly cap after where
  spoken := orderly.spoken_leg leg
  handed := orderly.handed_leg leg
  ceiling := orderly.ceiling_leg leg
  falling := orderly.falling_leg leg
  waiting := orderly.waiting_leg leg

/-- Nothing but the table changes before the first leg, and nothing comes into it. -/
theorem begins (orderly : Orderly cap before) {call : Call χ}
    (begins : Begins before call after hand) : Orderly cap after := by
  cases begins with
  | bare | submitted => exact orderly
  | answered sound waits unknown =>
      exact ⟨orderly.spoken, orderly.handed, orderly.ceiling, orderly.falling,
        fun attempt member => orderly.waiting attempt (List.mem_filter.mp member).1⟩

end Orderly

section

variable [Channel χ]

theorem kept_orderly (start : Bridge χ) (cap : Option Version) :
    Kept start fun _ _ bridge _ => Orderly cap bridge where
  begins := fun orderly begins => orderly.begins begins
  leg := fun orderly leg => orderly.leg leg

theorem orderly_run (config : BridgeConfig) (serials : SerialSource) (channel : χ)
    (calls : List (Call χ)) :
    Orderly config.versionCap ((Bridge.new config serials channel).run calls) :=
  (kept_orderly _ _).run (orderly_new config serials channel) calls

/-! ## Kinds that are not spoken -/

/-- A kind that is not spoken stays so, and nothing of it is handed over. -/
theorem kept_unspoken (start : Bridge χ) (kind : RequestKind) :
    Kept start fun _ trace bridge _ =>
      bridge.versions.current kind = none ∧ ∀ handed ∈ trace, handed.request.kind ≠ kind := by
  constructor
  · rintro calls trace call middle hand ⟨unspoken, silent⟩ begins
    refine ⟨?_, silent⟩
    cases begins <;> exact unspoken
  · rintro calls trace before hand handed after held ⟨unspoken, silent⟩ leg
    constructor
    · cases speaks : after.versions.current kind with
      | none => rfl
      | some lower =>
          obtain ⟨current, spoken, -⟩ := leg.current_le speaks
          rw [unspoken] at spoken
          cases spoken
    · intro one member
      rcases List.mem_append.mp member with old | new
      · exact silent one old
      · rcases leg.handed_cases with rfl | ⟨attempt, reply, -, rfl, speaks, -⟩
        · exact absurd new List.not_mem_nil
        · rw [List.mem_singleton.mp new]
          rintro rfl
          have spoken : before.versions.current attempt.kind = none := unspoken
          rw [speaks] at spoken
          cases spoken

theorem unspoken_run {bridge : Bridge χ} {kind : RequestKind}
    (unspoken : bridge.versions.current kind = none) (calls : List (Call χ)) :
    (bridge.run calls).versions.current kind = none ∧
      (bridge.run calls).versionsSent kind = bridge.versionsSent kind := by
  have kept := (kept_unspoken bridge kind).run
    ⟨unspoken, fun handed member => absurd member List.not_mem_nil⟩ calls
  have none : ((bridge.trace calls).map Handed.frame).filter (·.1.kind = kind) = [] := by
    rw [List.filter_eq_nil_iff]
    intro frame member
    obtain ⟨handed, there, rfl⟩ := List.mem_map.mp member
    exact fun same => kept.2 handed there (decide_eq_true_eq.mp same)
  refine ⟨kept.1, ?_⟩
  rw [versionsSent, handovers_run, List.filter_append, none, List.append_nil]
  rfl

/-- In every run the versions at which requests of a kind are handed to the channel never rise, are
rungs of the kind's ladder that the cap allows, and nothing of the kind is handed over any more once
it is not spoken; whatever waits was handed over under its serial as it stands in the table. -/
theorem versionsSent_fall (config : BridgeConfig) (serials : SerialSource) (channel : χ)
    (calls : List (Call χ)) (kind : RequestKind) :
    let bridge := (Bridge.new config serials channel).run calls
    (bridge.versionsSent kind).Pairwise (fun earlier later => later ≤ earlier) ∧
      (∀ version ∈ bridge.versionsSent kind,
        version ∈ kind.ladder.rungs ∧ VersionTable.Allows config.versionCap version) ∧
      (bridge.versions.current kind = none →
        ∀ more, (bridge.run more).versionsSent kind = bridge.versionsSent kind) ∧
      ∀ attempt ∈ bridge.pending.attempts, attempt.HandedLast bridge.handovers := by
  intro bridge
  have orderly := orderly_run config serials channel calls
  refine ⟨?_, ?_, fun unspoken more => (unspoken_run unspoken more).2, orderly.waiting⟩
  · rw [versionsSent, List.pairwise_map, List.pairwise_filter]
    refine orderly.falling.imp ?_
    intro earlier later falls ofKind alsoOfKind
    rw [decide_eq_true_eq] at ofKind alsoOfKind
    exact falls (ofKind.trans alsoOfKind.symm)
  · intro version member
    obtain ⟨frame, there, rfl⟩ := List.mem_map.mp member
    obtain ⟨member, ofKind⟩ := List.mem_filter.mp there
    rw [← decide_eq_true_eq.mp ofKind]
    exact orderly.handed frame member

/-- The channel refuses a request at 1.6, and the modem its retry at 1.0: nothing more is sent. -/
theorem versionsSent_fall_to_silence :
    let first : Submission := ⟨⟨1⟩, .sendSms, .empty, .unknown, 0, 0⟩
    let bridge := (Bridge.new {} (.start 2)
      ({ refused := [(.sendSms, ⟨1, 6⟩)] } : RecordingChannel)).run
      [.event (.submit first) 0,
        .event (.answer (.plain ⟨2⟩ .sendSms .requestNotSupported) .empty) 1]
    bridge.versionsSent .sendSms = [⟨1, 6⟩, ⟨1, 0⟩] ∧
      ∀ more, (bridge.run more).versionsSent .sendSms = [⟨1, 6⟩, ⟨1, 0⟩] := by
  intro first bridge
  have sent : bridge.versionsSent .sendSms = [⟨1, 6⟩, ⟨1, 0⟩] := by decide +kernel
  have fall := versionsSent_fall {} (.start 2)
    ({ refused := [(.sendSms, ⟨1, 6⟩)] } : RecordingChannel)
    [.event (.submit first) 0,
      .event (.answer (.plain ⟨2⟩ .sendSms .requestNotSupported) .empty) 1] .sendSms
  exact ⟨sent, fun more => (fall.2.2.1 (by decide +kernel) more).trans sent⟩

/-! ## Versions that are given up -/

/-- A version of a kind was refused: by the channel when a request was handed to it, or by the modem
in its answer to a request that the channel had accepted and that waited for the answer. -/
inductive Refused (start : Bridge χ) (steps : List (Call χ))
    (handovers : List (Outbound × SendReply)) (kind : RequestKind) (version : Version) : Prop where
  | byChannel {request : Outbound} (handed : (request, .versionRefused) ∈ handovers)
      (ofKind : request.kind = kind) (atVersion : request.version = version)
  | byModem {earlier later : List (Call χ)} {header : AnswerHeader} {payload : Payload}
      {now : Instant} {attempt : Attempt}
      (made : steps = earlier ++ .event (.answer header payload) now :: later)
      (sound : (start.run earlier).collision = none)
      (waits : (start.run earlier).pending.find? header.serial = some attempt)
      (handed : attempt.HandedLast (start.run earlier).handovers)
      (unknown : header.code = .requestNotSupported)
      (ofKind : attempt.kind = kind) (atVersion : attempt.version = version)

namespace Refused

variable {start : Bridge χ} {steps : List (Call χ)} {handovers : List (Outbound × SendReply)}
  {kind : RequestKind} {version : Version}

theorem step (refused : Refused start steps handovers kind version) (next : Call χ) :
    Refused start (steps ++ [next]) handovers kind version := by
  cases refused with
  | byChannel handed ofKind atVersion => exact .byChannel handed ofKind atVersion
  | @byModem earlier later header payload now attempt made sound waits handed unknown ofKind
      atVersion =>
      have longer : steps ++ [next] =
          earlier ++ .event (.answer header payload) now :: (later ++ [next]) := by
        rw [made, List.append_assoc, List.cons_append]
      exact .byModem longer sound waits handed unknown ofKind atVersion

theorem handed (refused : Refused start steps handovers kind version)
    (more : List (Outbound × SendReply)) :
    Refused start steps (handovers ++ more) kind version := by
  cases refused with
  | byChannel handed ofKind atVersion =>
      exact .byChannel (List.mem_append_left more handed) ofKind atVersion
  | byModem made sound waits handed unknown ofKind atVersion =>
      exact .byModem made sound waits handed unknown ofKind atVersion

end Refused

/-- Each rung that a kind began at or above and is now below was refused, and so was the version of
an attempt in hand that is to be retried or failed. -/
structure Floored (cap : Option Version) (start : Bridge χ) (steps : List (Call χ))
    (bridge : Bridge χ) (hand : Hand) : Prop where
  orderly : Orderly cap bridge
  lost : ∀ kind first rung, VersionTable.initial kind cap = some first →
    rung ∈ kind.ladder.rungs → rung ≤ first →
    (∀ current, bridge.versions.current kind = some current → current < rung) →
    Refused start steps bridge.handovers kind rung
  inHand : ∀ attempt, hand = .refused attempt →
    Refused start steps bridge.handovers attempt.kind attempt.version ∧
      ∃ reply, (attempt.outbound, reply) ∈ bridge.handovers

/-- Lowering a kind from a version at or above its own gives up at most that version. -/
theorem eq_of_lost {table : VersionTable} {kind : RequestKind} {failed rung current : Version}
    (member : rung ∈ kind.ladder.rungs) (spoken : table.current kind = some current)
    (below : current ≤ failed) (had : rung ≤ current)
    (lost : ∀ lower, table.next kind failed = some lower → lower < rung) : rung = failed := by
  apply Version.eq_of_rank_eq
  apply Nat.le_antisymm (Nat.le_trans had below)
  apply Nat.le_of_not_lt
  intro above
  obtain ⟨lower, next, kept⟩ := VersionTable.next_of_rung member above spoken had
  exact absurd kept (Nat.not_le_of_lt (lost lower next))

namespace Floored

variable {cap : Option Version} {start before after : Bridge χ} {steps : List (Call χ)}
  {hand held : Hand} {handed : List Handed}

theorem lost_leg (floored : Floored cap start steps before hand)
    (leg : Leg before hand handed after held) (kind : RequestKind) (first rung : Version)
    (began : VersionTable.initial kind cap = some first) (member : rung ∈ kind.ladder.rungs)
    (top : rung ≤ first)
    (lost : ∀ current, after.versions.current kind = some current → current < rung) :
    Refused start steps after.handovers kind rung := by
  rw [leg.handovers]
  cases spoken : before.versions.current kind with
  | none =>
      have already : ∀ current, before.versions.current kind = some current → current < rung := by
        intro current speaks
        rw [spoken] at speaks
        cases speaks
      exact (floored.lost kind first rung began member top already).handed _
  | some current =>
      by_cases had : rung ≤ current
      · obtain ⟨attempt, rfl, lowered⟩ := leg.versions_cases.resolve_left fun same =>
          Nat.not_le_of_lt (lost current (same ▸ spoken)) had
        rw [lowered] at lost
        by_cases here : kind = attempt.kind
        · subst here
          obtain ⟨refused, reply, sent⟩ := floored.inHand attempt rfl
          have below : current ≤ attempt.version := floored.orderly.ceiling _ sent current spoken
          have only : rung = attempt.version := by
            apply eq_of_lost member spoken below had
            intro lower next
            apply lost
            rw [VersionTable.current_lower, if_pos rfl, next]
          rw [only]
          exact refused.handed _
        · refine absurd had (Nat.not_le_of_lt (lost current ?_))
          rw [VersionTable.current_lower, if_neg here, spoken]
      · have already : ∀ other, before.versions.current kind = some other → other < rung := by
          intro other speaks
          rw [spoken] at speaks
          cases speaks
          exact Nat.lt_of_not_le had
        exact (floored.lost kind first rung began member top already).handed _

theorem inHand_leg (floored : Floored cap start steps before hand)
    (leg : Leg before hand handed after held) (attempt : Attempt)
    (refused : held = .refused attempt) :
    Refused start steps after.handovers attempt.kind attempt.version ∧
      ∃ reply, (attempt.outbound, reply) ∈ after.handovers := by
  rw [leg.handovers]
  rcases leg.refused_cases refused with already | ⟨first, rfl, rfl⟩
  · obtain ⟨evidence, reply, sent⟩ := floored.inHand attempt already
    exact ⟨evidence.handed _, reply, List.mem_append_left _ sent⟩
  · have sent : (first.outbound, SendReply.versionRefused) ∈
        before.handovers ++ [first.handed .versionRefused].map Handed.frame :=
      List.mem_append_right _ List.mem_cons_self
    exact ⟨.byChannel sent rfl rfl, .versionRefused, sent⟩

theorem leg (floored : Floored cap start steps before hand)
    (leg : Leg before hand handed after held) : Floored cap start steps after held where
  orderly := floored.orderly.leg leg
  lost := floored.lost_leg leg
  inHand := floored.inHand_leg leg

theorem begins {call : Call χ} (floored : Floored cap start steps (start.run steps) .empty)
    (begins : Begins (start.run steps) call after hand) :
    Floored cap start (steps ++ [call]) after hand := by
  have orderly := floored.orderly.begins begins
  cases begins with
  | bare call =>
      refine ⟨orderly, ?_, fun attempt refused => nomatch refused⟩
      intro kind first rung began member top lost
      exact (floored.lost kind first rung began member top lost).step call
  | submitted sound spoken =>
      refine ⟨orderly, ?_, fun attempt refused => nomatch refused⟩
      intro kind first rung began member top lost
      exact (floored.lost kind first rung began member top lost).step _
  | @answered header payload attempt now sound waits unknown =>
      have last := floored.orderly.waiting attempt (PendingTable.mem_attempts_of_find? waits)
      refine ⟨orderly, ?_, ?_⟩
      · intro kind first rung began member top lost
        exact (floored.lost kind first rung began member top lost).step _
      · rintro refused ⟨⟩
        exact ⟨.byModem rfl sound waits last unknown rfl rfl, .accepted, last.mem⟩

end Floored

theorem floored_new (config : BridgeConfig) (serials : SerialSource) (channel : χ) :
    Floored config.versionCap (Bridge.new config serials channel) []
      (Bridge.new config serials channel) .empty where
  orderly := orderly_new config serials channel
  lost := by
    intro kind first rung began member top lost
    have speaks : (Bridge.new config serials channel).versions.current kind = some first := by
      rw [Bridge.new, VersionTable.current_new, began]
    exact absurd top (Nat.not_le_of_lt (lost first speaks))
  inHand := fun attempt refused => nomatch refused

theorem kept_floored (start : Bridge χ) (cap : Option Version) :
    Kept start fun calls _ bridge hand => Floored cap start calls bridge hand where
  begins := fun floored begins => floored.begins begins
  leg := fun floored leg => floored.leg leg

/-- In every run a rung that a kind could begin at is given up only when the modem refused it: a
request of the kind was handed over at this very version, and was refused by the channel or in the
answer to it.  A kind that can begin and is not spoken any more was refused at its lowest rung, and
is never spoken again. -/
theorem givenUp_refused (config : BridgeConfig) (serials : SerialSource) (channel : χ)
    (calls : List (Call χ)) (kind : RequestKind) (first : Version)
    (began : VersionTable.initial kind config.versionCap = some first) :
    let start := Bridge.new config serials channel
    let bridge := start.run calls
    (∀ rung ∈ kind.ladder.rungs, rung ≤ first →
      (∀ current, bridge.versions.current kind = some current → current < rung) →
      Refused start (calls.flatMap Call.steps) bridge.handovers kind rung) ∧
    (bridge.versions.current kind = none →
      (∃ lowest, kind.ladder.lowest = some lowest ∧
        Refused start (calls.flatMap Call.steps) bridge.handovers kind lowest) ∧
      ∀ more, (bridge.run more).versions.current kind = none) := by
  intro start bridge
  have floored := (kept_floored start config.versionCap).run
    (floored_new config serials channel) calls
  refine ⟨fun rung member top lost => floored.lost kind first rung began member top lost, ?_⟩
  intro unspoken
  refine ⟨?_, fun more => (unspoken_run unspoken more).1⟩
  obtain ⟨member, -⟩ := VersionTable.initial_eq_some began
  obtain ⟨lowest, bottom, there, least⟩ := Ladder.lowest_of_mem member
  refine ⟨lowest, bottom, floored.lost kind first lowest began there least ?_⟩
  intro current speaks
  rw [unspoken] at speaks
  cases speaks

/-- The channel refuses text messages at 1.6, and the modem at 1.0, below which there is nothing. -/
theorem givenUp_refused_down_to_nothing :
    let submission : Submission := ⟨⟨1⟩, .sendSms, .empty, .unknown, 0, 0⟩
    let start := Bridge.new {} (.start 2)
      ({ refused := [(.sendSms, ⟨1, 6⟩)] } : RecordingChannel)
    let calls := [.event (.submit submission) 0,
      .event (.answer (.plain ⟨2⟩ .sendSms .requestNotSupported) .empty) 1]
    Refused start calls (start.run calls).handovers .sendSms ⟨1, 6⟩ ∧
      Refused start calls (start.run calls).handovers .sendSms ⟨1, 0⟩ ∧
      ∀ more, ((start.run calls).run more).versions.current .sendSms = none := by
  intro submission start calls
  have refused := givenUp_refused {} (.start 2)
    ({ refused := [(.sendSms, ⟨1, 6⟩)] } : RecordingChannel) calls .sendSms ⟨1, 6⟩
    (by decide +kernel)
  have unspoken : (start.run calls).versions.current .sendSms = none := by decide +kernel
  obtain ⟨⟨lowest, bottom, byModem⟩, ever⟩ := refused.2 unspoken
  have byChannel := refused.1 ⟨1, 6⟩ (by decide) (by decide) (by
    intro current speaks
    exact absurd (unspoken.symm.trans speaks) (by simp))
  cases bottom
  exact ⟨byChannel, byModem, ever⟩

end

end Bridge

end ModemLink
