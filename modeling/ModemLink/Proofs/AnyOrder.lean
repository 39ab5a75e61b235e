/-
Module: ModemLink.Proofs.AnyOrder
Purpose: Answers may come in any order.
Main exports:
  Answer, Answer.outcomeFor, PendingTable.told, deedsFor, reordered_onAnswer, reordered_answers,
  outcomes_answers, answers_in_any_order
-/
import ModemLink.Proofs.Deeds

namespace ModemLink

/-!
Answers are matched to attempts by serial alone.  So what is done about an answer can be read off
the table as it was before all of them came: another answer, under another serial, takes nothing
from it.  Retries are left out, as they go out under new serials and lower versions for all requests
of their kind.
-/

/-- An answer of the modem, with its payload. -/
abbrev Answer := AnswerHeader × Payload

namespace Answer

/-- The serial under which the answer comes. -/
def serial (answer : Answer) : Serial :=
  answer.1.serial

/-- The answer as it reaches a bridge. -/
def event (answer : Answer) : Event :=
  .answer answer.1 answer.2

/-- What the caller of an attempt is told when the answer comes. -/
def outcomeFor (answer : Answer) (attempt : Attempt) : Outcome :=
  if answer.1.code.isSuccess then .ok answer.2
  else .failed (.rejected attempt.kind answer.1.code)

end Answer

namespace PendingTable

/-- Whom an answer to an attempt in the table tells an outcome, if it is one. -/
def told (table : PendingTable) (answer : Answer) : Option (Ticket × Outcome) :=
  (table.find? answer.serial).map fun attempt => (attempt.ticket, answer.outcomeFor attempt)

theorem find?_erase_of_ne (table : PendingTable) {serial other : Serial}
    (different : other ≠ serial) : (table.erase serial).find? other = table.find? other := by
  simp only [find?, attempts_erase, List.find?_filter]
  congr 1
  funext attempt
  by_cases named : attempt.serial = other <;> simp [named, different]

end PendingTable

namespace Bridge

variable {χ : Type}

/-- What is done about an answer, as the table is. -/
def deedsFor (now : Instant) (table : PendingTable) (answer : Answer) : List Deed :=
  match table.find? answer.serial with
  | none => [.ignored]
  | some attempt =>
    .takenOut answer.serial :: (if answer.1.type.ackExpected then [.acknowledged] else [])
      ++ (if attempt.holdsLock then [.released] else [])
      ++ [.told attempt.kind attempt.ticket (answer.outcomeFor attempt) (attempt.latency now)]

theorem reordered_withDetector (bridge : Bridge χ) (step : Option FaultStatus × FaultDetector) :
    Reordered bridge (bridge.withDetector step) := by
  obtain ⟨change, detector⟩ := step
  cases change with
  | none => exact ⟨rfl, .refl _⟩
  | some status =>
      have news : ∀ listeners : List ListenerId,
          (listeners.map fun listener => Effect.statusTold listener status).filter
            (fun effect => !effect.isStatus) = [] := by
        intro listeners
        simp [Effect.isStatus]
      constructor
      · rfl
      · rw [withDetector, publishStatus, unjudged, unjudged, history_emit, List.filter_append,
          List.filter_cons_of_neg (by simp [Effect.isStatus]), news, List.append_nil]
        exact .refl _

section

variable [Channel χ]

theorem performDeeds_append (bridge : Bridge χ) (now : Instant) (earlier later : List Deed) :
    bridge.performDeeds now (earlier ++ later) =
      (bridge.performDeeds now earlier).performDeeds now later :=
  List.foldl_append

/-! ## Answers as deeds -/

theorem sendAckIf_eq_deeds {bridge : Bridge χ} (ack : bridge.locks.ack.id = .ack) (asked : Bool)
    (now : Instant) :
    bridge.sendAckIf asked now =
      bridge.performDeeds now (if asked then [.acknowledged] else []) := by
  cases asked with
  | false => rfl
  | true =>
      show bridge.sendAck now = bridge.performDeed now .acknowledged
      rcases reply : Channel.sendAck bridge.channel with ⟨_ | reason, channel⟩
      · have own : (bridge.locks.holdForAck now).1.lock = .ack := by
          simpa [WakeLocks.holdForAck, WakeLock.arm, WakeLock.id_take] using ack
        rw [sendAck_of_accepted reply, schedule_ack _ own]
        simp [performDeed, deedState, deedEffects, reply, emit]
      · rw [sendAck_of_refused reply]
        simp [performDeed, deedState, deedEffects, reply]

theorem finish_eq_deeds (bridge : Bridge χ) (attempt : Attempt) (outcome : Outcome)
    (now : Instant) :
    bridge.finish attempt outcome now =
      bridge.performDeeds now ((if attempt.holdsLock then [.released] else []) ++
        [.told attempt.kind attempt.ticket outcome (attempt.latency now)]) := by
  rw [performDeeds_append, finish]
  cases attempt.holdsLock <;> rfl

/-- An answer that is no refusal ends the attempt that waits for it. -/
theorem onAnswer_of_known {bridge : Bridge χ} {answer : Answer} {attempt : Attempt}
    (known : answer.1.code ≠ .requestNotSupported)
    (waiting : bridge.pending.find? answer.serial = some attempt) (now : Instant) :
    bridge.onAnswer answer.1 answer.2 now =
      (bridge.answered attempt answer.1 now).finish attempt (answer.outcomeFor attempt) now := by
  have supported : answer.1.code.isNotSupported ≠ true := fun unknown =>
    known (AnswerCode.isNotSupported_iff.mp unknown)
  rw [onAnswer_of_waiting waiting, if_neg supported, Answer.outcomeFor]
  split <;> rfl

/-- What is done about an answer is what can be read off the table. -/
theorem reordered_onAnswer {bridge : Bridge χ} (ack : bridge.locks.ack.id = .ack) {answer : Answer}
    (known : answer.1.code ≠ .requestNotSupported) (now : Instant) :
    Reordered (bridge.performDeeds now (deedsFor now bridge.pending answer))
      (bridge.onAnswer answer.1 answer.2 now) := by
  cases waiting : bridge.pending.find? answer.serial with
  | none =>
      rw [deedsFor, waiting, onAnswer_of_stale waiting]
      exact .refl _
  | some attempt =>
      have taken : bridge.performDeed now (.takenOut answer.serial) =
          { bridge with pending := bridge.pending.erase answer.serial } := rfl
      have ackToo : (bridge.performDeed now (.takenOut answer.serial)).locks.ack.id = .ack := ack
      have received := sendAckIf_eq_deeds ackToo answer.1.type.ackExpected now
      rw [onAnswer_of_known known waiting, finish_eq_deeds, deedsFor, waiting]
      simp only [List.cons_append, List.append_assoc]
      rw [performDeeds, List.foldl_cons, ← performDeeds, performDeeds_append, ← received, taken]
      exact (reordered_withDetector _ _).performDeeds now _

/-- Other attempts wait as before. -/
theorem find?_onAnswer {bridge : Bridge χ} {answer : Answer}
    (known : answer.1.code ≠ .requestNotSupported) {serial : Serial}
    (other : serial ≠ answer.serial) (now : Instant) :
    (bridge.onAnswer answer.1 answer.2 now).pending.find? serial = bridge.pending.find? serial := by
  cases waiting : bridge.pending.find? answer.serial with
  | none => rw [(sameRequests_onAnswer_of_stale waiting answer.2 now).pending]
  | some attempt =>
      rw [onAnswer_of_known known waiting, (settles_finish _ attempt _ now).pending,
        pending_answered]
      exact PendingTable.find?_erase_of_ne _ other

theorem outcomes_onAnswer {bridge : Bridge χ} {answer : Answer}
    (known : answer.1.code ≠ .requestNotSupported) (now : Instant) :
    (bridge.onAnswer answer.1 answer.2 now).outcomes =
      bridge.outcomes ++ (bridge.pending.told answer).toList := by
  cases waiting : bridge.pending.find? answer.serial with
  | none =>
      have same := sameRequests_onAnswer_of_stale waiting answer.2 now
      rw [same.outcomes, PendingTable.told, waiting]
      exact (List.append_nil _).symm
  | some attempt =>
      rw [onAnswer_of_known known waiting, (settles_finish _ attempt _ now).outcomes,
        outcomes_answered, PendingTable.told, waiting]
      rfl

theorem collision_onAnswer_of_known {bridge : Bridge χ} {answer : Answer}
    (known : answer.1.code ≠ .requestNotSupported) (now : Instant) :
    (bridge.onAnswer answer.1 answer.2 now).collision = bridge.collision := by
  cases waiting : bridge.pending.find? answer.serial with
  | none => exact (sameRequests_onAnswer_of_stale waiting answer.2 now).collision
  | some attempt =>
      rw [onAnswer_of_known known waiting, (settles_finish _ attempt _ now).collision]
      exact (sameRequests_answered bridge attempt answer.1 now).collision

/-! ## Lists of answers -/

/-- The first answer of a list is dealt with, then the others. -/
theorem handleEach_answers_cons {bridge : Bridge χ} (sound : bridge.collision = none)
    (now : Instant) (answer : Answer) (rest : List Answer) :
    bridge.handleEach now ((answer :: rest).map Answer.event) =
      (bridge.onAnswer answer.1 answer.2 now).handleEach now (rest.map Answer.event) := by
  have handled : bridge.handle now answer.event = bridge.onAnswer answer.1 answer.2 now :=
    handle_of_sound sound now answer.event
  rw [List.map_cons, handleEach, List.foldl_cons, handled]
  rfl

/-- A bridge whose serials collided does nothing about any events. -/
theorem handleEach_of_collided {bridge : Bridge χ} (collided : bridge.collision.isSome = true)
    (now : Instant) (events : List Event) : bridge.handleEach now events = bridge := by
  induction events with
  | nil => rfl
  | cons event rest ih =>
      have handled : bridge.handle now event = bridge := if_pos collided
      rw [handleEach, List.foldl_cons, handled]
      exact ih

/-- A table says the same of all these answers as the one of the bridge. -/
def Foresees (table : PendingTable) (bridge : Bridge χ) (answers : List Answer) : Prop :=
  ∀ answer ∈ answers, bridge.pending.find? answer.serial = table.find? answer.serial

/-- What a table says of answers under distinct serials holds still when the first is dealt with. -/
theorem Foresees.tail {table : PendingTable} {bridge : Bridge χ} {answer : Answer}
    {rest : List Answer} (foresees : Foresees table bridge (answer :: rest))
    (distinct : ((answer :: rest).map Answer.serial).Nodup)
    (known : answer.1.code ≠ .requestNotSupported) (now : Instant) :
    Foresees table (bridge.onAnswer answer.1 answer.2 now) rest := by
  intro later member
  have other : later.serial ≠ answer.serial := by
    intro same
    have first := (List.nodup_cons.mp distinct).1
    exact first (List.mem_map.mpr ⟨later, member, same⟩)
  rw [find?_onAnswer known other]
  exact foresees later (List.mem_cons_of_mem answer member)

/-- What is done about answers under distinct serials is what can be read off the table as it was
before them. -/
theorem reordered_answers {table : PendingTable} {now : Instant} {answers : List Answer}
    {first second : Bridge χ} (same : Reordered first second) (sound : second.collision = none)
    (ack : second.locks.ack.id = .ack)
    (known : ∀ answer ∈ answers, answer.1.code ≠ .requestNotSupported)
    (distinct : (answers.map Answer.serial).Nodup) (foresees : Foresees table second answers) :
    Reordered (first.performDeeds now (answers.flatMap (deedsFor now table)))
      (second.handleEach now (answers.map Answer.event)) := by
  induction answers generalizing first second with
  | nil => exact same
  | cons answer rest ih =>
      have here := known answer List.mem_cons_self
      have deeds : deedsFor now table answer = deedsFor now second.pending answer := by
        rw [deedsFor, deedsFor, foresees answer List.mem_cons_self]
      have next : Reordered (first.performDeeds now (deedsFor now table answer))
          (second.onAnswer answer.1 answer.2 now) := by
        rw [deeds]
        exact (same.performDeeds now _).trans (reordered_onAnswer ack here now)
      have soundNext := (collision_onAnswer_of_known here now).trans sound
      have made := WakeLocks.ids_of_make (timely_onAnswer second answer.1 answer.2 now).make
      rw [List.flatMap_cons, performDeeds_append, handleEach_answers_cons sound]
      exact ih next soundNext (made.2.trans ack)
        (fun later member => known later (List.mem_cons_of_mem answer member))
        (List.nodup_cons.mp distinct).2 (foresees.tail distinct here now)

/-- Each answer tells the outcome that can be read off the table as it was before all of them. -/
theorem outcomes_answers {table : PendingTable} {now : Instant} {answers : List Answer}
    {bridge : Bridge χ} (sound : bridge.collision = none)
    (known : ∀ answer ∈ answers, answer.1.code ≠ .requestNotSupported)
    (distinct : (answers.map Answer.serial).Nodup) (foresees : Foresees table bridge answers) :
    (bridge.handleEach now (answers.map Answer.event)).outcomes =
      bridge.outcomes ++ answers.filterMap table.told := by
  induction answers generalizing bridge with
  | nil => exact (List.append_nil _).symm
  | cons answer rest ih =>
      have here := known answer List.mem_cons_self
      have told : bridge.pending.told answer = table.told answer := by
        rw [PendingTable.told, PendingTable.told, foresees answer List.mem_cons_self]
      have later := ih ((collision_onAnswer_of_known here now).trans sound)
        (fun later member => known later (List.mem_cons_of_mem answer member))
        (List.nodup_cons.mp distinct).2 (foresees.tail distinct here now)
      rw [outcomes_onAnswer here, told, List.append_assoc] at later
      rw [handleEach_answers_cons sound]
      apply later.trans
      cases entry : table.told answer <;> simp [entry]

/-- In every run, whatever channel the acknowledgements go to: answers under distinct serials, none
of which says that a version is not known, may come in any order.  Each tells the caller of the
attempt that waits under its serial the same outcome, if there is one, and no one else anything.
The bridge ends the same, with the same table, versions, source of serials, locks, timers and
totals, but for what its detector makes of the order.  Both locks are taken and given back as often,
and as many acknowledgements are sent; what is done but for news of the fault status is the same, in
another order. -/
theorem answers_in_any_order (config : BridgeConfig) (serials : SerialSource) (channel : χ)
    (calls : List (Call χ)) (now : Instant) {answers others : List Answer}
    (perm : answers.Perm others) (distinct : (answers.map Answer.serial).Nodup)
    (known : ∀ answer ∈ answers, answer.1.code ≠ .requestNotSupported) :
    let bridge := (new config serials channel).run calls
    let first := bridge.handleEach now (answers.map Answer.event)
    let second := bridge.handleEach now (others.map Answer.event)
    { second with detector := first.detector, journal := first.journal } = first ∧
    (bridge.collision = none →
      first.outcomes = bridge.outcomes ++ answers.filterMap bridge.pending.told ∧
      second.outcomes = bridge.outcomes ++ others.filterMap bridge.pending.told) ∧
    (∀ lock, second.history.count (.lockTaken lock) = first.history.count (.lockTaken lock) ∧
      second.history.count (.lockGivenBack lock) = first.history.count (.lockGivenBack lock)) ∧
    (∀ accepted, second.history.count (.acknowledged accepted) =
      first.history.count (.acknowledged accepted)) ∧
    first.unjudged.Perm second.unjudged := by
  intro bridge first second
  have distinctToo : (others.map Answer.serial).Nodup := (perm.map _).nodup_iff.mp distinct
  have knownToo : ∀ answer ∈ others, answer.1.code ≠ .requestNotSupported :=
    fun answer member => known answer (perm.mem_iff.mpr member)
  have foresees : ∀ answers, Foresees bridge.pending bridge answers := fun _ _ _ => rfl
  have reordered : Reordered first second := by
    cases sound : bridge.collision with
    | some attempt =>
        have collided : bridge.collision.isSome = true := by
          rw [sound]
          rfl
        simp only [first, second, handleEach_of_collided collided]
        exact .refl bridge
    | none =>
        have made := WakeLocks.ids_of_make (make_run (new config serials channel) calls)
        have deeds := performDeeds_perm bridge now
          (perm.flatMap_right (deedsFor now bridge.pending))
        have one : Reordered (bridge.performDeeds now
            (answers.flatMap (deedsFor now bridge.pending))) first :=
          reordered_answers (.refl bridge) sound made.2 known distinct (foresees answers)
        have two : Reordered (bridge.performDeeds now
            (others.flatMap (deedsFor now bridge.pending))) second :=
          reordered_answers (.refl bridge) sound made.2 knownToo distinctToo (foresees others)
        exact (one.symm.trans deeds).trans two
  refine ⟨reordered.same, ?_, ?_, ?_, reordered.effects⟩
  · intro sound
    exact ⟨outcomes_answers sound known distinct (foresees answers),
      outcomes_answers sound knownToo distinctToo (foresees others)⟩
  · exact fun lock => ⟨reordered.count rfl, reordered.count rfl⟩
  · exact fun accepted => reordered.count rfl

/-- Two requests wait.  The modem sends an answer that nothing waits for, fails one of the requests
and answers the other, asking for an acknowledgement; or it does so in the opposite order. -/
theorem answers_in_any_order_reversed :
    let calls := [.batch [.submit ⟨⟨1⟩, .sendSms, .empty, .unknown, 0, 7⟩,
      .submit ⟨⟨2⟩, .getSignalStrength, .empty, .unknown, 0, 8⟩] 0]
    let sent : Answer := ((AnswerHeader.plain ⟨1⟩ .sendSms .success).withAckExpected, .empty)
    let failed : Answer := (.plain ⟨2⟩ .getSignalStrength .internalError, .empty)
    let stale : Answer := (.plain ⟨9⟩ .sendSms .success, .empty)
    let bridge := (new {} (.start 3) ({} : RecordingChannel)).run calls
    let first := bridge.handleEach 5 ([stale, failed, sent].map Answer.event)
    let second := bridge.handleEach 5 ([sent, failed, stale].map Answer.event)
    first.outcomes.map Prod.fst = [8, 7] ∧ second.outcomes = first.outcomes.reverse ∧
      second.locks.primary.isHeld = false ∧ second.ackTimer = some ⟨.ack, 1, 200005⟩ ∧
      second.history.count (.acknowledged true) = 1 := by
  intro calls sent failed stale bridge first second
  obtain ⟨same, outcomes, -, acknowledged, -⟩ := answers_in_any_order {} (.start 3)
    ({} : RecordingChannel) calls 5
    (show [stale, failed, sent].Perm [sent, failed, stale] by decide) (by decide) (by decide)
  have lock := congrArg (fun bridge => bridge.locks.primary.isHeld) same
  have timer := congrArg Bridge.ackTimer same
  obtain ⟨earlier, later⟩ := outcomes (by decide +kernel)
  constructor
  · rw [earlier]
    decide +kernel
  · rw [later, earlier]
    exact ⟨by decide +kernel, lock.trans (by decide +kernel), timer.trans (by decide +kernel),
      (acknowledged true).trans (by decide +kernel)⟩

end

end Bridge

end ModemLink
