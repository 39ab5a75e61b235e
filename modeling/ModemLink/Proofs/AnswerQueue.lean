/-
Module: ModemLink.Proofs.AnswerQueue
Purpose: What becomes of the requests that reach a modem, and in which order it answers them.
Main exports:
  ScheduledAnswer.of, ScheduledAnswer.IsFor, sentBy, lostBy, Balanced, accounted_performAll,
  sorted_performAll, ordered_performAll, requests_accounted_for
-/
import Mathlib.Algebra.Order.Group.Multiset
import Mathlib.Data.List.TakeWhile
import ModemLink.Proofs.OrderedFront
import ModemLink.Proofs.Workday

namespace ModemLink

/-!
A request that reaches a modem is ignored, or an answer to it is put into the queue.  There it stays
until it is sent, or lost in a crash.  `accounted_performAll` follows the answers as they are, with
all their contents, so that none is sent twice and none comes from nowhere.  The queue is sorted at
all times; and as long as time does not run backwards, what is put into it is due no earlier than
anything that has left it, so that the answers go out in the order in which they are due.
-/

/-! ## Answers -/

namespace ScheduledAnswer

/-- The answer to a request, as it is scheduled. -/
def of (request : Outbound) (code : AnswerCode) (roll : Roll) (now : Instant) :
    ScheduledAnswer where
  due := now + roll.latency
  header :=
    let header := AnswerHeader.plain request.serial request.kind code
    if roll.ackExpected then header.withAckExpected else header
  payload := if code.isSuccess then request.payload else ByteArray.empty

/-- This is how a modem with such a profile answers the request. -/
structure IsFor (answer : ScheduledAnswer) (profile : ModemProfile) (request : Outbound) :
    Prop where
  serial : answer.header.serial = request.serial
  kind : answer.header.kind = request.kind
  code : profile.react request.kind request.version = .respond answer.header.code
  payload : answer.payload =
    if answer.header.code.isSuccess then request.payload else ByteArray.empty

theorem isFor_of {profile : ModemProfile} {request : Outbound} {code : AnswerCode} (roll : Roll)
    (now : Instant) (reacts : profile.react request.kind request.version = .respond code) :
    (of request code roll now).IsFor profile request := by
  cases wanted : roll.ackExpected <;>
    exact ⟨by simp [of, wanted, AnswerHeader.plain, AnswerHeader.withAckExpected],
      by simp [of, wanted, AnswerHeader.plain, AnswerHeader.withAckExpected],
      by simp [of, wanted, AnswerHeader.plain, AnswerHeader.withAckExpected, reacts],
      by simp [of, wanted, AnswerHeader.plain, AnswerHeader.withAckExpected]⟩

/-- The answer as it reaches the bridge. -/
def event (answer : ScheduledAnswer) : Event :=
  .answer answer.header answer.payload

end ScheduledAnswer

/-- The answer that a step of a modem with such a profile schedules. -/
def ModemStep.scheduled? (profile : ModemProfile) : ModemStep → Option ScheduledAnswer
  | request taken roll now =>
    match profile.react taken.kind taken.version with
    | .ignore => none
    | .respond code => some (.of taken code roll now)
  | indicate _ | crash | deliver _ => none

theorem ModemStep.isFor_of_scheduled {profile : ModemProfile} {step : ModemStep}
    {answer : ScheduledAnswer} (scheduled : step.scheduled? profile = some answer) :
    ∃ request, step.request? = some request ∧ answer.IsFor profile request := by
  cases step with
  | request request roll now =>
      cases reacts : profile.react request.kind request.version with
      | ignore => simp [scheduled?, reacts] at scheduled
      | respond code =>
          simp only [scheduled?, reacts, Option.some.injEq] at scheduled
          exact ⟨request, rfl, scheduled ▸ ScheduledAnswer.isFor_of roll now reacts⟩
  | indicate | crash | deliver => cases scheduled

/-- The answers that some steps schedule bear serials of requests, each at most once. -/
theorem serials_scheduled (profile : ModemProfile) (steps : List ModemStep) :
    ((steps.filterMap (ModemStep.scheduled? profile)).map (·.header.serial)).Sublist
      ((requestsOf steps).map (·.serial)) := by
  induction steps with
  | nil => exact .refl _
  | cons step rest ih =>
      cases scheduled : step.scheduled? profile with
      | none =>
          rw [List.filterMap_cons_none scheduled]
          exact ih.trans (((List.sublist_cons_self step rest).filterMap _).map _)
      | some answer =>
          obtain ⟨request, taken, isFor⟩ := ModemStep.isFor_of_scheduled scheduled
          rw [List.filterMap_cons_some scheduled, requestsOf, List.filterMap_cons_some taken,
            List.map_cons, List.map_cons, isFor.serial]
          exact ih.cons_cons _

namespace ModemWorker

/-! ## The queue -/

theorem perm_insert (answer : ScheduledAnswer) (queue : List ScheduledAnswer) :
    (insert answer queue).Perm (answer :: queue) := by
  induction queue with
  | nil => exact .refl _
  | cons first rest ih =>
      rw [insert]
      split
      · exact (ih.cons first).trans (.swap answer first rest)
      · exact .refl _

/-- The earliest due comes first. -/
def Sorted (queue : List ScheduledAnswer) : Prop :=
  queue.Pairwise fun earlier later => earlier.due ≤ later.due

theorem sorted_insert (answer : ScheduledAnswer) {queue : List ScheduledAnswer}
    (sorted : Sorted queue) : Sorted (insert answer queue) := by
  induction queue with
  | nil => exact List.pairwise_singleton _ _
  | cons first rest ih =>
      obtain ⟨least, sortedRest⟩ := List.pairwise_cons.mp sorted
      rw [insert]
      split
      case isTrue before =>
        refine List.pairwise_cons.mpr ⟨?_, ih sortedRest⟩
        intro other member
        rcases List.mem_cons.mp ((perm_insert answer rest).mem_iff.mp member) with rfl | later
        · exact before
        · exact least other later
      case isFalse after =>
        have earlier : answer.due ≤ first.due := Nat.le_of_not_le after
        refine List.pairwise_cons.mpr ⟨?_, sorted⟩
        intro other member
        rcases List.mem_cons.mp member with rfl | later
        · exact earlier
        · exact Nat.le_trans earlier (least other later)

theorem due_of_ahead {now : Instant} (earlier later : ScheduledAnswer)
    (ahead : earlier.due ≤ later.due) (due : decide (later.due ≤ now) = true) :
    decide (earlier.due ≤ now) = true :=
  decide_eq_true (Nat.le_trans ahead (of_decide_eq_true due))

/-- In a sorted queue the answers that are due stand in front. -/
theorem takeWhile_due {queue : List ScheduledAnswer} (sorted : Sorted queue) (now : Instant) :
    queue.takeWhile (·.due ≤ now) = queue.filter (·.due ≤ now) :=
  Ordered.takeWhile_eq_filter sorted due_of_ahead

/-- And those that are not stay. -/
theorem dropWhile_due {queue : List ScheduledAnswer} (sorted : Sorted queue) (now : Instant) :
    ∀ answer ∈ queue.dropWhile (·.due ≤ now), now < answer.due := by
  intro answer member
  rw [Ordered.dropWhile_eq_filter sorted due_of_ahead] at member
  simpa using (List.mem_filter.mp member).2

/-! ## What leaves the queue -/

/-- The answers that a step sends. -/
def sentBy (worker : ModemWorker) : ModemStep → List ScheduledAnswer
  | .deliver now => worker.queue.takeWhile (·.due ≤ now)
  | .request _ _ _ | .indicate _ | .crash => []

/-- The answers that are lost in a step. -/
def lostBy (worker : ModemWorker) : ModemStep → List ScheduledAnswer
  | .crash => worker.queue
  | .request _ _ _ | .indicate _ | .deliver _ => []

/-- What a request puts into the queue. -/
theorem queue_onRequest (worker : ModemWorker) (request : Outbound) (roll : Roll) (now : Instant) :
    (worker.onRequest request roll now).2.queue =
      match (ModemStep.request request roll now).scheduled? worker.profile with
      | some answer => insert answer worker.queue
      | none => worker.queue := by
  rcases worker.onRequest_cases request roll now with ⟨reacts, after⟩ | ⟨code, reacts, after⟩
  · simp only [after, arrived_eq, ModemStep.scheduled?, reacts]
  · simp only [after, arrived_eq, schedule, ModemStep.scheduled?, reacts]
    rfl

/-- Among the events of a step the answers are those that it sends. -/
theorem answers_perform (worker : ModemWorker) (step : ModemStep) :
    (worker.perform step).1.filter (fun event => event matches .answer _ _) =
      (worker.sentBy step).map ScheduledAnswer.event := by
  cases step with
  | request request roll now =>
      rw [perform, events_onRequest]
      split <;> rfl
  | indicate | crash => rfl
  | deliver now =>
      apply List.filter_eq_self.mpr
      intro event member
      obtain ⟨answer, -, rfl⟩ := List.mem_map.mp member
      rfl

/-- One step: what was in the queue or is put into it is sent, lost, or in it afterwards. -/
theorem accounted_perform (worker : ModemWorker) (step : ModemStep) :
    (worker.sentBy step ++ worker.lostBy step ++ (worker.perform step).2.queue).Perm
      ((step.scheduled? worker.profile).toList ++ worker.queue) := by
  cases step with
  | request request roll now =>
      show (worker.onRequest request roll now).2.queue.Perm _
      rw [queue_onRequest]
      cases (ModemStep.request request roll now).scheduled? worker.profile with
      | none => exact .refl _
      | some answer => exact perm_insert answer worker.queue
  | indicate => exact .refl _
  | crash =>
      show (worker.queue ++ []).Perm worker.queue
      rw [List.append_nil]
  | deliver now =>
      show ((worker.queue.takeWhile _ ++ []) ++ worker.queue.dropWhile _).Perm worker.queue
      rw [List.append_nil, List.takeWhile_append_dropWhile]

/-- What leaves a stock in one step and in the others, when `new` and `more` come into it. -/
theorem perm_step {α : Type} {sent lost stock new before sentLater lostLater after more : List α}
    (first : (sent ++ lost ++ stock).Perm (new ++ before))
    (later : (sentLater ++ lostLater ++ after).Perm (more ++ stock)) :
    ((sent ++ sentLater) ++ (lost ++ lostLater) ++ after).Perm ((new ++ more) ++ before) := by
  simp only [← Multiset.coe_eq_coe, ← Multiset.coe_add] at first later ⊢
  calc (sent + sentLater + (lost + lostLater) + after : Multiset α)
    _ = sent + lost + (sentLater + lostLater + after) := by rw [add_add_add_comm, add_assoc]
    _ = more + (sent + lost + stock) := by rw [later, add_left_comm]
    _ = new + more + before := by rw [first, add_left_comm, add_assoc]

/-- Some steps: every answer that was in the queue or was put into it is sent, lost, or in it still,
and is so once. -/
theorem accounted_performAll (worker : ModemWorker) (steps : List ModemStep) :
    (worker.collect sentBy steps ++ worker.collect lostBy steps ++
      (worker.performAll steps).queue).Perm
        (steps.filterMap (ModemStep.scheduled? worker.profile) ++ worker.queue) := by
  induction steps generalizing worker with
  | nil => exact .refl _
  | cons step rest ih =>
      have first := worker.accounted_perform step
      have later := ih (worker.perform step).2
      rw [profile_perform] at later
      have split : (step :: rest).filterMap (ModemStep.scheduled? worker.profile) =
          (step.scheduled? worker.profile).toList ++
            rest.filterMap (ModemStep.scheduled? worker.profile) := by
        cases scheduled : step.scheduled? worker.profile with
        | none => exact List.filterMap_cons_none scheduled
        | some answer => exact List.filterMap_cons_some scheduled
      rw [split]
      exact perm_step first later

/-- Among the events of some steps the answers are those that the steps send, in this order. -/
theorem answers_performAll (worker : ModemWorker) (steps : List ModemStep) :
    (worker.collect (fun worker step => (worker.perform step).1) steps).filter
        (fun event => event matches .answer _ _) =
      (worker.collect sentBy steps).map ScheduledAnswer.event := by
  induction steps generalizing worker with
  | nil => rfl
  | cons step rest ih =>
      simp only [collect, List.filter_append, List.map_append, answers_perform, ih]

/-- The answers that were sent are counted. -/
theorem responses_performAll (worker : ModemWorker) (steps : List ModemStep) :
    (worker.performAll steps).stats.responses =
      worker.stats.responses + (worker.collect sentBy steps).length := by
  refine counted ModemStats.responses (fun worker step => ?_) worker steps
  cases step with
  | request request roll now =>
      rcases worker.onRequest_cases request roll now with ⟨-, after⟩ | ⟨code, -, after⟩
      · simp [perform, after, arrived_eq, sentBy]
      · simp [perform, after, arrived_eq, schedule, sentBy]
  | indicate | crash | deliver => rfl

/-! ## The balance of the counters -/

/-- Every request that came is counted where it ended, or its answer waits. -/
def Balanced (worker : ModemWorker) : Prop :=
  worker.stats.requests = worker.stats.ignored + worker.stats.responses +
    worker.stats.droppedByCrash + worker.queue.length

theorem balanced_perform {worker : ModemWorker} (balanced : worker.Balanced) (step : ModemStep) :
    (worker.perform step).2.Balanced := by
  unfold Balanced at balanced ⊢
  cases step with
  | request request roll now =>
      rcases worker.onRequest_cases request roll now with ⟨-, after⟩ | ⟨code, -, after⟩
      · simp only [perform, after, arrived_eq]
        omega
      · have longer := (perm_insert (.of request code roll now) worker.queue).length_eq
        rw [List.length_cons] at longer
        rw [perform, after, arrived_eq]
        show worker.stats.requests + 1 = worker.stats.ignored + worker.stats.responses +
          worker.stats.droppedByCrash + (insert (.of request code roll now) worker.queue).length
        omega
  | indicate => exact balanced
  | crash =>
      simp only [perform, ModemWorker.crash, List.length_nil]
      omega
  | deliver now =>
      have parts := congrArg List.length
        (List.takeWhile_append_dropWhile (p := fun answer => answer.due ≤ now) (l := worker.queue))
      rw [List.length_append] at parts
      simp only [perform, deliverDue]
      omega

theorem balanced_performAll {worker : ModemWorker} (balanced : worker.Balanced)
    (steps : List ModemStep) : (worker.performAll steps).Balanced := by
  induction steps generalizing worker with
  | nil => exact balanced
  | cons step rest ih => exact ih (balanced_perform balanced step)

/-! ## The order of the answers -/

theorem sorted_perform {worker : ModemWorker} (sorted : Sorted worker.queue) (step : ModemStep) :
    Sorted (worker.perform step).2.queue := by
  cases step with
  | request request roll now =>
      rw [perform, queue_onRequest]
      split
      · exact sorted_insert _ sorted
      · exact sorted
  | indicate => exact sorted
  | crash => exact .nil
  | deliver now => exact sorted.sublist (List.dropWhile_sublist _)

theorem sorted_performAll {worker : ModemWorker} (sorted : Sorted worker.queue)
    (steps : List ModemStep) : Sorted (worker.performAll steps).queue := by
  induction steps generalizing worker with
  | nil => exact sorted
  | cons step rest ih => exact ih (sorted_perform sorted step)

/-- What was sent was due by `clock`, and stands in order with what is in the queue. -/
structure InOrder (worker : ModemWorker) (sent : List ScheduledAnswer) (clock : Instant) :
    Prop where
  sorted : Sorted (sent ++ worker.queue)
  due : ∀ answer ∈ sent, answer.due ≤ clock

/-- A step at or after the clock keeps the order. -/
theorem InOrder.perform {worker : ModemWorker} {sent : List ScheduledAnswer} {clock : Instant}
    (inOrder : worker.InOrder sent clock) (step : ModemStep)
    (inTime : ∀ now ∈ step.instant?, clock ≤ now) :
    (worker.perform step).2.InOrder (sent ++ worker.sentBy step) (step.instant?.getD clock) := by
  obtain ⟨sentSorted, queueSorted, across⟩ := List.pairwise_append.mp inOrder.sorted
  cases step with
  | request request roll now =>
      have passed : clock ≤ now := inTime now rfl
      rw [sentBy, List.append_nil]
      refine ⟨List.pairwise_append.mpr
        ⟨sentSorted, sorted_perform queueSorted (.request request roll now), ?_⟩,
        fun answer member => Nat.le_trans (inOrder.due answer member) passed⟩
      -- A new answer is due at its instant or later, and what was sent was due by then.
      intro earlier before later member
      rw [ModemWorker.perform, queue_onRequest] at member
      cases scheduled : (ModemStep.request request roll now).scheduled? worker.profile with
      | none =>
          rw [scheduled] at member
          exact across earlier before later member
      | some answer =>
          rw [scheduled] at member
          rcases List.mem_cons.mp ((perm_insert answer worker.queue).mem_iff.mp member) with
            rfl | waited
          · refine Nat.le_trans (inOrder.due earlier before) (Nat.le_trans passed ?_)
            simp only [ModemStep.scheduled?] at scheduled
            split at scheduled
            · cases scheduled
            · cases scheduled
              exact Nat.le_add_right now roll.latency
          · exact across earlier before later waited
  | indicate =>
      rw [sentBy, List.append_nil]
      exact ⟨inOrder.sorted, inOrder.due⟩
  | crash =>
      rw [sentBy, List.append_nil]
      exact ⟨(List.append_nil sent).symm ▸ sentSorted, inOrder.due⟩
  | deliver now =>
      have passed : clock ≤ now := inTime now rfl
      constructor
      · show Sorted (sent ++ worker.queue.takeWhile _ ++ worker.queue.dropWhile _)
        rw [List.append_assoc, List.takeWhile_append_dropWhile]
        exact inOrder.sorted
      · intro answer member
        rcases List.mem_append.mp member with before | leaves
        · exact Nat.le_trans (inOrder.due answer before) passed
        · rw [sentBy] at leaves
          have due := List.mem_takeWhile_imp leaves
          exact of_decide_eq_true due

/-- As long as time does not run backwards the answers go out in the order in which they are due,
and before those that still wait. -/
theorem ordered_performAll {worker : ModemWorker} {sent : List ScheduledAnswer} {clock : Instant}
    (inOrder : worker.InOrder sent clock) {steps : List ModemStep}
    (inTime : (clock :: steps.filterMap ModemStep.instant?).Pairwise (· ≤ ·)) :
    Sorted (sent ++ worker.collect sentBy steps ++ (worker.performAll steps).queue) := by
  induction steps generalizing worker sent clock with
  | nil =>
      rw [collect, List.append_nil]
      exact inOrder.sorted
  | cons step rest ih =>
      rw [collect, ← List.append_assoc]
      cases reads : step.instant? with
      | none =>
          rw [List.filterMap_cons_none reads] at inTime
          have next := inOrder.perform step (by simp [reads])
          rw [reads] at next
          exact ih next inTime
      | some now =>
          rw [List.filterMap_cons_some reads] at inTime
          obtain ⟨later, inTimeRest⟩ := List.pairwise_cons.mp inTime
          have next := inOrder.perform step (by
            intro read same
            rw [reads] at same
            exact Option.some.inj same ▸ later now List.mem_cons_self)
          rw [reads] at next
          exact ih next inTimeRest

/-! ## Requests and their answers -/

theorem balanced_new (profile : ModemProfile) : (new profile).Balanced := rfl

theorem sorted_new (profile : ModemProfile) : Sorted (new profile).queue := .nil

theorem inOrder_new (profile : ModemProfile) : (new profile).InOrder [] 0 :=
  ⟨.nil, fun _ member => absurd member List.not_mem_nil⟩

/-- The answers that were sent and those that wait bear the serials of requests. -/
theorem nodup_serials (profile : ModemProfile) {steps : List ModemStep}
    (distinct : ((requestsOf steps).map (·.serial)).Nodup) :
    (((new profile).collect sentBy steps ++ ((new profile).performAll steps).queue).map
      (·.header.serial)).Nodup := by
  have accounted := (new profile).accounted_performAll steps
  have scheduled := (serials_scheduled profile steps).nodup distinct
  have all := (accounted.map (·.header.serial)).nodup_iff.mpr (by simpa [new] using scheduled)
  refine all.sublist (List.Sublist.map _ ?_)
  exact (List.sublist_append_left _ _).append (.refl _)

/-- What waits in the queue answers a request that came. -/
theorem exists_request_of_queued (profile : ModemProfile) {steps : List ModemStep}
    {answer : ScheduledAnswer} (queued : answer ∈ ((new profile).performAll steps).queue) :
    ∃ request ∈ requestsOf steps, answer.IsFor profile request := by
  have accounted := (new profile).accounted_performAll steps
  have scheduled := accounted.mem_iff.mp (List.mem_append_right _ queued)
  rw [new, List.append_nil] at scheduled
  obtain ⟨step, among, schedules⟩ := List.mem_filterMap.mp scheduled
  obtain ⟨request, taken, isFor⟩ := ModemStep.isFor_of_scheduled schedules
  exact ⟨request, List.mem_filterMap.mpr ⟨step, among, taken⟩, isFor⟩

/-- Whatever a new modem does, of any profile, as long as the requests that reach it have different
serials and time does not run backwards.  Every request is counted once and under its kind; it was
ignored, was answered, lost its answer in a crash, or its answer waits; and it was acknowledged if
the modem does that.  What waits answers one request and no other, just as the profile has it, and
no request is answered twice.  The answers that reach the bridge go out in the order in which they
are due: each time the modem looks at its queue it sends all that are due, and keeps the others. -/
theorem requests_accounted_for (profile : ModemProfile) (steps : List ModemStep)
    (distinct : ((requestsOf steps).map (·.serial)).Nodup)
    (inTime : (steps.filterMap ModemStep.instant?).Pairwise (· ≤ ·)) :
    let modem := (new profile).performAll steps
    let stats := modem.stats
    let events := (new profile).collect (fun worker step => (worker.perform step).1) steps
    let answered := (new profile).collect sentBy steps
    (stats.requests = (requestsOf steps).length ∧ stats.responses = answered.length ∧
      stats.requests =
        stats.ignored + stats.responses + stats.droppedByCrash + modem.queue.length) ∧
    (RequestKind.all.map stats.perKind.get).sum = stats.requests ∧
    stats.requestAcks = (if profile.requestAcks then stats.requests else 0) ∧
    (∀ answer ∈ modem.queue,
      ∃! request, request ∈ requestsOf steps ∧ answer.IsFor profile request) ∧
    ((answered ++ modem.queue).map (·.header.serial)).Nodup ∧
    events.filter (fun event => event matches .answer _ _) = answered.map ScheduledAnswer.event ∧
    answered.Pairwise (fun earlier later => earlier.due ≤ later.due) ∧
    ∀ earlier now later, steps = earlier ++ .deliver now :: later →
      let before := (new profile).performAll earlier
      (before.perform (.deliver now)).1 =
        (before.queue.filter (·.due ≤ now)).map ScheduledAnswer.event ∧
      ∀ answer ∈ (before.perform (.deliver now)).2.queue, now < answer.due := by
  intro modem stats events answered
  have requests : stats.requests = (requestsOf steps).length :=
    (requests_performAll (new profile) steps).trans (Nat.zero_add _)
  have responses : stats.responses = answered.length :=
    (responses_performAll (new profile) steps).trans (Nat.zero_add _)
  have balanced : modem.Balanced := balanced_performAll (balanced_new profile) steps
  have kinds : (RequestKind.all.map stats.perKind.get).sum = stats.requests := by
    rw [requests, ← List.countP_true]
    refine sum_kinds (fun request : Outbound => some request.kind) (by simp) ?_
    intro kind
    refine (perKind_performAll (new profile) steps kind).trans ?_
    simp [new, List.countP_eq_length_filter]
  have acks : stats.requestAcks = if profile.requestAcks then stats.requests else 0 := by
    rw [requests]
    exact (requestAcks_performAll (new profile) steps).trans (Nat.zero_add _)
  have ordered : Sorted (answered ++ modem.queue) :=
    ordered_performAll (inOrder_new profile)
      (List.pairwise_cons.mpr ⟨fun _ _ => Nat.zero_le _, inTime⟩)
  refine ⟨⟨requests, responses, balanced⟩, kinds, acks, ?_, nodup_serials profile distinct,
    answers_performAll _ steps, (List.pairwise_append.mp ordered).1, ?_⟩
  · intro answer queued
    obtain ⟨request, came, isFor⟩ := exists_request_of_queued profile queued
    refine ⟨request, ⟨came, isFor⟩, ?_⟩
    rintro other ⟨otherCame, otherFor⟩
    exact List.inj_on_of_nodup_map distinct otherCame came
      (otherFor.serial.symm.trans isFor.serial)
  · rintro earlier now later -
    have sorted : Sorted ((new profile).performAll earlier).queue :=
      sorted_performAll (sorted_new profile) earlier
    refine ⟨?_, dropWhile_due sorted now⟩
    show (List.takeWhile _ _).map _ = _
    rw [takeWhile_due sorted]
    rfl

/-- One of five requests is ignored, two are answered, the later first as it is due earlier, one is
lost in a crash, and the refusal of the last waits. -/
theorem requests_accounted_for_around_crash :
    let profile : ModemProfile :=
      { maxVersion := ⟨1, 4⟩, silent := RequestKind.Table.set (.const false) .sendSms true,
        requestAcks := true }
    let ask : UInt32 → RequestKind → Version → Outbound := fun serial kind version =>
      ⟨⟨serial⟩, kind, version, .empty, .unknown⟩
    let steps : List ModemStep :=
      [.request (ask 1 .getSimStatus ⟨1, 0⟩) ⟨false, 300⟩ 0,
        .request (ask 2 .sendSms ⟨1, 0⟩) ⟨false, 9⟩ 5,
        .request (ask 3 .getSignalStrength ⟨1, 4⟩) ⟨true, 100⟩ 50, .deliver 400,
        .request (ask 4 .getSimStatus ⟨1, 2⟩) ⟨false, 700⟩ 400, .crash,
        .request (ask 5 .getSignalStrength ⟨1, 6⟩) ⟨false, 100⟩ 500, .deliver 599]
    let modem := (new profile).performAll steps
    let answered := (new profile).collect sentBy steps
    modem.stats.requests = 5 ∧ modem.stats.requestAcks = 5 ∧ modem.stats.ignored = 1 ∧
      modem.stats.responses = 2 ∧ modem.stats.droppedByCrash = 1 ∧
      modem.queue.map (·.header) = [.plain ⟨5⟩ .getSignalStrength .requestNotSupported] ∧
      answered.map (·.header.serial) = [⟨3⟩, ⟨1⟩] ∧
      answered.Pairwise (fun earlier later => earlier.due ≤ later.due) := by
  intro profile ask steps modem answered
  obtain ⟨⟨requests, responses, -⟩, -, acks, -, -, -, ordered, -⟩ :=
    requests_accounted_for profile steps (by decide +kernel) (by decide +kernel)
  have sent : answered.map (·.header.serial) = [⟨3⟩, ⟨1⟩] := by decide +kernel
  have waits : modem.queue.map (·.header) =
      [.plain ⟨5⟩ .getSignalStrength .requestNotSupported] := by decide +kernel
  exact ⟨requests.trans (by decide +kernel), acks.trans (by decide +kernel), by decide +kernel,
    responses.trans (by decide +kernel), by decide +kernel, waits, sent, ordered⟩

end ModemWorker

end ModemLink
