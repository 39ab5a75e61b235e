/-
Module: ModemLink.Proofs.Workday
Purpose: A modem at work, step after step, and what its counters count.
Main exports:
  ModemStep, requestsOf, ModemWorker.perform, performAll, collect, onRequest_cases, counted,
  counted_requests, ModemProfile.isAbove, isSwallowed, isDisowned, refusals_classified
-/
import ModemLink.Modem.Worker
import ModemLink.Proofs.Accounts
import ModemLink.Proofs.Verdict

namespace ModemLink

/-!
A modem takes commands and looks at its queue, in whatever order chance and the line bring.  Each of
its counters counts something that can be read off the steps: `collect` lists what a view shows of
them on the way, and a counter that goes up in each step by what its view shows has the length of
the list in the end.
-/

/-- One step of a modem at work: a command that it takes, or a look at its queue. -/
inductive ModemStep where
  | request (request : Outbound) (roll : Roll) (now : Instant)
  | indicate (indication : Indication)
  | crash
  | deliver (now : Instant)
deriving DecidableEq

namespace ModemStep

/-- The request that a step takes. -/
def request? : ModemStep → Option Outbound
  | request taken _ _ => some taken
  | indicate _ | crash | deliver _ => none

/-- The instant that a step reads off the clock. -/
def instant? : ModemStep → Option Instant
  | request _ _ now | deliver now => some now
  | indicate _ | crash => none

end ModemStep

/-- The requests that some steps take, in order. -/
def requestsOf (steps : List ModemStep) : List Outbound :=
  steps.filterMap ModemStep.request?

namespace ModemWorker

/-! ## Steps -/

/-- Do one step: what goes to the bridge, and the modem afterwards. -/
def perform (worker : ModemWorker) : ModemStep → List Event × ModemWorker
  | .request request roll now => worker.onRequest request roll now
  | .indicate indication => worker.onIndicate indication
  | .crash => ([], worker.crash)
  | .deliver now => worker.deliverDue now

/-- Do some steps. -/
def performAll (worker : ModemWorker) (steps : List ModemStep) : ModemWorker :=
  steps.foldl (fun worker step => (worker.perform step).2) worker

/-- What a view shows of some steps on the way. -/
def collect {α : Type} (view : ModemWorker → ModemStep → List α) (worker : ModemWorker) :
    List ModemStep → List α
  | [] => []
  | step :: rest => view worker step ++ collect view (worker.perform step).2 rest

/-! ## What a request does -/

/-- The books once a request was counted and its arrival was acknowledged. -/
def arrived (worker : ModemWorker) (request : Outbound) : ModemWorker :=
  ((worker.count request.kind).acknowledge request.serial).2

section

variable (worker : ModemWorker) (request : Outbound)

/-- Besides the counters of arrivals, nothing changes before the modem reacts. -/
theorem arrived_eq :
    worker.arrived request =
      { worker with
        stats := { worker.stats with
          requests := worker.stats.requests + 1
          perKind :=
            worker.stats.perKind.set request.kind (worker.stats.perKind.get request.kind + 1)
          requestAcks :=
            worker.stats.requestAcks + if worker.profile.requestAcks then 1 else 0 } } := by
  cases acks : worker.profile.requestAcks <;> simp [arrived, acknowledge, count, acks]

/-- All that a modem sends at once is that the request arrived. -/
theorem events_onRequest (roll : Roll) (now : Instant) :
    (worker.onRequest request roll now).1 =
      if worker.profile.requestAcks then [.requestAck request.serial] else [] := by
  have sent : (worker.onRequest request roll now).1 =
      ((worker.count request.kind).acknowledge request.serial).1 := by
    unfold onRequest
    dsimp only
    split <;> rfl
  rw [sent, acknowledge, count]
  split <;> rfl

/-- A request is counted as ignored, or its answer is scheduled. -/
theorem onRequest_cases (roll : Roll) (now : Instant) :
    (worker.profile.react request.kind request.version = .ignore ∧
      (worker.onRequest request roll now).2 =
        { worker.arrived request with
          stats := { (worker.arrived request).stats with
            ignored := (worker.arrived request).stats.ignored + 1 } }) ∨
    ∃ code, worker.profile.react request.kind request.version = .respond code ∧
      (worker.onRequest request roll now).2 =
        (worker.arrived request).schedule request code roll now := by
  have same : (worker.arrived request).profile = worker.profile := by rw [arrived_eq]
  unfold onRequest
  cases reacts : worker.profile.react request.kind request.version with
  | ignore =>
      refine .inl ⟨rfl, ?_⟩
      simp only [arrived] at same ⊢
      simp only [same, reacts]
  | respond code =>
      refine .inr ⟨code, rfl, ?_⟩
      simp only [arrived] at same ⊢
      simp only [same, reacts]

end

/-- A modem does not change its ways. -/
@[simp] theorem profile_perform (worker : ModemWorker) (step : ModemStep) :
    (worker.perform step).2.profile = worker.profile := by
  cases step with
  | request request roll now =>
      rcases worker.onRequest_cases request roll now with ⟨-, after⟩ | ⟨code, -, after⟩
      · simp only [perform, after, arrived_eq]
      · simp only [perform, after, arrived_eq, schedule]
  | indicate | crash | deliver => rfl

@[simp] theorem profile_performAll (worker : ModemWorker) (steps : List ModemStep) :
    (worker.performAll steps).profile = worker.profile := by
  induction steps generalizing worker with
  | nil => rfl
  | cons step rest ih => exact (ih _).trans (worker.profile_perform step)

/-! ## Counters -/

/-- A counter that goes up in each step by what a view shows counts what the view shows. -/
theorem counted {α : Type} (counter : ModemStats → Nat) {view : ModemWorker → ModemStep → List α}
    (each : ∀ (worker : ModemWorker) (step : ModemStep),
      counter (worker.perform step).2.stats = counter worker.stats + (view worker step).length)
    (worker : ModemWorker) (steps : List ModemStep) :
    counter (worker.performAll steps).stats =
      counter worker.stats + (worker.collect view steps).length := by
  induction steps generalizing worker with
  | nil => rfl
  | cons step rest ih =>
      calc counter (worker.performAll (step :: rest)).stats
        _ = counter (worker.perform step).2.stats +
            ((worker.perform step).2.collect view rest).length := ih _
        _ = counter worker.stats + (worker.collect view (step :: rest)).length := by
          rw [each, collect, List.length_append, Nat.add_assoc]

/-- A counter of the requests that satisfy a condition on them and the profile. -/
theorem counted_requests (counter : ModemStats → Nat) (p : ModemProfile → Outbound → Bool)
    (each : ∀ (worker : ModemWorker) (step : ModemStep),
      counter (worker.perform step).2.stats =
        counter worker.stats + if step.request?.any (p worker.profile) then 1 else 0)
    (worker : ModemWorker) (steps : List ModemStep) :
    counter (worker.performAll steps).stats =
      counter worker.stats + (requestsOf steps).countP (p worker.profile) := by
  induction steps generalizing worker with
  | nil => rfl
  | cons step rest ih =>
      have later := ih (worker.perform step).2
      rw [profile_perform, each, Nat.add_assoc] at later
      refine later.trans (congrArg (counter worker.stats + ·) ?_)
      cases taken : step.request? with
      | none => simp [requestsOf, List.filterMap_cons_none taken]
      | some request =>
          have more : requestsOf (step :: rest) = request :: requestsOf rest :=
            List.filterMap_cons_some taken
          rw [more, List.countP_cons, Nat.add_comm]
          rfl

theorem requests_performAll (worker : ModemWorker) (steps : List ModemStep) :
    (worker.performAll steps).stats.requests =
      worker.stats.requests + (requestsOf steps).length := by
  have each := counted_requests ModemStats.requests (fun _ _ => true) ?_ worker steps
  · rwa [List.countP_true] at each
  · intro worker step
    cases step with
    | request request roll now =>
        rcases worker.onRequest_cases request roll now with ⟨-, after⟩ | ⟨code, -, after⟩
        · simp [perform, after, arrived_eq, ModemStep.request?]
        · simp [perform, after, arrived_eq, schedule, ModemStep.request?]
    | indicate | crash | deliver => rfl

/-- The requests are counted kind by kind. -/
theorem perKind_performAll (worker : ModemWorker) (steps : List ModemStep) (kind : RequestKind) :
    (worker.performAll steps).stats.perKind.get kind =
      worker.stats.perKind.get kind + (requestsOf steps).countP (·.kind = kind) := by
  refine counted_requests (fun stats => stats.perKind.get kind)
    (fun _ request => request.kind = kind) ?_ worker steps
  intro worker step
  cases step with
  | request request roll now =>
      have one : (worker.arrived request).stats.perKind.get kind =
          worker.stats.perKind.get kind + if request.kind = kind then 1 else 0 := by
        rw [arrived_eq, RequestKind.Table.get_set]
        by_cases own : kind = request.kind
        · simp [own]
        · simp [own, Ne.symm own]
      rcases worker.onRequest_cases request roll now with ⟨-, after⟩ | ⟨code, -, after⟩
      · simp [perform, after, one, ModemStep.request?]
      · simp [perform, after, schedule, one, ModemStep.request?]
  | indicate | crash | deliver => rfl

/-- Either every request is acknowledged, or none is. -/
theorem requestAcks_performAll (worker : ModemWorker) (steps : List ModemStep) :
    (worker.performAll steps).stats.requestAcks = worker.stats.requestAcks +
      if worker.profile.requestAcks then (requestsOf steps).length else 0 := by
  have each := counted_requests ModemStats.requestAcks (fun profile _ => profile.requestAcks) ?_
    worker steps
  · rw [each]
    cases worker.profile.requestAcks <;> simp
  · intro worker step
    cases step with
    | request request roll now =>
        have one : (worker.arrived request).stats.requestAcks =
            worker.stats.requestAcks + if worker.profile.requestAcks then 1 else 0 := by
          rw [arrived_eq]
        rcases worker.onRequest_cases request roll now with ⟨-, after⟩ | ⟨code, -, after⟩
        · rw [perform, after]
          exact one
        · rw [perform, after]
          exact one
    | indicate | crash | deliver => rfl

theorem ignored_performAll (worker : ModemWorker) (steps : List ModemStep) :
    (worker.performAll steps).stats.ignored = worker.stats.ignored +
      (requestsOf steps).countP fun request =>
        worker.profile.react request.kind request.version = .ignore := by
  refine counted_requests ModemStats.ignored
    (fun profile request => profile.react request.kind request.version = .ignore) ?_ worker steps
  intro worker step
  cases step with
  | request request roll now =>
      rcases worker.onRequest_cases request roll now with ⟨reacts, after⟩ | ⟨code, reacts, after⟩
      · simp [perform, after, arrived_eq, ModemStep.request?, reacts]
      · simp [perform, after, arrived_eq, schedule, ModemStep.request?, reacts]
  | indicate | crash | deliver => rfl

/-- A refusal is counted by the code of the answer. -/
theorem refusedVersions_performAll (worker : ModemWorker) (steps : List ModemStep) :
    (worker.performAll steps).stats.refusedVersions = worker.stats.refusedVersions +
      (requestsOf steps).countP fun request =>
        worker.profile.react request.kind request.version = .respond .requestNotSupported := by
  refine counted_requests ModemStats.refusedVersions
    (fun profile request =>
      profile.react request.kind request.version = .respond .requestNotSupported) ?_ worker steps
  intro worker step
  cases step with
  | request request roll now =>
      rcases worker.onRequest_cases request roll now with ⟨reacts, after⟩ | ⟨code, reacts, after⟩
      · simp [perform, after, arrived_eq, ModemStep.request?, reacts]
      · simp [perform, after, arrived_eq, schedule, ModemStep.request?, reacts,
          AnswerCode.isNotSupported_iff]
  | indicate | crash | deliver => rfl

end ModemWorker

/-! ## Refusals -/

namespace ModemProfile

/-- Whether a request came at a version above what the modem speaks. -/
def isAbove (profile : ModemProfile) (request : Outbound) : Bool :=
  profile.maxVersionFor request.kind < request.version

/-- Whether a request came at a version that the modem speaks, and is of a kind that it does not
answer. -/
def isSwallowed (profile : ModemProfile) (request : Outbound) : Bool :=
  request.version ≤ profile.maxVersionFor request.kind ∧ profile.silent.get request.kind

/-- Whether a request came at a version that the modem speaks, and is answered as if it did not: the
kind has this refusal for its error. -/
def isDisowned (profile : ModemProfile) (request : Outbound) : Bool :=
  request.version ≤ profile.maxVersionFor request.kind ∧
    profile.silent.get request.kind = false ∧
      profile.errors.get request.kind = some .requestNotSupported

theorem react_eq_ignore_iff {profile : ModemProfile} {request : Outbound} :
    profile.react request.kind request.version = .ignore ↔ profile.isSwallowed request := by
  rcases profile.react_cases request.kind request.version with ⟨above, reacts⟩ |
    ⟨known, silent, reacts⟩ | ⟨known, talks, reacts⟩
  · have unspoken : ¬ request.version ≤ profile.maxVersionFor request.kind :=
      Nat.not_le_of_lt above
    simp [reacts, isSwallowed, unspoken]
  · simp [reacts, isSwallowed, known, silent]
  · simp [reacts, isSwallowed, talks]

theorem react_eq_refuse_iff {profile : ModemProfile} {request : Outbound} :
    profile.react request.kind request.version = .respond .requestNotSupported ↔
      profile.isAbove request ∨ profile.isDisowned request := by
  rcases profile.react_cases request.kind request.version with ⟨above, reacts⟩ |
    ⟨known, silent, reacts⟩ | ⟨known, talks, reacts⟩
  · simp [reacts, isAbove, above]
  · have below : ¬ profile.maxVersionFor request.kind < request.version := Nat.not_lt_of_le known
    simp [reacts, isAbove, isDisowned, silent, below]
  · have below : ¬ profile.maxVersionFor request.kind < request.version := Nat.not_lt_of_le known
    have spoken : ((profile.errors.get request.kind).getD .success = .requestNotSupported) ↔
        profile.errors.get request.kind = some .requestNotSupported := by
      cases profile.errors.get request.kind with
      | none => simp [AnswerCode.success, AnswerCode.requestNotSupported]
      | some code => simp
    simp [reacts, isAbove, isDisowned, known, talks, below, spoken]

theorem not_isAbove_of_isDisowned {profile : ModemProfile} {request : Outbound}
    (disowned : profile.isDisowned request) : profile.isAbove request = false := by
  simp only [isDisowned, decide_eq_true_eq] at disowned
  exact decide_eq_false (Nat.not_lt_of_le disowned.1)

end ModemProfile

namespace ModemWorker

/-- Whatever a new modem has done: the requests that count as ignored are those at a version that it
speaks and of a kind that it does not answer.  Those that count as refused are the ones above what
it speaks, and besides them those that it disowns, at a version that it does speak: a refusal is
told by the code of the answer, and that code may be the error of a kind.  So just where no such
request came, exactly the requests above what the modem speaks count as refused. -/
theorem refusals_classified (profile : ModemProfile) (steps : List ModemStep) :
    let stats := ((new profile).performAll steps).stats
    let requests := requestsOf steps
    stats.ignored = requests.countP profile.isSwallowed ∧
    stats.refusedVersions =
      requests.countP profile.isAbove + requests.countP profile.isDisowned ∧
    (stats.refusedVersions = requests.countP profile.isAbove ↔
      ∀ request ∈ requests, request.version ≤ profile.maxVersionFor request.kind →
        profile.silent.get request.kind = false →
          profile.errors.get request.kind ≠ some .requestNotSupported) := by
  intro stats requests
  have ignored : stats.ignored = requests.countP profile.isSwallowed := by
    refine (ignored_performAll (new profile) steps).trans ((Nat.zero_add _).trans ?_)
    apply List.countP_congr
    intro request _
    rw [decide_eq_true_iff]
    exact ModemProfile.react_eq_ignore_iff
  have refused : stats.refusedVersions =
      requests.countP profile.isAbove + requests.countP profile.isDisowned := by
    refine (refusedVersions_performAll (new profile) steps).trans ((Nat.zero_add _).trans ?_)
    rw [List.countP_eq_countP_filter_add _ _ profile.isAbove, List.countP_filter,
      List.countP_filter]
    congr 1
    · apply List.countP_congr
      intro request _
      rw [Bool.and_eq_true, decide_eq_true_iff]
      exact and_iff_right_of_imp fun above => ModemProfile.react_eq_refuse_iff.mpr (.inl above)
    · apply List.countP_congr
      intro request _
      rw [Bool.and_eq_true, decide_eq_true_iff, Bool.not_eq_true', Bool.eq_false_iff]
      constructor
      · rintro ⟨reacts, below⟩
        exact (ModemProfile.react_eq_refuse_iff.mp reacts).resolve_left below
      · intro disowned
        exact ⟨ModemProfile.react_eq_refuse_iff.mpr (.inr disowned),
          Bool.eq_false_iff.mp (ModemProfile.not_isAbove_of_isDisowned disowned)⟩
  refine ⟨ignored, refused, ?_⟩
  rw [refused, Nat.add_eq_left, List.countP_eq_zero]
  simp [ModemProfile.isDisowned]

/-- A profile that makes sense may have the refusal of a version for the error of a kind: then a
request at a version that the modem speaks counts as refused because of its version. -/
theorem refused_at_spoken_version :
    let profile : ModemProfile :=
      { errors := RequestKind.Table.set (.const none) .sendSms (some .requestNotSupported) }
    let request : Outbound := ⟨⟨1⟩, .sendSms, ⟨1, 6⟩, .empty, .unknown⟩
    let stats := ((new profile).performAll [.request request ⟨false, 0⟩ 0]).stats
    profile.validate = .ok () ∧ request.version ≤ profile.maxVersionFor request.kind ∧
      stats.refusedVersions = 1 ∧ [request].countP profile.isAbove = 0 := by
  exact ⟨if_pos (by decide +kernel), by decide +kernel, by decide +kernel, by decide +kernel⟩

end ModemWorker

end ModemLink
