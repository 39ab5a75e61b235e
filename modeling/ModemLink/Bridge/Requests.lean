/-
Module: ModemLink.Bridge.Requests
Purpose: Issuing requests, and retrying them at lower versions.
Main exports: dispatch, offer, retreat, issue, fallBack, submit
-/
import ModemLink.Bridge.Basic

namespace ModemLink.Bridge

/-!
A request that the channel refuses at one version is retried at the next rung below, so `issue` calls
itself.  A refusal leaves the table of versions alone and a retreat lowers it, which bounds the number
of attempts: each is made at a strictly lower version than the one before.
-/

variable {χ : Type}

/-- The modem does not know an attempt's version: lower its kind.  The next attempt is returned if a
version is left; otherwise the request fails as unsupported. -/
def retreat (bridge : Bridge χ) (attempt : Attempt) (failed : Version) (now : Instant) :
    Option Attempt × Bridge χ :=
  match bridge.versions.stepDown attempt.kind failed with
  | (.retry version, versions) =>
    match bridge.serials.take with
    | (serial, serials) =>
      (some (attempt.reissue serial version now),
        { bridge with
          versions := versions
          serials := serials
          totals := { bridge.totals with fallbacks := bridge.totals.fallbacks + 1 } }.measure
            (.fallback attempt.kind failed version))
  | (.exhausted, versions) =>
    (none, { bridge with versions := versions }.finish attempt
      (.failed (.unsupported attempt.kind)) now)

theorem versions_of_retreat_eq_some {bridge after : Bridge χ} {attempt next : Attempt}
    {failed : Version} {now : Instant}
    (h : bridge.retreat attempt failed now = (some next, after)) :
    next.kind = attempt.kind ∧ after.versions = bridge.versions.lower attempt.kind failed := by
  unfold retreat at h
  split at h
  · rename_i hStep
    simp only [Prod.mk.injEq, Option.some.injEq] at h
    obtain ⟨rfl, rfl⟩ := h
    exact ⟨rfl, (congrArg Prod.snd hStep).symm⟩
  · simp at h

section

variable [Channel χ]

/-- Hand an attempt to the channel at the version of its kind. -/
def dispatch (bridge : Bridge χ) (attempt : Attempt) : Dispatch × Bridge χ :=
  match bridge.versions.dispatch bridge.channel attempt.serial attempt.kind attempt.payload
      attempt.origin with
  | (result, channel, effects) => (result, { bridge with channel := channel }.emit effects)

/-- Put an attempt into the table with a reference to the primary lock, and hand it to the channel.
If the channel refuses the version, the attempt is taken out again and returned with that version;
in every other case it is dealt with. -/
def offer (bridge : Bridge χ) (attempt : Attempt) (now : Instant) :
    Option (Attempt × Version) × Bridge χ :=
  let bridge := bridge.acquireLock now
  let attempt := { attempt with holdsLock := true }
  match bridge.pending.insert? attempt with
  | none => (none, { bridge with collision := some attempt })
  | some pending =>
    match { bridge with pending := pending }.dispatch attempt with
    | (.sent version, bridge) =>
      (none, { bridge with totals := { bridge.totals with sent := bridge.totals.sent + 1 } }.measure
        (.submitted attempt.kind version))
    | (.failed (.versionUnsupported version), bridge) =>
      (some (attempt, version), { bridge with pending := bridge.pending.erase attempt.serial })
    | (.failed (.unavailable _), bridge) =>
      (none, { bridge with pending := bridge.pending.erase attempt.serial }.finish attempt
        (.failed (.channelUnavailable attempt.kind)) now)
    | (.noUsableVersion, bridge) =>
      (none, { bridge with pending := bridge.pending.erase attempt.serial }.finish attempt
        (.failed (.unsupported attempt.kind)) now)

theorem versions_of_dispatch_versionUnsupported {bridge after : Bridge χ} {attempt : Attempt}
    {version : Version}
    (h : bridge.dispatch attempt = (.failed (.versionUnsupported version), after)) :
    bridge.versions.current attempt.kind = some version ∧ after.versions = bridge.versions := by
  unfold dispatch VersionTable.dispatch at h
  cases current : bridge.versions.current attempt.kind with
  | none => simp [current] at h
  | some used =>
    simp only [current, Prod.mk.injEq] at h
    obtain ⟨reply, rfl⟩ := h
    refine ⟨?_, rfl⟩
    revert reply
    generalize (Channel.send bridge.channel _).1 = answered
    cases answered <;> simp [Dispatch.ofReply]

theorem versions_of_offer_eq_some {bridge after : Bridge χ} {attempt refused : Attempt}
    {version : Version} {now : Instant}
    (h : bridge.offer attempt now = (some (refused, version), after)) :
    refused = { attempt with holdsLock := true }
      ∧ bridge.versions.current attempt.kind = some version
      ∧ after.versions = bridge.versions := by
  unfold offer at h
  simp only at h
  split at h
  · simp at h
  · split at h
    · simp at h
    · rename_i hDispatch
      simp only [Prod.mk.injEq, Option.some.injEq] at h
      obtain ⟨⟨rfl, rfl⟩, rfl⟩ := h
      obtain ⟨hCurrent, hVersions⟩ := versions_of_dispatch_versionUnsupported hDispatch
      simp only [versions_acquireLock] at hCurrent hVersions
      exact ⟨rfl, hCurrent, hVersions⟩
    · simp at h
    · simp at h

/-- Issue an attempt.  While the channel refuses its version, try again one rung lower; the retry
takes its own reference to the primary lock before the refused attempt drops its own. -/
def issue (bridge : Bridge χ) (attempt : Attempt) (now : Instant) : Bridge χ :=
  match _offered : bridge.offer attempt now with
  | (none, bridge) => bridge
  | (some (refused, version), bridge) =>
    match _retreated : bridge.retreat refused version now with
    | (none, bridge) => bridge
    | (some next, bridge) => (bridge.issue next now).releaseIf refused.holdsLock now
termination_by bridge.versions.height attempt.kind
decreasing_by
  obtain ⟨hRefused, hCurrent, hOffer⟩ := versions_of_offer_eq_some _offered
  obtain ⟨hKind, hRetreat⟩ := versions_of_retreat_eq_some _retreated
  rw [hKind, hRetreat, hOffer, hRefused]
  exact VersionTable.height_lower_lt hCurrent

/-- Retry an attempt below a version that the modem does not know, or fail it as unsupported. -/
def fallBack (bridge : Bridge χ) (attempt : Attempt) (failed : Version) (now : Instant) :
    Bridge χ :=
  match bridge.retreat attempt failed now with
  | (none, bridge) => bridge
  | (some next, bridge) => (bridge.issue next now).releaseIf attempt.holdsLock now

/-- A new request: issued at its kind's version, or failed at once if its kind has none. -/
def submit (bridge : Bridge χ) (submission : Submission) (now : Instant) : Bridge χ :=
  match bridge.versions.current submission.kind with
  | some version => bridge.issue (.ofSubmission submission version now) now
  | none =>
    let outcome := .failed (.unsupported submission.kind)
    (bridge.recordOutcome submission.kind outcome 0).emit [.settled submission.ticket outcome]

end

end ModemLink.Bridge
