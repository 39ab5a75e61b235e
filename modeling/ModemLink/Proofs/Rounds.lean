/-
Module: ModemLink.Proofs.Rounds
Purpose: How often a request is issued anew before it waits or fails.
Main exports: issueWithin, reactWithin, issueWithin_eq, reactWithin_maxRungs
-/
import ModemLink.Proofs.Ceiling

namespace ModemLink.Bridge

/-!
`issue` goes on as long as the channel refuses versions.  Each round is at a rung below that of the
round before, so that a ladder bounds their number: a request that may be issued only so many times
is dealt with in the same way.
-/

variable {χ : Type} [Channel χ]

/-- Issue an attempt, unless that takes more rounds than are left. -/
def issueWithin : Nat → Bridge χ → Attempt → Instant → Option (Bridge χ)
  | 0, _, _, _ => none
  | rounds + 1, bridge, attempt, now =>
    match bridge.offer attempt now with
    | (none, after) => some after
    | (some (refused, version), after) =>
      match after.retreat refused version now with
      | (none, after) => some after
      | (some next, after) =>
        (issueWithin rounds after next now).map (·.releaseIf refused.holdsLock now)

/-- Retry an attempt, unless that takes more rounds than are left. -/
def fallBackWithin (rounds : Nat) (bridge : Bridge χ) (attempt : Attempt) (failed : Version)
    (now : Instant) : Option (Bridge χ) :=
  match bridge.retreat attempt failed now with
  | (none, after) => some after
  | (some next, after) =>
    (after.issueWithin rounds next now).map (·.releaseIf attempt.holdsLock now)

/-- A new request, unless it takes more rounds than are left. -/
def submitWithin (rounds : Nat) (bridge : Bridge χ) (submission : Submission) (now : Instant) :
    Option (Bridge χ) :=
  match bridge.versions.current submission.kind with
  | some version => bridge.issueWithin rounds (.ofSubmission submission version now) now
  | none => some (bridge.submit submission now)

/-- An answer, unless a retry takes more rounds than are left. -/
def onAnswerWithin (rounds : Nat) (bridge : Bridge χ) (header : AnswerHeader) (payload : Payload)
    (now : Instant) : Option (Bridge χ) :=
  match bridge.pending.find? header.serial with
  | none => some (bridge.onAnswer header payload now)
  | some attempt =>
    if header.code.isNotSupported then
      (bridge.answered attempt header now).fallBackWithin rounds attempt attempt.version now
    else
      some (bridge.onAnswer header payload now)

/-- What a bridge does with one event, unless a request takes more rounds than are left. -/
def reactWithin (rounds : Nat) (bridge : Bridge χ) (now : Instant) : Event → Option (Bridge χ)
  | .submit submission => bridge.submitWithin rounds submission now
  | .answer header payload => bridge.onAnswerWithin rounds header payload now
  | event => some (bridge.react now event)

/-- An attempt at the version of its kind takes at most one round for each rung below it, and one
more. -/
theorem issueWithin_eq {rounds : Nat} (bridge : Bridge χ) (attempt : Attempt) (now : Instant)
    (spoken : bridge.versions.current attempt.kind = some attempt.version)
    (room : attempt.kind.ladder.rungsBelow attempt.version < rounds) :
    bridge.issueWithin rounds attempt now = some (bridge.issue attempt now) := by
  fun_induction issue bridge attempt now generalizing rounds with
  | case1 bridge attempt after dealt =>
      obtain ⟨left, rfl⟩ := Nat.exists_eq_add_one_of_ne_zero (Nat.ne_zero_of_lt room)
      simp only [issueWithin, dealt]
  | case2 bridge attempt refused version middle refusal after retreated =>
      obtain ⟨left, rfl⟩ := Nat.exists_eq_add_one_of_ne_zero (Nat.ne_zero_of_lt room)
      simp only [issueWithin, refusal, retreated]
  | case3 bridge attempt refused version middle refusal next retried retreated ih =>
      obtain ⟨left, rfl⟩ := Nat.exists_eq_add_one_of_ne_zero (Nat.ne_zero_of_lt room)
      simp only [issueWithin, refusal, retreated]
      obtain ⟨pending, channel, -, -, rfl, rfl, rfl⟩ := offer_eq_some spoken refusal
      obtain ⟨lower, next_eq, rfl, rfl⟩ := retreat_eq_some retreated
      have spokenLower := current_retrying next_eq
      rw [versions_handOver] at next_eq
      obtain ⟨rung, below⟩ := VersionTable.next_of_current spoken next_eq
      have fewer : attempt.kind.ladder.rungsBelow lower < left :=
        Nat.lt_of_lt_of_le (Ladder.rungsBelow_lt below rung) (Nat.le_of_lt_succ room)
      rw [ih spokenLower fewer, Option.map_some]

/-- An attempt at a rung takes at most as many rounds as the longest ladder has rungs. -/
theorem issueWithin_maxRungs (bridge : Bridge χ) (attempt : Attempt) (now : Instant)
    (spoken : bridge.versions.current attempt.kind = some attempt.version)
    (rung : attempt.version ∈ attempt.kind.ladder.rungs) :
    bridge.issueWithin RequestKind.maxRungs attempt now = some (bridge.issue attempt now) :=
  issueWithin_eq bridge attempt now spoken
    (Nat.lt_of_lt_of_le (Ladder.rungsBelow_lt_length rung) attempt.kind.length_rungs_le)

/-- So does the retry of an attempt, whatever its kind fell to since it was issued. -/
theorem fallBackWithin_maxRungs {cap : Option Version} {bridge : Bridge χ}
    (spoken : ∀ kind current, bridge.versions.current kind = some current →
      current ∈ kind.ladder.rungs ∧ VersionTable.Allows cap current)
    (attempt : Attempt) (failed : Version) (now : Instant) :
    bridge.fallBackWithin RequestKind.maxRungs attempt failed now =
      some (bridge.fallBack attempt failed now) := by
  unfold fallBackWithin fallBack
  cases retreated : bridge.retreat attempt failed now with
  | mk retry after =>
      cases retry with
      | none => rfl
      | some next =>
          obtain ⟨lower, next_eq, rfl, rfl⟩ := retreat_eq_some retreated
          obtain ⟨rung, -⟩ := VersionTable.next_allowed (spoken attempt.kind) next_eq
          have dealt := issueWithin_maxRungs (bridge.retrying attempt.kind failed lower)
            (attempt.reissue bridge.serials.take.1 lower now) now (current_retrying next_eq) rung
          simp only [dealt, Option.map_some]

theorem submitWithin_maxRungs {cap : Option Version} {bridge : Bridge χ}
    (orderly : Orderly cap bridge) (submission : Submission) (now : Instant) :
    bridge.submitWithin RequestKind.maxRungs submission now =
      some (bridge.submit submission now) := by
  cases spoken : bridge.versions.current submission.kind with
  | none => simp only [submitWithin, spoken]
  | some version =>
      simp only [submitWithin, submit, spoken]
      exact issueWithin_maxRungs bridge (.ofSubmission submission version now) now spoken
        (orderly.spoken submission.kind version spoken).1

theorem onAnswerWithin_maxRungs {cap : Option Version} {bridge : Bridge χ}
    (orderly : Orderly cap bridge) (header : AnswerHeader) (payload : Payload) (now : Instant) :
    bridge.onAnswerWithin RequestKind.maxRungs header payload now =
      some (bridge.onAnswer header payload now) := by
  cases waiting : bridge.pending.find? header.serial with
  | none => simp only [onAnswerWithin, waiting]
  | some attempt =>
      simp only [onAnswerWithin, waiting]
      split
      · rename_i unknown
        have spoken := orderly.spoken
        rw [← (sameRequests_answered bridge attempt header now).versions] at spoken
        rw [onAnswer_of_waiting waiting, if_pos unknown]
        exact fallBackWithin_maxRungs spoken attempt attempt.version now
      · rfl

/-- Every event is dealt with in at most as many rounds as the longest ladder has rungs. -/
theorem reactWithin_maxRungs {cap : Option Version} {bridge : Bridge χ}
    (orderly : Orderly cap bridge) (now : Instant) (event : Event) :
    bridge.reactWithin RequestKind.maxRungs now event = some (bridge.react now event) := by
  cases event with
  | submit submission => exact submitWithin_maxRungs orderly submission now
  | answer header payload => exact onAnswerWithin_maxRungs orderly header payload now
  | requestAck | indication | channelLost | channelRestarted | listenIndications | listenStatus
  | shutdown => rfl

end ModemLink.Bridge
