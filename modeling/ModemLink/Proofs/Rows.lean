/-
Module: ModemLink.Proofs.Rows
Purpose: The rows that a fault detector counts, read off the history of its signs.
Main exports:
  Sign.endsStreak, Sign.endsTimeouts, signsSince, streakIn, timeoutsIn, FaultDetector.counted,
  FaultDetector.lockTimeouts_of_history, FaultDetector.streak_of_history,
  FaultDetector.snapshot_of_history
-/
import Mathlib.Data.List.DropRight
import ModemLink.Proofs.Books
import ModemLink.Proofs.OrderedFront

namespace ModemLink

/-!
A detector counts as it goes: it lengthens a row, starts it anew, and drops timeouts from the front
of their row when another sign comes.  What it has counted can be read off the whole history of its
signs instead.  A row is what came since the last sign that ends it; and of the timeouts in their
row those count that lie in the window before the last sign with an instant.  That dropping from the
front leaves just these rests on the signs coming in the order of their instants.
-/

/-! ## Rows in a history -/

/-- Whether a timeout at an instant still counts at another one. -/
def DetectorConfig.isRecent (config : DetectorConfig) (now instant : Instant) : Bool :=
  match config.lockTimeoutWindow with
  | none => true
  | some window => now.since instant ≤ window

/-- What counts at an instant counted before. -/
theorem DetectorConfig.isRecent_of_le {config : DetectorConfig} {earlier now instant : Instant}
    (before : earlier ≤ now) (recent : config.isRecent now instant = true) :
    config.isRecent earlier instant = true := by
  unfold isRecent at recent ⊢
  split
  · rfl
  · rename_i window set
    simp only [set, decide_eq_true_eq] at recent ⊢
    exact Nat.le_trans (Nat.sub_le_sub_right before instant) recent

namespace Sign

/-- The instant of a sign; a restart has none. -/
def instant? : Sign → Option Instant
  | lockTimeout now | answered _ _ now => some now
  | restarted => none

/-- Whether a sign is one more designated error for a kind. -/
def isError (config : DetectorConfig) (kind : RequestKind) : Sign → Bool
  | answered other code _ => other = kind ∧ code ∈ config.systemErrorCodes
  | lockTimeout _ | restarted => false

/-- Whether a sign ends the row of designated errors of a kind: any other answer for this kind does,
and so does a restart. -/
def endsStreak (config : DetectorConfig) (kind : RequestKind) : Sign → Bool
  | answered other code _ => other = kind ∧ code ∉ config.systemErrorCodes
  | restarted => true
  | lockTimeout _ => false

/-- Whether a sign ends the row of timeouts: a success for whatever kind does, unless it is a
designated error, and so does a restart. -/
def endsTimeouts (config : DetectorConfig) : Sign → Bool
  | answered _ code _ => code.isSuccess ∧ code ∉ config.systemErrorCodes
  | restarted => true
  | lockTimeout _ => false

end Sign

/-- The signs since the last one that ends a row. -/
def signsSince (ends : Sign → Bool) (signs : List Sign) : List Sign :=
  signs.rtakeWhile (!ends ·)

theorem signsSince_ended {ends : Sign → Bool} {sign : Sign} (ended : ends sign = true)
    (signs : List Sign) : signsSince ends (signs ++ [sign]) = [] :=
  List.rtakeWhile_concat_neg _ _ sign (by simp [ended])

theorem signsSince_going {ends : Sign → Bool} {sign : Sign} (going : ends sign = false)
    (signs : List Sign) :
    signsSince ends (signs ++ [sign]) = signsSince ends signs ++ [sign] :=
  List.rtakeWhile_concat_pos _ _ sign (by simp [going])

/-- The instant of the last sign that has one. -/
def lastInstant (signs : List Sign) : Instant :=
  (signs.filterMap Sign.instant?).getLast?.getD 0

/-- Length of the row of designated errors of a kind. -/
def streakIn (config : DetectorConfig) (kind : RequestKind) (signs : List Sign) : Nat :=
  (signsSince (Sign.endsStreak config kind) signs).countP (Sign.isError config kind)

/-- The instants of the timeouts since the last sign that ends a row, oldest first. -/
def timeoutsSince (ends : Sign → Bool) (signs : List Sign) : List Instant :=
  ((signsSince ends signs).filter Sign.isLockTimeout).filterMap Sign.instant?

/-- The timeouts that count, oldest first: those of their row that are recent at the last sign. -/
def timeoutsIn (config : DetectorConfig) (signs : List Sign) : List Instant :=
  (timeoutsSince (Sign.endsTimeouts config) signs).filter (config.isRecent (lastInstant signs))

/-- Signs that come in the order of their instants. -/
def InOrder (signs : List Sign) : Prop :=
  (signs.filterMap Sign.instant?).Pairwise (· ≤ ·)

instance (signs : List Sign) : Decidable (InOrder signs) :=
  inferInstanceAs (Decidable (List.Pairwise _ _))

theorem InOrder.left {signs more : List Sign} (ordered : InOrder (signs ++ more)) :
    InOrder signs := by
  rw [InOrder, List.filterMap_append] at ordered
  exact (List.pairwise_append.mp ordered).1

/-- All instants come before the one of a sign that comes last. -/
theorem InOrder.le_of_last {signs : List Sign} {sign : Sign} {now : Instant}
    (ordered : InOrder (signs ++ [sign])) (last : sign.instant? = some now) :
    ∀ instant ∈ signs.filterMap Sign.instant?, instant ≤ now := by
  rw [InOrder, List.filterMap_append] at ordered
  intro instant member
  exact (List.pairwise_append.mp ordered).2.2 instant member now (by simp [last])

theorem lastInstant_concat {sign : Sign} {now : Instant} (last : sign.instant? = some now)
    (signs : List Sign) : lastInstant (signs ++ [sign]) = now := by
  simp [lastInstant, last]

theorem lastInstant_le {signs : List Sign} {sign : Sign} {now : Instant}
    (ordered : InOrder (signs ++ [sign])) (last : sign.instant? = some now) :
    lastInstant signs ≤ now := by
  unfold lastInstant
  cases earlier : (signs.filterMap Sign.instant?).getLast? with
  | none => exact Nat.zero_le now
  | some instant => exact ordered.le_of_last last instant (List.mem_of_getLast? earlier)

/-- The timeouts in a row come in their order, at instants of signs. -/
theorem timeoutsSince_sublist (ends : Sign → Bool) (signs : List Sign) :
    (timeoutsSince ends signs).Sublist (signs.filterMap Sign.instant?) :=
  (List.filter_sublist.trans (List.rtakeWhile_suffix _ signs).sublist).filterMap _

/-! ## What a sign changes -/

namespace FaultDetector

variable (detector : FaultDetector)

/-- What a detector has counted under its settings. -/
def rows : DetectorConfig × List Instant × RequestKind.Table UInt32 :=
  (detector.config, detector.lockTimeouts, detector.streaks)

/-- The detector with its rows after a sign, before it judges them. -/
def counted : Sign → FaultDetector
  | .lockTimeout now =>
    { detector with lockTimeouts := detector.lockTimeouts ++ [now] }.prune now
  | .answered kind code now => (detector.countAnswer kind code).prune now
  | .restarted => { detector with lockTimeouts := [], streaks := .const 0 }

/-- To settle for a status is no counting. -/
theorem rows_settle (status : FaultStatus) : (detector.settle status).2.rows = detector.rows := by
  unfold settle
  split <;> rfl

theorem rows_after (sign : Sign) : (detector.after sign).rows = (detector.counted sign).rows := by
  cases sign with
  | lockTimeout | answered | restarted => exact rows_settle _ _

theorem lockTimeouts_after (sign : Sign) :
    (detector.after sign).lockTimeouts = (detector.counted sign).lockTimeouts :=
  congrArg (·.2.1) (detector.rows_after sign)

theorem streaks_after (sign : Sign) :
    (detector.after sign).streaks = (detector.counted sign).streaks :=
  congrArg (·.2.2) (detector.rows_after sign)

theorem config_prune (now : Instant) : (detector.prune now).config = detector.config := by
  unfold prune
  split <;> rfl

theorem streaks_prune (now : Instant) : (detector.prune now).streaks = detector.streaks := by
  unfold prune
  split <;> rfl

theorem config_countAnswer (kind : RequestKind) (code : AnswerCode) :
    (detector.countAnswer kind code).config = detector.config := by
  unfold countAnswer
  split <;> rfl

/-- From instants in order, dropping from the front drops all that left the window. -/
theorem dropWhile_of_window {instants : List Instant} (ordered : instants.Pairwise (· ≤ ·))
    (now : Instant) (window : Span) :
    instants.dropWhile (window < now.since ·) = instants.filter (now.since · ≤ window) := by
  have closed : ∀ first second : Instant, first ≤ second →
      decide (window < now.since second) = true → decide (window < now.since first) = true := by
    intro first second before left
    exact decide_eq_true
      (Nat.lt_of_lt_of_le (of_decide_eq_true left) (Nat.sub_le_sub_left before now))
  rw [Ordered.dropWhile_eq_filter ordered closed]
  apply List.filter_congr
  intro instant _
  rw [← decide_not, decide_eq_decide, Nat.not_lt]

variable {detector}

/-- From timeouts in order, those that still count are left. -/
theorem lockTimeouts_prune (ordered : detector.lockTimeouts.Pairwise (· ≤ ·)) (now : Instant) :
    (detector.prune now).lockTimeouts =
      detector.lockTimeouts.filter (detector.config.isRecent now) := by
  unfold prune
  cases set : detector.config.lockTimeoutWindow with
  | none =>
      have all : detector.config.isRecent now = fun _ => true := by
        funext instant
        rw [DetectorConfig.isRecent, set]
      rw [all, List.filter_true]
  | some window =>
      have recent : detector.config.isRecent now = fun instant => now.since instant ≤ window := by
        funext instant
        rw [DetectorConfig.isRecent, set]
      rw [recent]
      exact dropWhile_of_window ordered now window

theorem config_after (sign : Sign) : (detector.after sign).config = detector.config := by
  have counts : (detector.after sign).config = (detector.counted sign).config :=
    congrArg Prod.fst (detector.rows_after sign)
  rw [counts]
  cases sign with
  | lockTimeout now => exact config_prune _ now
  | answered kind code now =>
      exact (config_prune _ now).trans (detector.config_countAnswer kind code)
  | restarted => rfl

/-- Signs change no settings. -/
theorem config_afterAll (config : DetectorConfig) (signs : List Sign) :
    (signs.foldl after (new config)).config = config := by
  induction signs using List.reverseRecOn with
  | nil => rfl
  | append_singleton signs sign ih =>
      rw [List.foldl_concat, config_after, ih]

/-! ## The row of timeouts -/

theorem timeoutsIn_sublist (config : DetectorConfig) (signs : List Sign) :
    (timeoutsIn config signs).Sublist (signs.filterMap Sign.instant?) :=
  List.filter_sublist.trans (timeoutsSince_sublist _ signs)

/-- What counts at a sign among the timeouts that counted before is what counts of the whole row. -/
theorem filter_timeoutsIn (config : DetectorConfig) {signs : List Sign} {sign : Sign}
    {now : Instant} (ordered : InOrder (signs ++ [sign])) (last : sign.instant? = some now) :
    (timeoutsIn config signs).filter (config.isRecent now) =
      (timeoutsSince (Sign.endsTimeouts config) signs).filter (config.isRecent now) := by
  rw [timeoutsIn, List.filter_filter]
  apply List.filter_congr
  intro instant _
  cases recent : config.isRecent now instant with
  | false => rfl
  | true => simp [DetectorConfig.isRecent_of_le (lastInstant_le ordered last) recent]

/-- An answer that ends the row of timeouts empties it, and any other one leaves it. -/
theorem lockTimeouts_countAnswer (kind : RequestKind) (code : AnswerCode) (now : Instant) :
    (detector.countAnswer kind code).lockTimeouts =
      if (Sign.answered kind code now).endsTimeouts detector.config then []
      else detector.lockTimeouts := by
  by_cases designated : code ∈ detector.config.systemErrorCodes
  · simp [countAnswer, Sign.endsTimeouts, designated]
  · simp [countAnswer, Sign.endsTimeouts, designated]

/-- One more sign leaves the timeouts that count with it. -/
theorem lockTimeouts_counted {signs : List Sign} {sign : Sign}
    (row : detector.lockTimeouts = timeoutsIn detector.config signs)
    (ordered : InOrder (signs ++ [sign])) :
    (detector.counted sign).lockTimeouts = timeoutsIn detector.config (signs ++ [sign]) := by
  have ordered_row : detector.lockTimeouts.Pairwise (· ≤ ·) :=
    row ▸ ordered.left.sublist (timeoutsIn_sublist _ signs)
  cases sign with
  | lockTimeout now =>
      have longer : (detector.lockTimeouts ++ [now]).Pairwise (· ≤ ·) := by
        refine List.pairwise_append.mpr ⟨ordered_row, List.pairwise_singleton _ _, ?_⟩
        intro instant member later here
        rw [List.mem_singleton.mp here]
        rw [row] at member
        exact ordered.le_of_last rfl instant ((timeoutsIn_sublist _ signs).subset member)
      have pruned : ({ detector with lockTimeouts := detector.lockTimeouts ++ [now] }.prune
            now).lockTimeouts =
          (detector.lockTimeouts ++ [now]).filter (detector.config.isRecent now) :=
        lockTimeouts_prune longer now
      rw [counted, pruned, timeoutsIn, timeoutsSince, signsSince_going rfl, List.filter_append,
        row, filter_timeoutsIn _ ordered rfl, lastInstant_concat rfl, List.filter_append,
        List.filterMap_append, List.filter_append]
      rfl
  | answered kind code now =>
      have left := detector.lockTimeouts_countAnswer kind code now
      have ordered_left : (detector.countAnswer kind code).lockTimeouts.Pairwise (· ≤ ·) := by
        rw [left]
        split
        · exact .nil
        · exact ordered_row
      rw [counted, lockTimeouts_prune ordered_left, config_countAnswer, left, timeoutsIn,
        timeoutsSince, lastInstant_concat rfl]
      cases ends : (Sign.answered kind code now).endsTimeouts detector.config with
      | true =>
          rw [signsSince_ended ends]
          rfl
      | false =>
          rw [signsSince_going ends, List.filter_append, List.filterMap_append, row]
          simpa [Sign.isLockTimeout, timeoutsSince] using
            filter_timeoutsIn detector.config ordered rfl
  | restarted =>
      rw [timeoutsIn, timeoutsSince, signsSince_ended rfl]
      rfl

theorem lockTimeouts_of_history (config : DetectorConfig) {signs : List Sign}
    (ordered : InOrder signs) :
    (signs.foldl after (new config)).lockTimeouts = timeoutsIn config signs := by
  induction signs using List.reverseRecOn with
  | nil => rfl
  | append_singleton signs sign ih =>
      have settings := config_afterAll config signs
      have one := lockTimeouts_counted ((ih ordered.left).trans (by rw [settings])) ordered
      rw [settings] at one
      rw [List.foldl_concat, lockTimeouts_after, one]

/-! ## The rows of designated errors -/

/-- An answer lengthens the row of its kind or ends it, and leaves all others alone. -/
theorem streaks_countAnswer (kind other : RequestKind) (code : AnswerCode) :
    (detector.countAnswer other code).streaks.get kind =
      if other = kind then
        if code ∈ detector.config.systemErrorCodes then detector.streaks.get kind + 1 else 0
      else detector.streaks.get kind := by
  by_cases own : other = kind
  · subst own
    by_cases designated : code ∈ detector.config.systemErrorCodes <;>
      simp [countAnswer, designated]
  · have another : kind ≠ other := fun same => own same.symm
    by_cases designated : code ∈ detector.config.systemErrorCodes <;>
      simp [countAnswer, designated, own, RequestKind.Table.get_set_of_ne _ _ another]

/-- One more sign leaves each row of designated errors with its length. -/
theorem streak_counted {kind : RequestKind} {signs : List Sign}
    (row : detector.streaks.get kind = UInt32.ofNat (streakIn detector.config kind signs))
    (sign : Sign) :
    (detector.counted sign).streaks.get kind =
      UInt32.ofNat (streakIn detector.config kind (signs ++ [sign])) := by
  cases sign with
  | lockTimeout now =>
      rw [counted, streaks_prune, streakIn, signsSince_going rfl, List.countP_append]
      exact row
  | answered other code now =>
      rw [counted, streaks_prune, streaks_countAnswer, row]
      by_cases own : other = kind
      · by_cases designated : code ∈ detector.config.systemErrorCodes
        · have going : (Sign.answered other code now).endsStreak detector.config kind = false := by
            simp [Sign.endsStreak, designated]
          rw [if_pos own, if_pos designated, streakIn, streakIn, signsSince_going going,
            List.countP_append, List.countP_singleton, UInt32.ofNat_add]
          simp [Sign.isError, own, designated]
        · have ended : (Sign.answered other code now).endsStreak detector.config kind = true := by
            simp [Sign.endsStreak, own, designated]
          rw [if_pos own, if_neg designated, streakIn, signsSince_ended ended]
          rfl
      · have going : (Sign.answered other code now).endsStreak detector.config kind = false := by
          simp [Sign.endsStreak, own]
        rw [if_neg own, streakIn, streakIn, signsSince_going going, List.countP_append,
          List.countP_singleton]
        simp [Sign.isError, own]
  | restarted =>
      rw [streakIn, signsSince_ended rfl]
      exact RequestKind.Table.get_const _ _

theorem streak_of_history (config : DetectorConfig) (kind : RequestKind) (signs : List Sign) :
    (signs.foldl after (new config)).streaks.get kind =
      UInt32.ofNat (streakIn config kind signs) := by
  induction signs using List.reverseRecOn with
  | nil => exact RequestKind.Table.get_const _ _
  | append_singleton signs sign ih =>
      have settings := config_afterAll config signs
      have one := streak_counted (ih.trans (by rw [settings])) sign
      rw [settings] at one
      rw [List.foldl_concat, streaks_after, one]

/-! ## What a detector shows -/

/-- Whatever a detector was told in the order of the instants, the rows it shows are those of the
history, as long as its counters have room for them: each kind with its designated errors since the
last answer for it that was none and the last restart, kinds without any left out; and as many
timeouts as came since the last success, if it was no designated error, and the last restart, and
are no further back from the last instant than the window. -/
theorem snapshot_of_history (config : DetectorConfig) (signs : List Sign)
    (ordered : InOrder signs)
    (streaksFit : ∀ kind, streakIn config kind signs < UInt32.size)
    (timeoutsFit : (timeoutsIn config signs).length < UInt32.size) :
    let snapshot := (signs.foldl after (new config)).snapshot
    snapshot.systemErrors.map (fun (kind, count) => (kind, count.toNat)) =
      (RequestKind.all.map fun kind => (kind, streakIn config kind signs)).filter (·.2 ≠ 0) ∧
    snapshot.lockTimeouts.toNat = (timeoutsIn config signs).length := by
  intro snapshot
  constructor
  · have lengths : ∀ kind, (UInt32.ofNat (streakIn config kind signs)).toNat =
        streakIn config kind signs := fun kind => UInt32.toNat_ofNat_of_lt' (streaksFit kind)
    have shown : snapshot.systemErrors = (RequestKind.all.map fun kind =>
        (kind, UInt32.ofNat (streakIn config kind signs))).filter (·.2 ≠ 0) := by
      simp only [← streak_of_history]
      rfl
    rw [shown, List.filter_map, List.filter_map, List.map_map]
    have present : RequestKind.all.filter
          ((·.2 ≠ 0) ∘ fun kind => (kind, UInt32.ofNat (streakIn config kind signs))) =
        RequestKind.all.filter ((·.2 ≠ 0) ∘ fun kind => (kind, streakIn config kind signs)) := by
      apply List.filter_congr
      intro kind _
      simp [← UInt32.toNat_inj, lengths]
    rw [present]
    apply List.map_congr_left
    intro kind _
    simp [lengths]
  · show (UInt32.ofNat _).toNat = _
    rw [lockTimeouts_of_history config ordered]
    exact UInt32.toNat_ofNat_of_lt' timeoutsFit

/-- A window of a second leaves two of three timeouts, the first being a microsecond too old.  No
success ended their row: the one there is counts as a designated error, of which it is the second
for its kind, while the row of another kind was ended by an error that is not designated. -/
theorem snapshot_of_history_past_window :
    let config : DetectorConfig :=
      { lockTimeoutWindowMs := some 1000, systemErrorCodes := [.systemError, .success] }
    let signs : List Sign :=
      [.answered .getSimStatus .systemError 0, .lockTimeout 0, .lockTimeout 600000,
        .answered .sendSms .systemError 700000, .answered .sendSms .success 800000,
        .answered .getSimStatus .noMemory 900000, .lockTimeout 1000001]
    let snapshot := (signs.foldl after (new config)).snapshot
    snapshot.systemErrors.map (fun (kind, count) => (kind, count.toNat)) = [(.sendSms, 2)] ∧
      snapshot.lockTimeouts.toNat = 2 := by
  intro config signs snapshot
  have fits : ∀ kind, streakIn config kind signs < UInt32.size := by
    intro kind
    cases kind <;> decide
  have shown := snapshot_of_history config signs (by decide) fits (by decide)
  have streaks : (RequestKind.all.map fun kind => (kind, streakIn config kind signs)).filter
      (·.2 ≠ 0) = [(.sendSms, 2)] := by decide
  have timeouts : timeoutsIn config signs = [600000, 1000001] := by decide
  exact ⟨shown.1.trans streaks, shown.2.trans (congrArg List.length timeouts)⟩

end FaultDetector

end ModemLink
