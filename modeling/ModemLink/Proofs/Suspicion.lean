/-
Module: ModemLink.Proofs.Suspicion
Purpose: The fault status as the rows that a detector shows determine it.
Main exports:
  FaultSnapshot.longestStreak, DetectorConfig.Confirms, DetectorConfig.SuspectsLock,
  DetectorConfig.SuspectsErrors, FaultDetector.verdict_cases, FaultDetector.confirmed_iff,
  FaultDetector.status_of_rows
-/
import ModemLink.Proofs.Rows
import ModemLink.Proofs.StatusHistory

namespace ModemLink

/-!
A detector judges after each sign by the rows it shows then, with two memories: a confirmed fault
stays until a restart, and of two suspicions that hold both the one raised first keeps its name.  So
the status is confirmed exactly where the rows were long enough once since the last restart, and is
otherwise determined by the present rows up to the name of the suspicion.
-/

/-! ## What is shown against the thresholds -/

/-- Length of the longest row of designated errors shown. -/
def FaultSnapshot.longestStreak (shown : FaultSnapshot) : UInt32 :=
  (shown.systemErrors.map (·.2)).max?.getD 0

namespace DetectorConfig

variable (config : DetectorConfig) (shown : FaultSnapshot)

/-- A row shown is long enough to confirm a fault. -/
def Confirms : Prop :=
  config.lockTimeoutConfirmThreshold ≤ shown.lockTimeouts ∨
    config.systemErrorConfirmThreshold ≤ shown.longestStreak

/-- The row of timeouts shown is long enough for a suspicion. -/
def SuspectsLock : Prop :=
  config.lockTimeoutThreshold ≤ shown.lockTimeouts

/-- A row of designated errors shown is long enough for a suspicion. -/
def SuspectsErrors : Prop :=
  config.systemErrorThreshold ≤ shown.longestStreak

instance : Decidable (config.Confirms shown) := inferInstanceAs (Decidable (_ ∨ _))

instance : Decidable (config.SuspectsLock shown) := inferInstanceAs (Decidable (_ ≤ _))

instance : Decidable (config.SuspectsErrors shown) := inferInstanceAs (Decidable (_ ≤ _))

variable {config}

/-- Valid thresholds are out of the reach of empty rows. -/
theorem thresholds_pos (valid : config.validate = .ok ()) :
    0 < config.lockTimeoutThreshold ∧ 0 < config.systemErrorThreshold := by
  unfold validate at valid
  split at valid
  · cases valid
  · rename_i positive
    obtain ⟨lock, error⟩ := not_or.mp positive
    exact ⟨UInt32.pos_iff_ne_zero.mpr lock, UInt32.pos_iff_ne_zero.mpr error⟩

end DetectorConfig

namespace FaultDetector

variable (detector : FaultDetector)

theorem max_zero_left (length : UInt32) : max 0 length = length := by
  simp [Max.max]

theorem max_zero_right (length : UInt32) : max length 0 = length := by
  simp [Max.max, eq_comm]

/-- Kinds without a row make no difference to the longest one. -/
theorem foldl_max_filter (entries : List (RequestKind × UInt32)) (longest : UInt32) :
    (entries.filter (·.2 ≠ 0)).foldl (fun longest entry => max longest entry.2) longest =
      entries.foldl (fun longest entry => max longest entry.2) longest := by
  induction entries generalizing longest with
  | nil => rfl
  | cons entry rest ih =>
      by_cases empty : entry.2 = 0
      · have kept : max longest entry.2 = longest := by
          rw [empty, max_zero_right]
        rw [List.filter_cons_of_neg (by simp [empty]), List.foldl_cons, kept, ih]
      · rw [List.filter_cons_of_pos (by simp [empty]), List.foldl_cons, List.foldl_cons, ih]

theorem longestStreak_snapshot : detector.snapshot.longestStreak = detector.maxStreak := by
  rw [FaultSnapshot.longestStreak, maxStreak, ← foldl_max_filter]
  show ((detector.streaks.toList.filter (·.2 ≠ 0)).map (·.2)).max?.getD 0 = _
  cases detector.streaks.toList.filter (·.2 ≠ 0) with
  | nil => rfl
  | cons entry rest =>
      rw [List.map_cons, List.max?_cons', Option.getD_some, List.foldl_map, List.foldl_cons,
        max_zero_left]

/-! ## One sign -/

theorem status_counted (sign : Sign) : (detector.counted sign).status = detector.status := by
  cases sign with
  | lockTimeout now => exact status_prune _ now
  | answered kind code now =>
      exact (status_prune _ now).trans (detector.status_countAnswer kind code)
  | restarted => rfl

theorem heed_of_ne_restarted {sign : Sign} (going : sign ≠ .restarted) :
    detector.heed sign = (detector.counted sign).judge := by
  cases sign with
  | lockTimeout | answered => rfl
  | restarted => exact absurd rfl going

theorem status_settle (status : FaultStatus) : (detector.settle status).2.status = status := by
  rcases detector.settle_cases status with ⟨same, settled⟩ | ⟨-, settled⟩
  · rw [settled, same]
  · rw [settled]

theorem status_after_of_ne_restarted {sign : Sign} (going : sign ≠ .restarted) :
    (detector.after sign).status = (detector.counted sign).verdict := by
  rw [after_eq_heed, detector.heed_of_ne_restarted going, judge, status_settle]

theorem status_after_restarted : (detector.after .restarted).status = .normal :=
  status_settle _ _

/-- A sign is judged by the rows shown after it. -/
theorem lockTimeouts_snapshot_after (sign : Sign) :
    (detector.after sign).snapshot.lockTimeouts =
      (detector.counted sign).snapshot.lockTimeouts := by
  show UInt32.ofNat _ = UInt32.ofNat _
  rw [lockTimeouts_after]

theorem longestStreak_snapshot_after (sign : Sign) :
    (detector.after sign).snapshot.longestStreak =
      (detector.counted sign).snapshot.longestStreak := by
  rw [longestStreak_snapshot, longestStreak_snapshot, maxStreak, maxStreak, streaks_after]

/-- What a detector judges after a sign, in terms of the rows shown then. -/
theorem status_shown {sign : Sign} (going : sign ≠ .restarted) :
    let config := detector.config
    let shown := (detector.after sign).snapshot
    shown.status =
      if detector.status = .confirmed then .confirmed
      else if config.Confirms shown then .confirmed
      else if detector.status = .lockSuspected ∧ config.SuspectsLock shown then .lockSuspected
      else if config.SuspectsErrors shown then .repetitiveErrorSuspected
      else if config.SuspectsLock shown then .lockSuspected
      else .normal := by
  intro config shown
  have settings : (detector.counted sign).config = config :=
    congrArg Prod.fst (detector.rows_after sign).symm |>.trans (config_after sign)
  have status : shown.status = (detector.counted sign).verdict :=
    detector.status_after_of_ne_restarted going
  have timeouts : shown.lockTimeouts = (detector.counted sign).timeoutCount :=
    detector.lockTimeouts_snapshot_after sign
  have streak : shown.longestStreak = (detector.counted sign).maxStreak :=
    (detector.longestStreak_snapshot_after sign).trans (longestStreak_snapshot _)
  simp only [status, verdict, status_counted, settings, DetectorConfig.Confirms,
    DetectorConfig.SuspectsLock, DetectorConfig.SuspectsErrors, timeouts, streak]

/-- After a restart all rows shown are empty. -/
theorem shown_after_restarted :
    (detector.after .restarted).snapshot.lockTimeouts = 0 ∧
      (detector.after .restarted).snapshot.longestStreak = 0 := by
  constructor
  · exact detector.lockTimeouts_snapshot_after .restarted
  · have empty : ({ detector with lockTimeouts := [], streaks := .const 0 }).maxStreak = 0 := by
      show (RequestKind.Table.const (0 : UInt32)).toList.foldl _ 0 = 0
      decide
    exact (detector.longestStreak_snapshot_after .restarted).trans
      ((longestStreak_snapshot _).trans empty)

/-- A sign confirms a fault exactly where it was confirmed or the rows shown now confirm it. -/
theorem confirmed_after_iff {sign : Sign} (going : sign ≠ .restarted) :
    (detector.after sign).status = .confirmed ↔
      detector.status = .confirmed ∨ detector.config.Confirms (detector.after sign).snapshot := by
  have shown := detector.status_shown going
  simp only at shown
  constructor
  · intro confirmed
    by_contra neither
    obtain ⟨before, now⟩ := not_or.mp neither
    rw [if_neg before, if_neg now] at shown
    have settled : FaultStatus.confirmed = _ := confirmed.symm.trans shown
    split_ifs at settled
  · rintro (before | now)
    · rw [if_pos before] at shown
      exact shown
    · rw [if_pos now, ite_self] at shown
      exact shown

/-- How a status that is not confirmed is warranted by the rows shown with it, after another one. -/
structure Warranted (config : DetectorConfig) (earlier : FaultStatus) (shown : FaultSnapshot) :
    Prop where
  normal_iff : shown.status = .normal ↔ ¬ config.SuspectsLock shown ∧ ¬ config.SuspectsErrors shown
  lock : shown.status = .lockSuspected → config.SuspectsLock shown
  errors : shown.status = .repetitiveErrorSuspected → config.SuspectsErrors shown
  keepsLock : earlier = .lockSuspected → config.SuspectsLock shown →
    shown.status = .lockSuspected
  keepsErrors : earlier = .repetitiveErrorSuspected → config.SuspectsErrors shown →
    shown.status = .repetitiveErrorSuspected

theorem warranted_after {sign : Sign} (going : sign ≠ .restarted)
    (unconfirmed : (detector.after sign).status ≠ .confirmed) :
    Warranted detector.config detector.status (detector.after sign).snapshot := by
  obtain ⟨before, now⟩ := not_or.mp (mt (detector.confirmed_after_iff going).mpr unconfirmed)
  have shown := detector.status_shown going
  simp only [if_neg before, if_neg now] at shown
  split_ifs at shown with kept errors lock
  -- the suspicion of the lock is kept
  · exact
      { normal_iff := by simp [shown, kept.2]
        lock := fun _ => kept.2
        errors := by simp [shown]
        keepsLock := fun _ _ => shown
        keepsErrors := by simp [kept.1] }
  · exact
      { normal_iff := by simp [shown, errors]
        lock := by simp [shown]
        errors := fun _ => errors
        keepsLock := fun earlier reason => absurd ⟨earlier, reason⟩ kept
        keepsErrors := fun _ _ => shown }
  · exact
      { normal_iff := by simp [shown, lock]
        lock := fun _ => lock
        errors := by simp [shown]
        keepsLock := fun _ _ => shown
        keepsErrors := fun _ reason => absurd reason errors }
  · exact
      { normal_iff := by simp [shown, lock, errors]
        lock := by simp [shown]
        errors := by simp [shown]
        keepsLock := fun _ reason => absurd reason lock
        keepsErrors := fun _ reason => absurd reason errors }

theorem warranted_after_restarted (valid : detector.config.validate = .ok ()) :
    Warranted detector.config detector.status (detector.after .restarted).snapshot := by
  obtain ⟨lock_pos, error_pos⟩ := DetectorConfig.thresholds_pos valid
  obtain ⟨timeouts, streak⟩ := detector.shown_after_restarted
  have lock : ¬ detector.config.SuspectsLock (detector.after .restarted).snapshot := by
    rw [DetectorConfig.SuspectsLock, timeouts]
    exact UInt32.not_le.mpr lock_pos
  have errors : ¬ detector.config.SuspectsErrors (detector.after .restarted).snapshot := by
    rw [DetectorConfig.SuspectsErrors, streak]
    exact UInt32.not_le.mpr error_pos
  have normal : (detector.after .restarted).snapshot.status = .normal :=
    detector.status_after_restarted
  constructor <;> simp [lock, errors, normal]

/-! ## Many signs -/

/-- Some sign since the last restart left rows long enough to confirm a fault. -/
def WasConfirmed (config : DetectorConfig) (signs : List Sign) : Prop :=
  ∃ earlier sign later, signs = earlier ++ sign :: later ∧ .restarted ∉ sign :: later ∧
    config.Confirms ((earlier ++ [sign]).foldl after (new config)).snapshot

theorem not_wasConfirmed_of_restarted (config : DetectorConfig) (signs : List Sign) :
    ¬ WasConfirmed config (signs ++ [.restarted]) := by
  rintro ⟨earlier, sign, later, same, going, -⟩
  have last := congrArg List.getLast? same
  rw [List.getLast?_concat, List.getLast?_append_cons] at last
  exact going (List.mem_of_getLast? last.symm)

theorem wasConfirmed_concat (config : DetectorConfig) (signs : List Sign) {sign : Sign}
    (going : sign ≠ .restarted) :
    WasConfirmed config (signs ++ [sign]) ↔ WasConfirmed config signs ∨
      config.Confirms ((signs ++ [sign]).foldl after (new config)).snapshot := by
  constructor
  · rintro ⟨earlier, one, later, same, since, confirms⟩
    rcases List.eq_nil_or_concat' later with rfl | ⟨middle, last, rfl⟩
    · rw [same]
      exact Or.inr confirms
    · rw [← List.cons_append, ← List.append_assoc] at same
      obtain ⟨rfl, -⟩ := List.append_inj' same rfl
      have before : .restarted ∉ one :: middle := fun member =>
        since (List.mem_append_left [last] member)
      exact Or.inl ⟨earlier, one, middle, rfl, before, confirms⟩
  · rintro (⟨earlier, one, later, rfl, since, confirms⟩ | confirms)
    · refine ⟨earlier, one, later ++ [sign], by simp, ?_, confirms⟩
      rw [← List.cons_append, List.mem_append, List.mem_singleton]
      exact not_or.mpr ⟨since, going.symm⟩
    · exact ⟨signs, sign, [], rfl, by simpa using going.symm, confirms⟩

theorem confirmed_iff (config : DetectorConfig) (signs : List Sign) :
    (signs.foldl after (new config)).status = .confirmed ↔ WasConfirmed config signs := by
  induction signs using List.reverseRecOn with
  | nil =>
      constructor
      · intro confirmed
        cases confirmed
      · rintro ⟨earlier, sign, later, same, -⟩
        simp at same
  | append_singleton signs sign ih =>
      have settings := config_afterAll config signs
      by_cases restarted : sign = .restarted
      · subst restarted
        rw [List.foldl_concat, status_after_restarted]
        exact iff_of_false (by simp) (not_wasConfirmed_of_restarted config signs)
      · rw [wasConfirmed_concat config signs restarted, ← ih, List.foldl_concat,
          confirmed_after_iff _ restarted, settings]

/-- With valid settings the status after each sign is determined by the rows shown after it.  It is
confirmed exactly where rows shown since the last restart confirmed a fault.  Otherwise it is normal
exactly where the present rows raise no suspicion, a suspicion has its own reason in them, and the
one raised before keeps its name as long as it has.  And a sign reports the new status exactly where
it is another one. -/
theorem status_of_rows (config : DetectorConfig) (valid : config.validate = .ok ())
    (signs : List Sign) (sign : Sign) :
    let detector := signs.foldl after (new config)
    let before := detector.snapshot
    let shown := (detector.after sign).snapshot
    (shown.status = .confirmed ↔ WasConfirmed config (signs ++ [sign])) ∧
    (shown.status ≠ .confirmed → Warranted config before.status shown) ∧
    (detector.heed sign).1 =
      if shown.status = before.status then none else some shown.status := by
  intro detector before shown
  have settings : detector.config = config := config_afterAll config signs
  refine ⟨?_, ?_, ?_⟩
  · rw [← confirmed_iff, List.foldl_concat]
    rfl
  · intro unconfirmed
    rw [← settings]
    by_cases restarted : sign = .restarted
    · subst restarted
      exact detector.warranted_after_restarted (settings ▸ valid)
    · exact detector.warranted_after restarted unconfirmed
  · rcases detector.heed_cases sign with ⟨silent, same⟩ | ⟨reported, ⟨other, -⟩, -⟩
    · exact silent.trans (if_pos same).symm
    · exact reported.trans (if_neg other.symm).symm

/-- A timeout raised a suspicion of the lock.  When a designated error gives a reason for the other
suspicion too, the first one keeps its name, and nothing is reported. -/
theorem status_of_rows_second_suspicion :
    let config : DetectorConfig := { lockTimeoutThreshold := 1, systemErrorThreshold := 1 }
    let detector := [Sign.lockTimeout 0].foldl after (new config)
    let sign := Sign.answered .sendSms .systemError 5
    let shown := (detector.after sign).snapshot
    config.SuspectsErrors shown ∧ shown.status = .lockSuspected ∧
      ¬ WasConfirmed config [.lockTimeout 0, sign] ∧ (detector.heed sign).1 = none := by
  intro config detector sign shown
  obtain ⟨confirmed, warranted, reported⟩ := status_of_rows config (by decide) [.lockTimeout 0] sign
  have unconfirmed : shown.status ≠ .confirmed := by decide
  have kept : shown.status = .lockSuspected :=
    (warranted unconfirmed).keepsLock (by decide) (by decide)
  have same : shown.status = detector.snapshot.status := by decide
  exact ⟨by decide, kept, mt confirmed.mpr unconfirmed, reported.trans (if_pos same)⟩

end FaultDetector

end ModemLink
