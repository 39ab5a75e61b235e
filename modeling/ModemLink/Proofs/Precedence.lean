/-
Module: ModemLink.Proofs.Precedence
Purpose: In which order attempts are issued, and in which order they are told that they fail.
Main exports:
  pair_sublist_inOrder_iff, Forward, FailsTogether, place, Leg.bare_cases, Ranked, Ranked.cases,
  issuedAt_le
-/
import Mathlib.Data.List.DropRight
import Mathlib.Data.List.Nodup
import ModemLink.Proofs.LockSteps
import ModemLink.Proofs.Patience

namespace ModemLink

/-!
Attempts that fail together are sorted: by the instants at which they were issued, then by their
serials.  In which order they were issued can be seen from what was handed over, since an attempt
that waits is what was handed over last under its serial.  The table keeps that order too, though
nothing in it relies on it: new attempts are put in front.
-/

/-- Of two items of a list one comes first. -/
theorem pair_sublist_or {α : Type} {first second : α} {items : List α} (one : first ∈ items)
    (other : second ∈ items) (apart : first ≠ second) :
    [first, second].Sublist items ∨ [second, first].Sublist items := by
  induction items with
  | nil => exact absurd one List.not_mem_nil
  | cons item rest ih =>
      rcases List.mem_cons.mp one with rfl | oneLater
      · rcases List.mem_cons.mp other with rfl | otherLater
        · exact absurd rfl apart
        · exact Or.inl ((List.singleton_sublist.mpr otherLater).cons_cons _)
      · rcases List.mem_cons.mp other with rfl | otherLater
        · exact Or.inr ((List.singleton_sublist.mpr oneLater).cons_cons _)
        · exact (ih oneLater otherLater).imp (·.cons _) (·.cons _)

namespace Attempt

variable {first second third : Attempt}

theorem precedes_iff : first.precedes second = true ↔
    first.issuedAt < second.issuedAt ∨
      first.issuedAt = second.issuedAt ∧ first.serial.value ≤ second.serial.value := by
  simp [precedes]

theorem precedes_total (first second : Attempt) :
    (first.precedes second || second.precedes first) = true := by
  rw [Bool.or_eq_true, precedes_iff, precedes_iff]
  rcases Nat.lt_trichotomy first.issuedAt second.issuedAt with before | same | after
  · exact Or.inl (Or.inl before)
  · exact (UInt32.le_total first.serial.value second.serial.value).imp (Or.inr ⟨same, ·⟩)
      (Or.inr ⟨same.symm, ·⟩)
  · exact Or.inr (Or.inl after)

theorem precedes_trans (first second third : Attempt) (earlier : first.precedes second = true)
    (later : second.precedes third = true) : first.precedes third = true := by
  rw [precedes_iff] at earlier later ⊢
  rcases earlier with before | ⟨same, serials⟩
  · have onward : second.issuedAt ≤ third.issuedAt := later.elim Nat.le_of_lt (Nat.le_of_eq ·.1)
    exact Or.inl (Nat.lt_of_lt_of_le before onward)
  · rw [same]
    exact later.imp_right (And.imp_right (UInt32.le_trans serials))

theorem serial_eq_of_precedes (earlier : first.precedes second = true)
    (later : second.precedes first = true) : first.serial = second.serial := by
  rw [precedes_iff] at earlier later
  rcases earlier with before | ⟨same, serials⟩
  · rcases later with after | ⟨equal, -⟩
    · exact absurd after (Nat.lt_asymm before)
    · exact absurd equal (Nat.ne_of_gt before)
  · rcases later with after | ⟨-, back⟩
    · exact absurd same (Nat.ne_of_gt after)
    · have value := UInt32.le_antisymm serials back
      exact congrArg Serial.mk value

end Attempt

namespace PendingTable

theorem bare_filter_sublist (table : PendingTable) (keep : Attempt → Bool) :
    (table.filter keep).bare.Sublist table.bare :=
  List.filter_sublist.map Attempt.bare

theorem pairwise_inOrder (attempts : List Attempt) :
    (inOrder attempts).Pairwise fun first second => first.precedes second = true :=
  List.pairwise_mergeSort Attempt.precedes_trans Attempt.precedes_total attempts

/-- Of two attempts that fail together the one comes first that precedes the other. -/
theorem pair_sublist_inOrder_iff {attempts : List Attempt}
    (distinct : (attempts.map Attempt.serial).Nodup) {first second : Attempt}
    (one : first ∈ attempts) (other : second ∈ attempts) (apart : first ≠ second) :
    [first, second].Sublist (inOrder attempts) ↔ first.precedes second = true := by
  have sorted : ∀ {one other}, [one, other].Sublist (inOrder attempts) →
      one.precedes other = true := List.pairwise_iff_forall_sublist.mp (pairwise_inOrder attempts)
  have perm := inOrder_perm attempts
  constructor
  · exact sorted
  · intro precedes
    rcases pair_sublist_or (perm.mem_iff.mpr one) (perm.mem_iff.mpr other) apart with
      before | after
    · exact before
    · have same := Attempt.serial_eq_of_precedes precedes (sorted after)
      exact absurd (List.inj_on_of_nodup_map distinct one other same) apart

end PendingTable

namespace Bridge

variable {χ : Type}

/-! ## Instants -/

/-- Calls that are made in the order of their instants. -/
def Forward (calls : List (Call χ)) : Prop :=
  (calls.filterMap Call.instant?).Pairwise (· ≤ ·)

instance (calls : List (Call χ)) : Decidable (Forward calls) :=
  inferInstanceAs (Decidable (List.Pairwise _ _))

theorem forward_cons {first : Call χ} {rest : List (Call χ)} :
    Forward (first :: rest) ↔
      (∀ now, first.instant? = some now → ∀ later ∈ rest.filterMap Call.instant?, now ≤ later) ∧
        Forward rest := by
  unfold Forward
  cases made : first.instant? with
  | none => simp [made]
  | some now => simp [made]

theorem Forward.left {earlier later : List (Call χ)} (forward : Forward (earlier ++ later)) :
    Forward earlier := by
  rw [Forward, List.filterMap_append] at forward
  exact (List.pairwise_append.mp forward).1

theorem instant?_of_steps {call step : Call χ} {now : Instant} (among : step ∈ call.steps)
    (made : step.instant? = some now) : call.instant? = some now := by
  cases call with
  | batch events instant =>
      simp only [Call.steps, List.cons_append, List.mem_cons, List.mem_append, List.mem_map,
        List.not_mem_nil, or_false] at among
      rcases among with rfl | ⟨event, -, rfl⟩ | rfl
      · exact made
      · exact made
      · cases made
  | timers | event | sampled | serialTaken | channelChanged | indicationListenerLost
  | statusListenerLost => exact List.mem_singleton.mp among ▸ made

/-- The steps of a batch are all made at its instant. -/
theorem forward_steps {calls : List (Call χ)} (forward : Forward calls) :
    Forward (calls.flatMap Call.steps) := by
  have own : ∀ {call : Call χ} {instant}, instant ∈ call.steps.filterMap Call.instant? →
      call.instant? = some instant := by
    intro call instant member
    obtain ⟨step, among, made⟩ := List.mem_filterMap.mp member
    exact instant?_of_steps among made
  induction calls with
  | nil => exact .nil
  | cons call rest ih =>
      obtain ⟨across, later⟩ := forward_cons.mp forward
      rw [Forward, List.flatMap_cons, List.filterMap_append]
      refine List.pairwise_append.mpr ⟨?_, ih later, ?_⟩
      · apply List.pairwise_of_forall_mem_list
        intro one first other second
        exact Nat.le_of_eq (Option.some.inj ((own first).symm.trans (own second)))
      · intro one first other second
        obtain ⟨step, among, made⟩ := List.mem_filterMap.mp second
        obtain ⟨call, there, steps⟩ := List.mem_flatMap.mp among
        have named := instant?_of_steps steps made
        exact across _ (own first) _ (List.mem_filterMap.mpr ⟨call, there, named⟩)

/-! ## What fails together -/

/-- A step that fails some attempts together, and what it tells each.  Once serials have collided no
event is handled any more. -/
inductive FailsTogether [Channel χ] (bridge : Bridge χ) :
    Call χ → List Attempt → (Attempt → Ticket × Outcome) → Prop where
  /-- The timers take out what is too old. -/
  | agedOut (now : Instant) :
      FailsTogether bridge (.timers now)
        (bridge.pending.attempts.filter fun attempt => attempt.issuedAt + bridge.maxAge < now)
        expired
  | channelLost (sound : bridge.collision = none) (now : Instant) :
      FailsTogether bridge (.event .channelLost now) bridge.pending.attempts dropped
  | shutdown (sound : bridge.collision = none) (running : bridge.running = true) (now : Instant) :
      FailsTogether bridge (.event .shutdown now) bridge.pending.attempts dropped

namespace FailsTogether

variable [Channel χ] {bridge : Bridge χ} {step : Call χ} {together : List Attempt}
  {told : Attempt → Ticket × Outcome}

theorem sublist (fails : FailsTogether bridge step together told) :
    together.Sublist bridge.pending.attempts := by
  cases fails with
  | agedOut => exact List.filter_sublist
  | channelLost | shutdown => exact .refl _

theorem distinct (fails : FailsTogether bridge step together told) :
    (together.map Attempt.serial).Nodup :=
  (fails.sublist.map Attempt.serial).nodup bridge.pending.distinct

/-- They are told in order, and nobody else is told anything. -/
theorem outcomes (fails : FailsTogether bridge step together told) :
    (bridge.call step).outcomes =
      bridge.outcomes ++ (PendingTable.inOrder together).map told := by
  cases fails with
  | agedOut now => exact outcomes_fireDueTimers bridge now
  | channelLost sound now =>
      rw [call, handle_of_sound sound]
      exact (settles_failAll bridge now).outcomes
  | shutdown sound running now =>
      rw [call, handle_of_sound sound]
      exact (settles_shutdown running now).outcomes

/-- Of two that were not issued in the other order, the one issued first is told first, and of two
issued at one instant the one with the smaller serial. -/
theorem pair_sublist_iff (fails : FailsTogether bridge step together told) {first second : Attempt}
    (one : first ∈ together) (other : second ∈ together) (apart : first ≠ second)
    (notLater : first.issuedAt ≤ second.issuedAt) :
    [first, second].Sublist (PendingTable.inOrder together) ↔
      first.issuedAt < second.issuedAt ∨ first.serial.value < second.serial.value := by
  have serials : first.serial.value ≠ second.serial.value := by
    intro same
    have serial : first.serial = second.serial := congrArg Serial.mk same
    exact apart (List.inj_on_of_nodup_map fails.distinct one other serial)
  rw [PendingTable.pair_sublist_inOrder_iff fails.distinct one other apart, Attempt.precedes_iff]
  constructor
  · rintro (before | ⟨-, below⟩)
    · exact Or.inl before
    · exact Or.inr (UInt32.lt_of_le_of_ne below serials)
  · rintro (before | below)
    · exact Or.inl before
    · rcases Nat.eq_or_lt_of_le notLater with same | before
      · exact Or.inr ⟨same, UInt32.le_of_lt below⟩
      · exact Or.inl before

end FailsTogether

/-! ## Places -/

/-- How many frames were handed over up to the last one under a serial.  What waits under the serial
is what was handed over last under it, so of two attempts that wait the one with the lower place was
issued first. -/
def place (bridge : Bridge χ) (serial : Serial) : Nat :=
  (bridge.handovers.rdropWhile fun frame => frame.1.serial ≠ serial).length

theorem place_le (bridge : Bridge χ) (serial : Serial) :
    bridge.place serial ≤ bridge.handovers.length :=
  (List.rdropWhile_prefix _ _).length_le

section

variable {before after : Bridge χ} {frame : Outbound × SendReply}

theorem place_own (grown : after.handovers = before.handovers ++ [frame]) :
    after.place frame.1.serial = before.handovers.length + 1 := by
  rw [place, grown, List.rdropWhile_concat_neg _ _ _ (by simp), List.length_append]
  rfl

theorem place_other (grown : after.handovers = before.handovers ++ [frame]) {serial : Serial}
    (other : frame.1.serial ≠ serial) : after.place serial = before.place serial := by
  rw [place, grown, List.rdropWhile_concat_pos _ _ _ (by simpa using other), place]

end

namespace Leg

variable {before after : Bridge χ} {hand held : Hand} {handed : List Handed}

/-- A leg takes attempts out of the table, or puts the one in hand in front of the others. -/
theorem bare_cases (leg : Leg before hand handed after held) :
    after.pending.bare.Sublist before.pending.bare ∨
      ∃ attempt, hand = .upcoming attempt ∧ handed = [attempt.handed .accepted] ∧
        after.pending.bare = attempt.bare :: before.pending.bare := by
  have stays : after.pending = before.pending →
      after.pending.bare.Sublist before.pending.bare := fun same => same ▸ .refl _
  cases leg with
  | settled settles => exact Or.inl (stays settles.pending)
  | marked bare => exact Or.inl (bare ▸ .refl _)
  | removed _ keep => exact Or.inl (before.pending.bare_filter_sublist keep)
  | stopped | serialTaken | exhausted | retried => exact Or.inl (stays rfl)
  | collided now => exact Or.inl (stays (sameRequests_acquireLock before now).pending)
  | unavailable reason channel now =>
      exact Or.inl (stays (pending_handOver before _ _ channel now))
  | refused channel now => exact Or.inl (stays (pending_handOver before _ _ channel now))
  | @accepted attempt pending channel now spoken inserted =>
      refine Or.inr ⟨attempt, rfl, rfl, ?_⟩
      show pending.bare = _
      rw [PendingTable.bare, PendingTable.attempts_insert? inserted]
      rfl

/-- The places of attempts that wait stay. -/
theorem place_eq (leg : Leg before hand handed after held) {waiting : Attempt}
    (waits : waiting ∈ before.pending.bare) :
    after.place waiting.serial = before.place waiting.serial := by
  have grown := leg.handovers
  rcases leg.handed_cases with rfl | ⟨attempt, reply, -, rfl, -, free⟩
  · rw [place, grown, List.map_nil, List.append_nil, place]
  · apply place_other grown
    intro same
    obtain ⟨earlier, there, rfl⟩ := List.mem_map.mp waits
    exact free (List.mem_map.mpr ⟨earlier, there, same.symm⟩)

end Leg

/-- The table has the newest attempts in front, and read from the back it is part of what the
channel accepted. -/
structure Ranked (trace : List Handed) (bridge : Bridge χ) : Prop where
  places : bridge.pending.bare.Pairwise fun newer older =>
    bridge.place older.serial < bridge.place newer.serial
  accepted : bridge.pending.bare.reverse.Sublist
    ((trace.filter (·.reply = .accepted)).map (·.attempt.bare))

theorem Ranked.leg {trace : List Handed} {before after : Bridge χ} {hand held : Hand}
    {handed : List Handed} (ranked : Ranked trace before)
    (leg : Leg before hand handed after held) : Ranked (trace ++ handed) after := by
  have stay : before.pending.bare.Pairwise fun newer older =>
      after.place older.serial < after.place newer.serial := by
    -- the frame that is handed over in the leg has none of their serials
    refine ranked.places.imp_of_mem ?_
    intro newer older new old
    rw [leg.place_eq new, leg.place_eq old]
    exact id
  rcases leg.bare_cases with fewer | ⟨attempt, rfl, rfl, table⟩
  · constructor
    · exact stay.sublist fewer
    · rw [List.filter_append, List.map_append]
      exact (fewer.reverse.trans ranked.accepted).trans (List.sublist_append_left _ _)
  · have newest : after.place attempt.serial = before.handovers.length + 1 :=
      place_own leg.handovers
    constructor
    · rw [table]
      refine List.pairwise_cons.mpr ⟨?_, stay⟩
      intro older old
      show after.place older.serial < after.place attempt.serial
      rw [leg.place_eq old, newest]
      exact Nat.lt_succ_of_le (before.place_le _)
    · rw [table, List.reverse_cons, List.filter_append, List.map_append]
      exact ranked.accepted.append (.refl _)

section

variable [Channel χ]

theorem kept_ranked (start : Bridge χ) :
    Kept start fun _ trace bridge _ => Ranked trace bridge where
  begins := by
    intro calls trace call middle hand ranked begins
    cases begins with
    | bare | submitted => exact ranked
    | @answered header =>
        have fewer := (start.run calls).pending.bare_filter_sublist fun left =>
          left.serial ≠ header.serial
        exact ⟨ranked.places.sublist fewer, fewer.reverse.trans ranked.accepted⟩
  leg := fun ranked leg => ranked.leg leg

/-! ## When attempts are issued -/

theorem attempt_of_offered {bridge : Bridge χ} {attempt : Attempt} {now : Instant} {handed : Handed}
    (member : handed ∈ bridge.offered attempt now) : handed.attempt = attempt := by
  obtain ⟨frame, -, rfl⟩ := List.mem_map.mp member
  rfl

/-- What is handed over for a request is issued at the instant at which the request is. -/
theorem issuedAt_issued (bridge : Bridge χ) (attempt : Attempt) :
    ∀ handed ∈ bridge.issued attempt attempt.issuedAt,
      handed.attempt.issuedAt = attempt.issuedAt := by
  generalize issuedNow : attempt.issuedAt = now
  intro handed member
  fun_induction issued bridge attempt now with
  | case1 bridge attempt after dealt => exact attempt_of_offered member ▸ issuedNow
  | case2 bridge attempt refused version middle refusal after retreated =>
      exact attempt_of_offered member ▸ issuedNow
  | case3 bridge attempt refused version middle refusal next after retreated ih =>
      rcases List.mem_append.mp member with first | later
      · exact attempt_of_offered first ▸ issuedNow
      · obtain ⟨lower, -, rfl, -⟩ := retreat_eq_some retreated
        exact ih rfl later

theorem issuedAt_reissued {bridge : Bridge χ} {attempt : Attempt} {now : Instant} {handed : Handed}
    (member : handed ∈ bridge.reissued attempt now) : handed.attempt.issuedAt = now := by
  unfold reissued at member
  split at member
  · exact absurd member List.not_mem_nil
  · rename_i next after retreated
    obtain ⟨lower, -, rfl, -⟩ := retreat_eq_some retreated
    exact issuedAt_issued after (attempt.reissue _ lower now) handed member

theorem issuedAt_handedBy {bridge : Bridge χ} {call : Call χ} {handed : Handed}
    (member : handed ∈ bridge.handedBy call) : call.instant? = some handed.attempt.issuedAt := by
  unfold handedBy at member
  split at member
  · rename_i submission now
    split at member
    · exact absurd member List.not_mem_nil
    · split at member
      · exact absurd member List.not_mem_nil
      · rename_i version spoken
        have issued := issuedAt_issued bridge (.ofSubmission submission version now) handed member
        exact congrArg some issued.symm
  · split at member
    · exact absurd member List.not_mem_nil
    · split at member
      · exact absurd member List.not_mem_nil
      · split at member
        · exact congrArg some (issuedAt_reissued member).symm
        · exact absurd member List.not_mem_nil
  · exact absurd member List.not_mem_nil

theorem issuedAt_traceOfSteps {steps : List (Call χ)} {bridge : Bridge χ} {handed : Handed}
    (member : handed ∈ bridge.traceOfSteps steps) :
    handed.attempt.issuedAt ∈ steps.filterMap Call.instant? := by
  induction steps generalizing bridge with
  | nil => exact absurd member List.not_mem_nil
  | cons step rest ih =>
      rcases List.mem_append.mp member with here | later
      · exact List.mem_filterMap.mpr ⟨step, List.mem_cons_self, issuedAt_handedBy here⟩
      · obtain ⟨other, there, made⟩ := List.mem_filterMap.mp (ih later)
        exact List.mem_filterMap.mpr ⟨other, List.mem_cons_of_mem step there, made⟩

/-- If steps are made in the order of their instants, attempts are handed over in that order. -/
theorem pairwise_issuedAt {steps : List (Call χ)} (forward : Forward steps) (bridge : Bridge χ) :
    (bridge.traceOfSteps steps).Pairwise fun earlier later =>
      earlier.attempt.issuedAt ≤ later.attempt.issuedAt := by
  induction steps generalizing bridge with
  | nil => exact .nil
  | cons step rest ih =>
      obtain ⟨across, later⟩ := forward_cons.mp forward
      refine List.pairwise_append.mpr ⟨?_, ih later _, ?_⟩
      · apply List.pairwise_of_forall_mem_list
        intro one first other second
        have same := (issuedAt_handedBy first).symm.trans (issuedAt_handedBy second)
        exact Nat.le_of_eq (Option.some.inj same)
      · intro one first other second
        exact across _ (issuedAt_handedBy first) _ (issuedAt_traceOfSteps second)

/-! ## Who was issued first -/

omit [Channel χ] in
/-- Of two attempts that wait one was issued first, and the other is in front of it. -/
theorem Ranked.cases {trace : List Handed} {bridge : Bridge χ} (ranked : Ranked trace bridge)
    {first second : Attempt} (one : first ∈ bridge.pending.attempts)
    (other : second ∈ bridge.pending.attempts) (apart : first ≠ second) :
    (bridge.place first.serial < bridge.place second.serial ∧
        [second.bare, first.bare].Sublist bridge.pending.bare) ∨
      (bridge.place second.serial < bridge.place first.serial ∧
        [first.bare, second.bare].Sublist bridge.pending.bare) := by
  have places : ∀ {newer older}, [newer, older].Sublist bridge.pending.bare →
      bridge.place older.serial < bridge.place newer.serial :=
    List.pairwise_iff_forall_sublist.mp ranked.places
  have bareApart : first.bare ≠ second.bare := by
    intro same
    have distinct := List.inj_on_of_nodup_map bridge.pending.distinct one other
    exact apart (distinct (Attempt.serial_of_bare same))
  rcases pair_sublist_or (List.mem_map_of_mem one) (List.mem_map_of_mem other) bareApart with
    order | order
  · have before := places order
    exact Or.inr ⟨before, order⟩
  · have before := places order
    exact Or.inl ⟨before, order⟩

omit [Channel χ] in
theorem Ranked.in_front {trace : List Handed} {bridge : Bridge χ} (ranked : Ranked trace bridge)
    {first second : Attempt} (one : first ∈ bridge.pending.attempts)
    (other : second ∈ bridge.pending.attempts)
    (before : bridge.place first.serial < bridge.place second.serial) :
    [second.bare, first.bare].Sublist bridge.pending.bare := by
  have apart : first ≠ second := fun same => Nat.lt_irrefl _ (same ▸ before)
  rcases ranked.cases one other apart with ⟨-, order⟩ | ⟨after, -⟩
  · exact order
  · exact absurd after (Nat.lt_asymm before)

theorem ranked_steps {start : Bridge χ} (begun : start.pending = .empty) {steps : List (Call χ)}
    (single : ∀ step ∈ steps, ∀ events now, step ≠ .batch events now) :
    Ranked (start.traceOfSteps steps) (start.run steps) := by
  refine (kept_ranked start).ofSteps steps single ⟨?_, ?_⟩
  · rw [begun]
    exact .nil
  · rw [begun]
    exact List.nil_sublist _

/-- What is in front in the table was not issued at an earlier instant. -/
theorem issuedAt_le {start bridge : Bridge χ} {steps : List (Call χ)} (forward : Forward steps)
    (ranked : Ranked (start.traceOfSteps steps) bridge) {first second : Attempt}
    (order : [second.bare, first.bare].Sublist bridge.pending.bare) :
    first.issuedAt ≤ second.issuedAt := by
  have sorted : (((start.traceOfSteps steps).filter (·.reply = .accepted)).map
      (·.attempt.bare)).Pairwise fun earlier later => earlier.issuedAt ≤ later.issuedAt :=
    List.pairwise_map.mpr ((pairwise_issuedAt forward start).filter _)
  have issued : [first.bare, second.bare].Sublist _ := order.reverse.trans ranked.accepted
  have before := List.pairwise_iff_forall_sublist.mp sorted issued
  exact before

end

end Bridge

end ModemLink
