/-
Module: ModemLink.Proofs.Lineup
Purpose: When requests that fail together are told in the order in which they were issued.
Main exports: Enters, enters_call, InTurn, Lineup, InLine.call, InLine.playAll, failed_in_order
-/
import ModemLink.Proofs.Precedence
import ModemLink.Proofs.Register

namespace ModemLink

/-!
All that a batch issues is issued at one instant, so among attempts of one batch their serials
decide in which order they are told that they fail.  A caller draws its serial before it hands its
request in, and a retry draws one when it is issued.  So serials were drawn in the order of issue,
unless a retry is issued before a request whose serial a caller had drawn earlier; and what was
drawn earlier is the smaller number, unless the numbers started again from 1 in between.
-/

/-- The serial after one is greater, unless the numbers start again. -/
theorem Serial.lt_successor {serial : Serial} (goesOn : serial.successor ≠ ⟨1⟩) :
    serial.value < serial.successor.value := by
  have number := serial.toNat_successor
  have small := serial.value.toNat_lt
  have other : serial.successor.value.toNat ≠ 1 := by
    intro one
    apply goesOn
    have value : serial.successor.value = 1 := UInt32.toNat_inj.mp one
    rw [← value]
  rw [UInt32.lt_iff_toNat_lt]
  simp only [UInt32.size] at number
  omega

namespace SerialSource

/-- As long as the numbers do not start again, they rise. -/
theorem nth_lt_nth {source : SerialSource} {m n : Nat} (later : m < n)
    (unbroken : ∀ k, m < k → k ≤ n → source.nth k ≠ ⟨1⟩) :
    (source.nth m).value < (source.nth n).value := by
  induction n with
  | zero => exact absurd later (Nat.not_lt_zero m)
  | succ n ih =>
      have step : (source.nth n).value < (source.nth (n + 1)).value := by
        have goesOn := unbroken (n + 1) later (Nat.le_refl _)
        rw [nth_succ] at goesOn ⊢
        exact Serial.lt_successor goesOn
      rcases Nat.eq_or_lt_of_le (Nat.le_of_lt_succ later) with rfl | before
      · exact step
      · exact UInt32.lt_trans (ih before fun k above below =>
          unbroken k above (Nat.le_succ_of_le below)) step

end SerialSource

namespace Attempt

/-- The attempt is one of a request, and there is room for one more at each rung below it. -/
def Numbered (attempt : Attempt) : Prop :=
  1 ≤ attempt.number.toNat ∧
    attempt.number.toNat + attempt.kind.ladder.rungsBelow attempt.version ≤
      RequestKind.maxRungs + 1

theorem numbered_ofSubmission (submission : Submission) (version : Version) (now : Instant) :
    (ofSubmission submission version now).Numbered := by
  have rungs := Nat.le_trans (submission.kind.ladder.rungsBelow_le_length version)
    submission.kind.length_rungs_le
  exact ⟨Nat.le_refl 1, (Nat.add_le_add_left rungs 1).trans_eq (Nat.add_comm _ _)⟩

/-- A retry at a lower rung has the next number. -/
theorem Numbered.reissue {attempt : Attempt} (numbered : attempt.Numbered) {table : VersionTable}
    {version : Version} (lower : table.next attempt.kind attempt.version = some version)
    (serial : Serial) (now : Instant) :
    (attempt.reissue serial version now).Numbered ∧
      (attempt.reissue serial version now).number.toNat = attempt.number.toNat + 1 := by
  obtain ⟨some, room⟩ := numbered
  have small : RequestKind.maxRungs + 1 < UInt32.size := by decide
  obtain ⟨follows, number⟩ := follows_reissue (VersionTable.rungsBelow_next_lt lower)
    (Nat.lt_of_le_of_lt room small) serial now
  exact ⟨⟨Nat.le_trans some follows.number, Nat.le_trans follows.room room⟩, number⟩

end Attempt

namespace PendingTable

theorem map_serial_bare (table : PendingTable) :
    table.bare.map Attempt.serial = table.serials := by
  rw [bare, List.map_map]
  rfl

/-- What is in front of other attempts has another serial than they. -/
theorem serial_not_mem_of_bare {table others : PendingTable} {attempt : Attempt}
    (entered : table.bare = attempt :: others.bare) : attempt.serial ∉ others.serials := by
  have distinct : table.serials.Nodup := table.distinct
  rw [← map_serial_bare, entered, List.map_cons, List.nodup_cons, map_serial_bare] at distinct
  exact distinct.1

end PendingTable

namespace Bridge

variable {χ : Type}

section

variable [Channel χ]

/-! ## What enters the table -/

omit [Channel χ] in
theorem Course.sublist_of_empty {before after : Bridge χ} {hand held : Hand} {handed : List Handed}
    (course : Course before hand handed after held) (empty : hand = .empty) :
    after.pending.bare.Sublist before.pending.bare := by
  induction course with
  | done => exact .refl _
  | step leg rest ih =>
      subst empty
      rcases leg.bare_cases with fewer | ⟨attempt, impossible, -⟩
      · refine (ih ?_).trans fewer
        cases leg <;> rfl
      · cases impossible

/-- What enters the table while an attempt is issued is this attempt, or a retry after it. -/
theorem Issue.enters {bridge after : Bridge χ} {attempt : Attempt} {now : Instant}
    {trace : List (Attempt × SendReply)} (issued : Issue now bridge attempt trace after)
    (numbered : attempt.Numbered) :
    after.pending = bridge.pending ∨
      ∃ last, after.pending.attempts = last.holding :: bridge.pending.attempts ∧ last.Numbered ∧
        (after.retries = bridge.retries ∧ last = attempt ∨
          bridge.retries < after.retries ∧ attempt.number.toNat < last.number.toNat) := by
  induction issued with
  | @accepted bridge attempt pending channel spoken inserted replied =>
      refine Or.inr ⟨attempt, PendingTable.attempts_insert? inserted, numbered, Or.inl ⟨?_, rfl⟩⟩
      exact retries_handOver bridge now attempt .accepted channel
  | @unavailable bridge attempt pending channel reason spoken inserted replied =>
      have settles := settles_finish (bridge.handOver attempt (.unavailable reason) channel now)
        attempt.holding (.failed (.channelUnavailable attempt.kind)) now
      exact Or.inl (settles.pending.trans (pending_handOver bridge attempt _ channel now))
  | @exhausted bridge attempt pending channel spoken inserted replied lowest =>
      left
      rw [(settles_finish _ attempt.holding _ now).pending, pending_lowered, pending_handOver]
  | @retried bridge after attempt pending channel version trace spoken inserted replied lower rest
      ih =>
      obtain ⟨next, number⟩ := numbered.reissue lower bridge.serials.take.1 now
      have retries : (after.releaseLock now).retries = after.retries :=
        retries_releaseIf after now true
      rw [retries, (sameRequests_releaseLock after now).pending]
      have onward := ih next
      rw [pending_retrying, pending_handOver, retries_retrying, retries_handOver] at onward
      refine onward.imp_right ?_
      rintro ⟨last, table, fits, ⟨same, rfl⟩ | ⟨more, above⟩⟩
      · exact ⟨_, table, fits, Or.inr ⟨by omega, by omega⟩⟩
      · exact ⟨last, table, fits, Or.inr ⟨by omega, by omega⟩⟩

/-- What a call does to the table, in which besides the attempt it answers the attempts `others`
wait: perhaps some of them leave it; or the request that a caller handed in enters it; or a retry
does, for which a serial was drawn. -/
inductive Enters (before after : Bridge χ) (others : List Attempt) (own : Option Serial) :
    Prop where
  | nothing (fewer : after.pending.bare.Sublist others)
  | handedIn {attempt : Attempt} (table : after.pending.bare = attempt :: others)
      (numbered : attempt.Numbered) (first : attempt.number = 1)
      (same : after.retries = before.retries) (named : own = some attempt.serial)
  | retry {attempt : Attempt} (table : after.pending.bare = attempt :: others)
      (numbered : attempt.Numbered) (again : attempt.number ≠ 1)
      (drawn : before.retries < after.retries)

theorem enters_submit {bridge : Bridge χ} {submission : Submission} {now : Instant}
    (sound : (bridge.submit submission now).collision = none) :
    Enters bridge (bridge.submit submission now) bridge.pending.bare (some submission.serial) := by
  cases spoken : bridge.versions.current submission.kind with
  | none =>
      have same := (settles_submit_of_unspoken spoken now).pending
      exact .nothing (same ▸ .refl _)
  | some version =>
      obtain ⟨trace, issued⟩ := submit_of_spoken spoken sound
      have one : (Attempt.ofSubmission submission version now).number.toNat = 1 := rfl
      have numbered := Attempt.numbered_ofSubmission submission version now
      rcases issued.enters numbered with same | ⟨last, table, fits, ⟨same, rfl⟩ | ⟨more, above⟩⟩
      · exact .nothing (same ▸ .refl _)
      · exact .handedIn (congrArg (List.map Attempt.bare) table) fits rfl same rfl
      · refine .retry (congrArg (List.map Attempt.bare) table) fits ?_ more
        intro first
        have number : last.number.toNat = 1 := congrArg UInt32.toNat first
        rw [one, number] at above
        exact Nat.lt_irrefl 1 above

omit [Channel χ] in
/-- Before a call something was done that drew no serial. -/
theorem Enters.after {first before after : Bridge χ} {others : List Attempt} {own : Option Serial}
    (enters : Enters before after others own) (same : before.retries = first.retries) :
    Enters first after others own := by
  cases enters with
  | nothing fewer => exact .nothing fewer
  | handedIn table numbered new none named =>
      exact .handedIn table numbered new (none.trans same) named
  | retry table numbered again drawn => exact .retry table numbered again (same ▸ drawn)

theorem enters_fallBack {bridge : Bridge χ} {attempt : Attempt} {now : Instant}
    (numbered : attempt.Numbered)
    (sound : (bridge.fallBack attempt attempt.version now).collision = none) :
    Enters bridge (bridge.fallBack attempt attempt.version now) bridge.pending.bare none := by
  rcases fallBack_cases sound with ⟨lowest, course⟩ |
    ⟨version, trace, after, lower, issued, course⟩
  · rw [course]
    apply Enters.nothing
    rw [(settles_finish _ attempt _ now).pending, pending_lowered]
  · obtain ⟨next, number⟩ := numbered.reissue lower bridge.serials.take.1 now
    have entered := issued.enters next
    have pending := (sameRequests_releaseIf after attempt.holdsLock now).pending
    have retries := retries_releaseIf after now attempt.holdsLock
    rw [pending_retrying, retries_retrying] at entered
    rw [course]
    rcases entered with same | ⟨last, table, fits, drawn⟩
    · apply Enters.nothing
      rw [pending, same]
    · have ahead : bridge.retries < after.retries ∧ last.number.toNat ≠ 1 := by
        have some := numbered.1
        rcases drawn with ⟨same, rfl⟩ | ⟨more, above⟩ <;> omega
      have whole : (after.releaseIf attempt.holdsLock now).pending.bare =
          last.bare :: bridge.pending.bare := by
        rw [pending, PendingTable.bare, table]
        rfl
      exact .retry whole fits (fun first => ahead.2 (congrArg UInt32.toNat first))
        (retries ▸ ahead.1)

theorem enters_onAnswer {bridge : Bridge χ} {header : AnswerHeader} {payload : Payload}
    {now : Instant} (numbered : ∀ waiting ∈ bridge.pending.bare, waiting.Numbered)
    (sound : (bridge.onAnswer header payload now).collision = none) :
    Enters bridge (bridge.onAnswer header payload now)
      (bridge.pending.erase header.serial).bare none := by
  cases current : bridge.pending.find? header.serial with
  | none =>
      have same := (sameRequests_onAnswer_of_stale current payload now).pending
      rw [PendingTable.erase_of_find?_none current]
      exact .nothing (same ▸ .refl _)
  | some attempt =>
      have fits : attempt.Numbered :=
        numbered attempt.bare (List.mem_map_of_mem (PendingTable.mem_attempts_of_find? current))
      have table := pending_answered bridge attempt header now
      have ended : ∀ outcome, Enters bridge ((bridge.answered attempt header now).finish attempt
          outcome now) (bridge.pending.erase header.serial).bare none := by
        intro outcome
        apply Enters.nothing
        rw [(settles_finish _ attempt outcome now).pending, table]
      rw [onAnswer_of_waiting current] at sound ⊢
      split
      · rename_i refused
        rw [if_pos refused] at sound
        have entered := enters_fallBack fits sound
        rw [table] at entered
        exact entered.after (retries_answered bridge now attempt header)
      · split
        · exact ended _
        · exact ended _

/-- Only a request that is handed in or answered can put something into the table. -/
theorem bare_call_sublist {bridge : Bridge χ} {call : Call χ}
    (single : ∀ events now, call ≠ .batch events now)
    (noRequest : ∀ submission now, call ≠ .event (.submit submission) now)
    (noAnswer : ∀ header payload now, call ≠ .event (.answer header payload) now) :
    (bridge.call call).pending.bare.Sublist bridge.pending.bare := by
  obtain ⟨middle, hand, begins, course⟩ := course_call bridge single
  cases begins with
  | bare => exact course.sublist_of_empty rfl
  | submitted => exact absurd rfl (noRequest _ _)
  | answered => exact absurd rfl (noAnswer _ _ _)

theorem enters_call {bridge : Bridge χ} {call : Call χ} (plain : call.isPlain = true)
    (sound : (bridge.call call).collision = none)
    (numbered : ∀ waiting ∈ bridge.pending.bare, waiting.Numbered) :
    Enters bridge (bridge.call call) (call.spared bridge.pending).bare call.serial? := by
  cases call with
  | batch | serialTaken => simp [Call.isPlain] at plain
  | timers | sampled | channelChanged | indicationListenerLost | statusListenerLost =>
      exact .nothing (bare_call_sublist (by simp) (by simp) (by simp))
  | event event now =>
      have reacts : bridge.call (.event event now) = bridge.react now event :=
        handle_of_sound (collision_of_handle sound) now event
      cases event with
      | submit submission =>
          rw [reacts] at sound ⊢
          exact enters_submit sound
      | answer header payload =>
          rw [reacts] at sound ⊢
          exact enters_onAnswer numbered sound
      | requestAck | indication | channelLost | channelRestarted | listenIndications | listenStatus
      | shutdown => exact .nothing (bare_call_sublist (by simp) (by simp) (by simp))

end

end Bridge

theorem Call.bare_spared_sublist {χ : Type} (call : Call χ) (table : PendingTable) :
    (call.spared table).bare.Sublist table.bare := by
  unfold spared
  split
  · exact table.bare_filter_sublist _
  · exact .refl _

/-! ## The book -/

namespace Register

variable {χ : Type}

/-- The draw of the request that is handed to the bridge in a move. -/
def Move.handed? : Move χ → Option Draw
  | .handled draw _ _ => some draw
  | _ => none

section

variable [Channel χ]

/-- The moves can be made, with no serial in use for longer than a round, and requests come to the
bridge in the order in which callers drew their serials. -/
structure InTurn (register : Register χ) (moves : List (Move χ)) : Prop where
  lawful : register.Lawful moves
  inOrder : (moves.filterMap Move.handed?).Pairwise (·.ordinal < ·.ordinal)

end

/-- The attempts `waiting`, newest first, have serials that were drawn in the order in which they
were issued, unless a retry is followed by a new request.  The new requests still to come have draws
from `floor` on. -/
structure Lineup (floor : Nat) (ordinals : Serial → Nat) (waiting : List Attempt) : Prop where
  numbered : ∀ attempt ∈ waiting, attempt.Numbered
  first : ∀ attempt ∈ waiting, attempt.number = 1 → ordinals attempt.serial < floor
  inOrder : waiting.Pairwise fun newer older =>
    older.number = 1 ∨ newer.number ≠ 1 → ordinals older.serial < ordinals newer.serial

namespace Lineup

variable {floor : Nat} {ordinals : Serial → Nat} {attempt : Attempt} {waiting others : List Attempt}

theorem nil (floor : Nat) (ordinals : Serial → Nat) : Lineup floor ordinals [] :=
  ⟨by simp, by simp, .nil⟩

theorem fewer (lineup : Lineup floor ordinals waiting) (sublist : others.Sublist waiting) :
    Lineup floor ordinals others :=
  ⟨fun attempt member => lineup.numbered attempt (sublist.subset member),
    fun attempt member => lineup.first attempt (sublist.subset member),
    lineup.inOrder.sublist sublist⟩

theorem later (lineup : Lineup floor ordinals waiting) {next : Nat} (above : floor ≤ next) :
    Lineup next ordinals waiting :=
  { lineup with
    first := fun attempt member one => Nat.lt_of_lt_of_le (lineup.first attempt member one) above }

/-- Only the draws of these attempts matter. -/
theorem congr (lineup : Lineup floor ordinals waiting) {book : Serial → Nat}
    (same : ∀ attempt ∈ waiting, book attempt.serial = ordinals attempt.serial) :
    Lineup floor book waiting where
  numbered := lineup.numbered
  first := by
    intro attempt member
    rw [same attempt member]
    exact lineup.first attempt member
  inOrder := by
    refine lineup.inOrder.imp_of_mem ?_
    intro newer older new old
    rw [same newer new, same older old]
    exact id

/-- A new request is lined up, whose serial was drawn after those of the new requests before it. -/
theorem handedIn (lineup : Lineup floor ordinals waiting) (numbered : attempt.Numbered)
    (new : attempt.number = 1) (inTurn : floor ≤ ordinals attempt.serial) :
    Lineup (ordinals attempt.serial + 1) ordinals (attempt :: waiting) where
  numbered := List.forall_mem_cons.mpr ⟨numbered, lineup.numbered⟩
  first := List.forall_mem_cons.mpr ⟨fun _ => Nat.lt_succ_self _,
    (lineup.later (Nat.le_succ_of_le inTurn)).first⟩
  inOrder := by
    refine List.pairwise_cons.mpr ⟨?_, lineup.inOrder⟩
    rintro older member (one | again)
    · exact Nat.lt_of_lt_of_le (lineup.first older member one) inTurn
    · exact absurd new again

/-- A retry is lined up, whose serial was drawn after all others. -/
theorem retry (lineup : Lineup floor ordinals waiting) (numbered : attempt.Numbered)
    (again : attempt.number ≠ 1)
    (newest : ∀ older ∈ waiting, ordinals older.serial < ordinals attempt.serial) :
    Lineup floor ordinals (attempt :: waiting) where
  numbered := List.forall_mem_cons.mpr ⟨numbered, lineup.numbered⟩
  first := List.forall_mem_cons.mpr ⟨fun one => absurd one again, lineup.first⟩
  inOrder := List.pairwise_cons.mpr ⟨fun older member _ => newest older member, lineup.inOrder⟩

end Lineup

section

variable [Channel χ] {source : SerialSource} {register : Register χ} {floor : Nat} {one : Call χ}
  {own : Option Draw}

/-- What waits is lined up by the ordinals that the book has. -/
def InLine (register : Register χ) (floor : Nat) : Prop :=
  Lineup floor register.ordinals register.bridge.pending.bare

/-! ### Ordinals after a call -/

theorem ordinals_call_of_spared {serial : Serial}
    (spared : serial ∈ (one.spared register.bridge.pending).serials) :
    (register.call one own).ordinals serial = register.ordinals serial :=
  if_pos spared

/-- A request that enters the table without a retry has the ordinal of its caller's draw. -/
theorem ordinals_call_of_caller {serial : Serial} {draw : Draw}
    (free : serial ∉ (one.spared register.bridge.pending).serials)
    (same : (register.bridge.call one).retries = register.bridge.retries) :
    (register.call one (some draw)).ordinals serial = draw.ordinal := by
  simp [Register.call, free, same]

/-- A retry that enters the table has the ordinal of the last draw. -/
theorem ordinals_call_of_retry {serial : Serial}
    (free : serial ∉ (one.spared register.bridge.pending).serials)
    (drawn : register.bridge.retries < (register.bridge.call one).retries) :
    (register.call one own).ordinals serial =
      register.taken + (register.bridge.call one).retries - 1 := by
  simp [Register.call, free, Nat.ne_of_gt drawn]

omit [Channel χ] in
/-- What waits has an ordinal below the number of draws. -/
theorem Sound.ordinal_lt_drawn (sound : register.Sound source) {serial : Serial}
    (waits : serial ∈ register.bridge.pending.serials) :
    register.ordinals serial < register.taken + register.bridge.retries :=
  (sound.registered.known _ (List.mem_append_right _ (mem_live_of_serial waits))).1

/-- A call keeps what waits in line. -/
theorem InLine.call (inLine : register.InLine floor) (sound : register.Sound source)
    (after : (register.call one own).bridge.collision = none) (plain : one.isPlain = true)
    (serial : one.serial? = own.map Draw.serial) (inTurn : ∀ draw ∈ own, floor ≤ draw.ordinal) :
    (register.call one own).InLine (own.elim floor (·.ordinal + 1)) := by
  have above : floor ≤ own.elim floor (·.ordinal + 1) := by
    cases own with
    | none => exact Nat.le_refl floor
    | some draw => exact Nat.le_succ_of_le (inTurn draw rfl)
  have waits : ∀ attempt ∈ (one.spared register.bridge.pending).bare,
      attempt.serial ∈ (one.spared register.bridge.pending).serials := by
    intro attempt member
    rw [← PendingTable.map_serial_bare]
    exact List.mem_map_of_mem member
  have spared : Lineup floor (register.call one own).ordinals
      (one.spared register.bridge.pending).bare :=
    (inLine.fewer (one.bare_spared_sublist _)).congr
      fun attempt member => ordinals_call_of_spared (waits attempt member)
  cases Bridge.enters_call plain after inLine.numbered with
  | nothing fewer => exact (spared.fewer fewer).later above
  | @handedIn attempt table numbered first same named =>
      cases own with
      | none =>
          rw [serial] at named
          cases named
      | some draw =>
          have ordinal : (register.call one (some draw)).ordinals attempt.serial = draw.ordinal :=
            ordinals_call_of_caller (PendingTable.serial_not_mem_of_bare table) same
          have lined := spared.handedIn numbered first (ordinal ▸ inTurn draw rfl)
          rw [ordinal, ← table] at lined
          exact lined
  | @retry attempt table numbered again drawn =>
      have ordinal : (register.call one own).ordinals attempt.serial =
          register.taken + (register.bridge.call one).retries - 1 :=
        ordinals_call_of_retry (PendingTable.serial_not_mem_of_bare table) drawn
      -- the serial of a retry is the last that was drawn, so all others were drawn before it
      have newest : ∀ older ∈ (one.spared register.bridge.pending).bare,
          (register.call one own).ordinals older.serial <
            (register.call one own).ordinals attempt.serial := by
        intro older member
        have old := sound.ordinal_lt_drawn ((one.spared_sublist _).subset (waits older member))
        have more : register.bridge.retries < (register.bridge.call one).retries := drawn
        rw [ordinals_call_of_spared (waits older member), ordinal]
        omega
      have lined := spared.retry numbered again newest
      rw [← table] at lined
      exact lined.later above

/-- The moves of a run in turn keep what waits in line. -/
theorem InLine.playAll (inLine : register.InLine floor) (sound : register.Sound source)
    (begun : source.upcoming.isNone = false) {moves : List (Move χ)}
    (inTurn : register.InTurn moves)
    (above : ∀ draw ∈ moves.filterMap Move.handed?, floor ≤ draw.ordinal) :
    ∃ next, (register.playAll moves).InLine next := by
  induction moves generalizing register floor with
  | nil => exact ⟨floor, inLine⟩
  | cons move rest ih =>
      obtain ⟨⟨allowed, window, lawful⟩, inOrder⟩ := inTurn
      have after := sound.play begun allowed window
      cases move with
      | taken | queued | dropped => exact ih inLine after ⟨lawful, inOrder⟩ above
      | handled draw submission now =>
          obtain ⟨later, inOrder⟩ := List.pairwise_cons.mp inOrder
          have lined := inLine.call sound after.collision rfl (congrArg some allowed.2)
            fun other same => by cases same; exact above draw List.mem_cons_self
          exact ih lined after ⟨lawful, inOrder⟩ later
      | called one =>
          have lined := inLine.call sound after.collision allowed.1 allowed.2 (by simp)
          exact ih lined after ⟨lawful, inOrder⟩ above

omit [Channel χ] in
/-- Of two attempts that wait, the one issued first has the serial drawn first, unless it is a retry
and the other a new request. -/
theorem InLine.ordinal_lt (inLine : register.InLine floor) {first second : Attempt}
    (inFront : [second.bare, first.bare].Sublist register.bridge.pending.bare)
    (alike : first.number = 1 ∨ second.number ≠ 1) :
    register.ordinals first.serial < register.ordinals second.serial := by
  have inOrder : ∀ {newer older}, [newer, older].Sublist register.bridge.pending.bare →
      older.number = 1 ∨ newer.number ≠ 1 →
        register.ordinals older.serial < register.ordinals newer.serial :=
    List.pairwise_iff_forall_sublist.mp inLine.inOrder
  have drawn := inOrder inFront alike
  exact drawn

omit [Channel χ] in
/-- The book has the draw of what waits. -/
theorem Sound.serial_eq_nth (sound : register.Sound source) {attempt : Attempt}
    (waits : attempt ∈ register.bridge.pending.attempts) :
    attempt.serial = source.nth (register.ordinals attempt.serial) := by
  have live := mem_live_of_serial (List.mem_map_of_mem waits)
  exact (sound.registered.known _ (List.mem_append_right _ live)).2

theorem InTurn.lined {config : BridgeConfig} {seed : UInt32} {channel : χ} {moves : List (Move χ)}
    (inTurn : InTurn { bridge := .new config (.start seed) channel } moves) :
    (playAll { bridge := .new config (.start seed) channel } moves).Sound (.start seed) ∧
      ∃ floor, (playAll { bridge := .new config (.start seed) channel } moves).InLine floor := by
  have begun := SerialSource.isNone_start seed
  have sound : Register.Sound (.start seed)
      { bridge := Bridge.new config (.start seed) channel } :=
    ⟨rfl, rfl, ⟨fun _ member => absurd member List.not_mem_nil, List.nodup_nil⟩,
      fun _ member => absurd member List.not_mem_nil⟩
  have inLine : InLine { bridge := Bridge.new config (.start seed) channel } 0 := .nil 0 _
  exact ⟨sound.playAll begun inTurn.lawful,
    inLine.playAll sound begun inTurn fun draw _ => Nat.zero_le draw.ordinal⟩

end

end Register

namespace Bridge

variable {χ : Type} [Channel χ]

/-- In every run whose calls are made in the order of their instants, from every seed on: wherever
several requests fail together, because they are too old, because the channel is lost or because the
bridge shuts down, they are told so in one order, and nothing else is told.  Of any two of them one
was issued first, and at no later instant than the other.  It is told first exactly if it was issued
at an earlier instant or if its serial is the smaller number.

Let callers hand their requests in in the order in which they took the serials, none of which is in
use for longer than a round.  If the one issued first is a new request, or the other is a retry too,
then its serial was drawn first.  So it is told first, unless the numbers started again from 1
between the two draws. -/
theorem failed_in_order (config : BridgeConfig) (seed : UInt32) (channel : χ)
    (calls : List (Call χ)) (forward : Forward calls) {earlier later : List (Call χ)}
    {step : Call χ} (split : calls.flatMap Call.steps = earlier ++ step :: later)
    {together : List Attempt} {told : Attempt → Ticket × Outcome}
    (fails : FailsTogether ((new config (.start seed) channel).run earlier) step together told) :
    let start := new config (.start seed) channel
    let bridge := start.run earlier
    (bridge.call step).outcomes =
      bridge.outcomes ++ (PendingTable.inOrder together).map told ∧
    (∀ first ∈ together, ∀ second ∈ together, first ≠ second →
      bridge.place first.serial ≠ bridge.place second.serial ∧
      (bridge.place first.serial < bridge.place second.serial →
        first.issuedAt ≤ second.issuedAt ∧
        ([first, second].Sublist (PendingTable.inOrder together) ↔
          first.issuedAt < second.issuedAt ∨ first.serial.value < second.serial.value))) ∧
    ∀ moves : List (Register.Move χ), moves.filterMap Register.Move.call? = earlier →
      Register.InTurn { bridge := start } moves →
      let register := Register.playAll { bridge := start } moves
      ∀ first ∈ together, ∀ second ∈ together,
        bridge.place first.serial < bridge.place second.serial →
        first.number = 1 ∨ second.number ≠ 1 →
        let m := register.ordinals first.serial
        let n := register.ordinals second.serial
        m < n ∧ first.serial = (SerialSource.start seed).nth m ∧
        second.serial = (SerialSource.start seed).nth n ∧
        ((∀ k, m < k → k ≤ n → (SerialSource.start seed).nth k ≠ ⟨1⟩) →
          [first, second].Sublist (PendingTable.inOrder together)) := by
  intro start bridge
  have single : ∀ step ∈ earlier, ∀ events now, step ≠ .batch events now := by
    intro one member
    have among : one ∈ calls.flatMap Call.steps := split ▸ List.mem_append_left _ member
    exact not_batch_of_mem_run among
  have early : Forward earlier := (split ▸ forward_steps forward : Forward (earlier ++ _)).left
  have ranked : Ranked (start.traceOfSteps earlier) bridge := ranked_steps rfl single
  have waits := fails.sublist.subset
  refine ⟨fails.outcomes, ?_, ?_⟩
  · intro first one second other apart
    have order := ranked.cases (waits one) (waits other) apart
    refine ⟨?_, fun before => ?_⟩
    · exact order.elim (fun before => Nat.ne_of_lt before.1) fun after => Nat.ne_of_gt after.1
    · have notLater := issuedAt_le early ranked (ranked.in_front (waits one) (waits other) before)
      exact ⟨notLater, fails.pair_sublist_iff one other apart notLater⟩
  · intro moves made inTurn register first one second other before alike m n
    have own : register.bridge = bridge := by
      rw [Register.bridge_playAll, made]
    have inFront := ranked.in_front (waits one) (waits other) before
    obtain ⟨sound, floor, inLine⟩ := inTurn.lined
    have drawnFirst : m < n := inLine.ordinal_lt (own ▸ inFront) alike
    have draw : first.serial = (SerialSource.start seed).nth m :=
      sound.serial_eq_nth (own ▸ waits one)
    have drawOther : second.serial = (SerialSource.start seed).nth n :=
      sound.serial_eq_nth (own ▸ waits other)
    refine ⟨drawnFirst, draw, drawOther, fun unbroken => ?_⟩
    have apart : first ≠ second := fun same => Nat.lt_irrefl _ (same ▸ before)
    have notLater := issuedAt_le early ranked inFront
    refine (fails.pair_sublist_iff one other apart notLater).mpr (Or.inr ?_)
    rw [draw, drawOther]
    exact SerialSource.nth_lt_nth drawnFirst unbroken

/-- Two requests of one batch, the second of which the channel refuses at first, and which goes out
again under the last number: the channel is lost, and they hear of it in the order in which they
were issued. -/
theorem failed_in_order_beside_retry :
    let status : Submission := ⟨⟨4294967293⟩, .getSimStatus, .empty, .unknown, 0, 7⟩
    let sms : Submission := ⟨⟨4294967294⟩, .sendSms, .empty, .unknown, 0, 8⟩
    let start := new {} (.start 4294967293)
      ({ refused := [(.sendSms, ⟨1, 6⟩)] } : RecordingChannel)
    let earlier := [.serialTaken, .serialTaken, .timers 0, .event (.submit status) 0,
      .event (.submit sms) 0, .sampled, .timers 5]
    let bridge := start.run earlier
    (bridge.call (.event .channelLost 5)).outcomes =
        [(7, .failed (.channelUnavailable .getSimStatus)),
          (8, .failed (.channelUnavailable .sendSms))] ∧
      ∃ first ∈ bridge.pending.attempts, ∃ second ∈ bridge.pending.attempts,
        first.number = 1 ∧ second.number = 2 ∧ first.issuedAt = second.issuedAt ∧
        bridge.place first.serial < bridge.place second.serial ∧
        [first, second].Sublist (PendingTable.inOrder bridge.pending.attempts) := by
  intro status sms start earlier bridge
  let calls : List (Call RecordingChannel) := [.serialTaken, .serialTaken,
    .batch [.submit status, .submit sms] 0, .batch [.channelLost] 5]
  let moves : List (Register.Move RecordingChannel) := [.taken, .taken,
    .queued ⟨0, ⟨4294967293⟩⟩, .queued ⟨1, ⟨4294967294⟩⟩, .called (.timers 0),
    .handled ⟨0, ⟨4294967293⟩⟩ status 0, .handled ⟨1, ⟨4294967294⟩⟩ sms 0, .called .sampled,
    .called (.timers 5)]
  have split : calls.flatMap Call.steps = earlier ++ .event .channelLost 5 :: [.sampled] := rfl
  have fails : FailsTogether bridge (.event .channelLost 5) bridge.pending.attempts dropped :=
    .channelLost (by decide +kernel) 5
  obtain ⟨outcomes, -, drawn⟩ := failed_in_order {} 4294967293
    ({ refused := [(.sendSms, ⟨1, 6⟩)] } : RecordingChannel) calls (by decide) split fails
  have inTurn : Register.InTurn { bridge := start } moves := ⟨by decide +kernel, by decide⟩
  have waits : ∃ first ∈ bridge.pending.attempts, ∃ second ∈ bridge.pending.attempts,
      second.serial = ⟨4294967295⟩ ∧ first.number = 1 ∧ second.number = 2 ∧
      first.issuedAt = second.issuedAt ∧
      bridge.place first.serial < bridge.place second.serial ∧
      bridge.outcomes ++ [dropped first, dropped second] =
        [(7, .failed (.channelUnavailable .getSimStatus)),
          (8, .failed (.channelUnavailable .sendSms))] := by decide +kernel
  obtain ⟨first, one, second, other, named, new, retry, same, before, both⟩ := waits
  obtain ⟨-, -, -, told⟩ := drawn moves rfl inTurn first one second other before (.inl new)
  have last : (Register.playAll { bridge := start } moves).ordinals ⟨4294967295⟩ = 2 := by
    decide +kernel
  have unbroken : ∀ k < 3, (SerialSource.start 4294967293).nth k ≠ ⟨1⟩ := by decide
  rw [named, last] at told
  have inOrder := told fun k _ below => unbroken k (Nat.lt_succ_of_le below)
  have all : (PendingTable.inOrder bridge.pending.attempts).length = 2 := by
    rw [(PendingTable.inOrder_perm _).length_eq]
    decide +kernel
  refine ⟨?_, first, one, second, other, new, retry, same, before, inOrder⟩
  rw [outcomes, ← inOrder.eq_of_length all.symm]
  exact both

/-- Two requests of one batch, before and after the numbers start again: the channel is lost, and
the one issued last hears of it first. -/
theorem last_issued_told_first_past_last :
    let status : Submission := ⟨⟨4294967295⟩, .getSimStatus, .empty, .unknown, 0, 7⟩
    let sms : Submission := ⟨⟨1⟩, .sendSms, .empty, .unknown, 0, 8⟩
    let start := new {} (.start 4294967295) ({} : RecordingChannel)
    let calls := [.serialTaken, .serialTaken, .batch [.submit status, .submit sms] 0,
      .batch [.channelLost] 1000]
    let earlier := [.serialTaken, .serialTaken, .timers 0, .event (.submit status) 0,
      .event (.submit sms) 0, .sampled, .timers 1000]
    let moves := [.taken, .taken, .queued ⟨0, ⟨4294967295⟩⟩, .queued ⟨1, ⟨1⟩⟩, .called (.timers 0),
      .handled ⟨0, ⟨4294967295⟩⟩ status 0, .handled ⟨1, ⟨1⟩⟩ sms 0, .called .sampled,
      .called (.timers 1000)]
    let bridge := start.run earlier
    Forward calls ∧ calls.flatMap Call.steps = earlier ++ [.event .channelLost 1000, .sampled] ∧
      moves.filterMap Register.Move.call? = earlier ∧
      Register.InTurn { bridge := start } moves ∧
      bridge.place ⟨4294967295⟩ < bridge.place ⟨1⟩ ∧
      (bridge.call (.event .channelLost 1000)).outcomes =
        [(8, .failed (.channelUnavailable .sendSms)),
          (7, .failed (.channelUnavailable .getSimStatus))] := by
  intro status sms start calls earlier moves bridge
  have fails : FailsTogether bridge (.event .channelLost 1000) bridge.pending.attempts dropped :=
    .channelLost (by decide +kernel) 1000
  have sorted : bridge.pending.attempts.Pairwise fun first second =>
      first.precedes second = true := by decide +kernel
  refine ⟨by decide, rfl, rfl, ⟨by decide +kernel, by decide⟩, by decide +kernel, ?_⟩
  rw [fails.outcomes, PendingTable.inOrder, List.mergeSort_of_pairwise sorted]
  decide +kernel

/-- A retry is issued before a new request of the same batch, whose serial was taken earlier, and
the new request is told first that the channel is lost. -/
example :
    let start := new {} (.start 1) ({} : RecordingChannel)
    let sms : Submission := ⟨⟨1⟩, .sendSms, .empty, .unknown, 0, 7⟩
    let bridge := start.run [.serialTaken, .batch [.submit sms] 0, .serialTaken,
      .batch [.answer (.plain ⟨1⟩ .sendSms .requestNotSupported) .empty,
        .submit ⟨⟨2⟩, .getSimStatus, .empty, .unknown, 1000, 8⟩] 1000]
    bridge.place ⟨3⟩ < bridge.place ⟨2⟩ ∧ bridge.pending.serials = [⟨2⟩, ⟨3⟩] ∧
      bridge.pending.attempts.Pairwise fun first second => first.precedes second = true := by
  decide +kernel

end Bridge

end ModemLink
