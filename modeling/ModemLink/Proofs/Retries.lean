/-
Module: ModemLink.Proofs.Retries
Purpose: The attempts that a run makes at each request.
Main exports: AttemptsAt, Line, Lined, kept_lined, DrawsSerials, drawsSerials, attempts_of_run
-/
import ModemLink.Proofs.Provenance
import ModemLink.Proofs.Rounds

namespace ModemLink

/-!
What the channel is handed in a run falls apart into lines, one for each request that was handed in.
Beside its attempts a line keeps the attempt that goes on with the request, if there is one: it is
in the bridge's hand or in its table, and each such attempt belongs to one line.
-/

/-- One more serial is handed out after some. -/
theorem SerialSource.takeMany_succ {source later : SerialSource} {serials : List Serial}
    (taken : source.takeMany serials.length = (serials, later)) :
    source.takeMany (serials ++ [later.take.1]).length =
      (serials ++ [later.take.1], later.take.2) := by
  induction serials generalizing source with
  | nil =>
      cases taken
      rfl
  | cons serial rest ih =>
      simp only [List.length_cons, takeMany, Prod.mk.injEq, List.cons.injEq] at taken
      obtain ⟨⟨first, serials⟩, ends⟩ := taken
      have onward := ih (Prod.ext serials ends)
      simp only [List.cons_append, List.length_cons, takeMany, onward, first]

/-- These are attempts at a request, in order: numbered from 1, the first under the serial of the
request, and each at a lower rung than the one before. -/
structure AttemptsAt (submission : Submission) (made : List Handed) : Prop where
  same : ∀ handed ∈ made, handed.attempt.ticket = submission.ticket ∧
    handed.request = ⟨handed.attempt.serial, submission.kind, handed.attempt.version,
      submission.payload, submission.origin⟩
  first : ∀ handed, made.head? = some handed → handed.attempt.serial = submission.serial
  numbers : made.map (·.attempt.number.toNat) = List.range' 1 made.length
  rungs : ∀ handed ∈ made, handed.attempt.version ∈ submission.kind.ladder.rungs
  falling : made.Pairwise fun earlier later => later.attempt.version < earlier.attempt.version
  few : made.length ≤ submission.kind.ladder.rungs.length

theorem attemptsAt_nil (submission : Submission) : AttemptsAt submission [] where
  same := fun _ member => absurd member List.not_mem_nil
  first := fun _ first => nomatch first
  numbers := rfl
  rungs := fun _ member => absurd member List.not_mem_nil
  falling := .nil
  few := Nat.zero_le _

/-- The attempt is the next one at a request. -/
structure Attempt.IsNext (attempt : Attempt) (submission : Submission) (made : List Handed) :
    Prop where
  own : attempt.IsFor submission
  number : attempt.number.toNat = made.length + 1
  first : made = [] → attempt.serial = submission.serial
  rung : attempt.version ∈ submission.kind.ladder.rungs
  lower : ∀ handed ∈ made, attempt.version < handed.attempt.version
  room : made.length + submission.kind.ladder.rungsBelow attempt.version <
    submission.kind.ladder.rungs.length

/-- The attempt is the last one made at a request. -/
structure Attempt.IsLast (attempt : Attempt) (submission : Submission) (made : List Handed) :
    Prop where
  own : attempt.IsFor submission
  number : attempt.number.toNat = made.length
  some : made ≠ []
  lowest : ∀ handed ∈ made, attempt.version ≤ handed.attempt.version
  room : made.length + submission.kind.ladder.rungsBelow attempt.version ≤
    submission.kind.ladder.rungs.length

theorem Attempt.isNext_ofSubmission (submission : Submission) {version : Version}
    (rung : version ∈ submission.kind.ladder.rungs) (now : Instant) :
    (Attempt.ofSubmission submission version now).IsNext submission [] where
  own := isFor_ofSubmission submission version now
  number := rfl
  first := fun _ => rfl
  rung := rung
  lower := fun _ member => absurd member List.not_mem_nil
  room := by
    rw [List.length_nil, Nat.zero_add]
    exact Ladder.rungsBelow_lt_length rung

/-- The next attempt is made, and is the last one then. -/
theorem AttemptsAt.append {submission : Submission} {made : List Handed} {attempt : Attempt}
    (attempts : AttemptsAt submission made) (next : attempt.IsNext submission made)
    (reply : SendReply) : AttemptsAt submission (made ++ [attempt.handed reply]) where
  same := by
    intro handed member
    rcases List.mem_append.mp member with old | new
    · exact attempts.same handed old
    · rw [List.mem_singleton.mp new, ← next.own.kind, ← next.own.payload, ← next.own.origin]
      exact ⟨next.own.ticket, rfl⟩
  first := by
    intro handed first
    cases made with
    | nil =>
        cases first
        exact next.first rfl
    | cons one rest => exact attempts.first handed first
  numbers := by
    rw [List.map_append, attempts.numbers, List.length_append, List.length_singleton,
      List.range'_1_concat, List.map_singleton, Nat.add_comm 1]
    exact congrArg (fun number => _ ++ [number]) next.number
  rungs := by
    intro handed member
    rcases List.mem_append.mp member with old | new
    · exact attempts.rungs handed old
    · rw [List.mem_singleton.mp new]
      exact next.rung
  falling := by
    refine List.pairwise_append.mpr ⟨attempts.falling, List.pairwise_singleton _ _, ?_⟩
    intro earlier old later new
    rw [List.mem_singleton.mp new]
    exact next.lower earlier old
  few := by
    have room := next.room
    rw [List.length_append, List.length_singleton]
    omega

theorem Attempt.IsNext.isLast {submission : Submission} {made : List Handed} {attempt : Attempt}
    (next : attempt.IsNext submission made) (reply : SendReply) :
    attempt.IsLast submission (made ++ [attempt.handed reply]) where
  own := next.own
  number := by
    rw [List.length_append, List.length_singleton]
    exact next.number
  some := List.append_ne_nil_of_right_ne_nil _ (List.cons_ne_nil _ _)
  lowest := by
    intro handed member
    rcases List.mem_append.mp member with old | new
    · exact Nat.le_of_lt (next.lower handed old)
    · rw [List.mem_singleton.mp new]
      exact Nat.le_refl _
  room := by
    have room := next.room
    rw [List.length_append, List.length_singleton]
    omega

/-- After the last attempt the next one is made at a lower rung. -/
theorem Attempt.IsLast.isNext {submission : Submission} {made : List Handed} {attempt : Attempt}
    (last : attempt.IsLast submission made) {version : Version}
    (rung : version ∈ submission.kind.ladder.rungs) (lower : version < attempt.version)
    (serial : Serial) (now : Instant) :
    (attempt.reissue serial version now).IsNext submission made where
  own := last.own.of_sameRequest (attempt.sameRequest_reissue serial version now)
  number := by
    have few := submission.kind.length_rungs_le
    have room := last.room
    have number := last.number
    show (attempt.number + 1).toNat = made.length + 1
    rw [UInt32.toNat_add, number]
    apply Nat.mod_eq_of_lt
    have one : (1 : UInt32).toNat = 1 := rfl
    simp only [RequestKind.maxRungs] at few
    omega
  first := fun none => absurd none last.some
  rung := rung
  lower := by
    intro handed member
    exact Nat.lt_of_lt_of_le lower (last.lowest handed member)
  room := by
    have below := Ladder.rungsBelow_lt lower rung
    have room := last.room
    show made.length + submission.kind.ladder.rungsBelow version < _
    omega

/-! ## Lines -/

/-- What goes on with a request, marks apart. -/
inductive Live where
  /-- This attempt is made next. -/
  | upcoming (attempt : Attempt)
  /-- This attempt was made, and waits or was refused. -/
  | made (attempt : Attempt)
deriving DecidableEq

def Live.GoesOn (submission : Submission) (made : List Handed) : Live → Prop
  | .upcoming attempt => attempt.IsNext submission made
  | .made attempt => attempt.IsLast submission made

/-- A request with the attempts made at it, and with what goes on with it. -/
structure Line where
  submission : Submission
  made : List Handed
  live : Option Live

/-- The attempts of a line are attempts at its request, and so is what goes on with it. -/
structure Line.Sound (line : Line) : Prop where
  attempts : AttemptsAt line.submission line.made
  goesOn : ∀ live, line.live = some live → live.GoesOn line.submission line.made

/-- The lines of the requests handed in have all that was handed over, each in order, and all that
goes on. -/
structure Lined (handedIn : List Submission) (trace : List Handed) (lives : List Live)
    (lines : List Line) : Prop where
  requests : lines.map Line.submission = handedIn
  made : (lines.flatMap Line.made).Perm trace
  inOrder : ∀ line ∈ lines, line.made.Sublist trace
  lives : (lines.filterMap Line.live).Perm lives
  sound : ∀ line ∈ lines, line.Sound

namespace Lined

variable {handedIn : List Submission} {trace : List Handed} {lives rest : List Live}
  {lines : List Line}

theorem nil : Lined [] [] [] [] where
  requests := rfl
  made := .refl _
  inOrder := fun _ member => absurd member List.not_mem_nil
  lives := .refl _
  sound := fun _ member => absurd member List.not_mem_nil

theorem perm {others : List Live} (lined : Lined handedIn trace lives lines)
    (same : lives.Perm others) : Lined handedIn trace others lines :=
  ⟨lined.requests, lined.made, lined.inOrder, lined.lives.trans same, lined.sound⟩

/-- A request is handed in. -/
theorem append (lined : Lined handedIn trace lives lines) (submission : Submission)
    (live : Option Live) (goesOn : ∀ one, live = some one → one.GoesOn submission []) :
    Lined (handedIn ++ [submission]) trace (live.toList ++ lives)
      (lines ++ [⟨submission, [], live⟩]) where
  requests := by
    rw [List.map_append, lined.requests, List.map_singleton]
  made := by
    rw [List.flatMap_append, List.flatMap_singleton, List.append_nil]
    exact lined.made
  inOrder := by
    intro line member
    rcases List.mem_append.mp member with old | new
    · exact lined.inOrder line old
    · rw [List.mem_singleton.mp new]
      exact List.nil_sublist trace
  lives := by
    have own : [(⟨submission, [], live⟩ : Line)].filterMap Line.live = live.toList := by
      cases live <;> rfl
    rw [List.filterMap_append, own]
    exact List.perm_append_comm.trans (lined.lives.append_left live.toList)
  sound := by
    intro line member
    rcases List.mem_append.mp member with old | new
    · exact lined.sound line old
    · rw [List.mem_singleton.mp new]
      exact ⟨attemptsAt_nil submission, goesOn⟩

/-- What goes on belongs to one line. -/
theorem exists_line {live : Live} (lined : Lined handedIn trace (live :: rest) lines) :
    ∃ before line after, lines = before ++ line :: after ∧ line.live = some live ∧
      ((before ++ after).filterMap Line.live).Perm rest := by
  have member : live ∈ lines.filterMap Line.live :=
    lined.lives.mem_iff.mpr List.mem_cons_self
  obtain ⟨line, there, own⟩ := List.mem_filterMap.mp member
  obtain ⟨before, after, rfl⟩ := List.append_of_mem there
  refine ⟨before, line, after, rfl, own, ?_⟩
  have all := lined.lives
  rw [List.filterMap_append, List.filterMap_cons_some own] at all
  rw [List.filterMap_append]
  exact (List.perm_middle.symm.trans all).cons_inv

/-- One line goes on with more attempts or with another one. -/
theorem update {live : Live} (lined : Lined handedIn trace (live :: rest) lines)
    (more : List Handed) (next : Option Live)
    (goesOn : ∀ submission made, AttemptsAt submission made → live.GoesOn submission made →
      (⟨submission, made ++ more, next⟩ : Line).Sound) :
    ∃ others, Lined handedIn (trace ++ more) (next.toList ++ rest) others := by
  obtain ⟨before, line, after, rfl, own, all⟩ := lined.exists_line
  have sound := lined.sound line (List.mem_append_right before List.mem_cons_self)
  have changed := goesOn line.submission line.made sound.attempts (sound.goesOn live own)
  have others : ∀ other, other ∈ before ++ after → other ∈ before ++ line :: after := by
    intro other member
    rcases List.mem_append.mp member with old | new
    · exact List.mem_append_left _ old
    · exact List.mem_append_right _ (List.mem_cons_of_mem _ new)
  refine ⟨before ++ ⟨line.submission, line.made ++ more, next⟩ :: after, ?_⟩
  constructor
  · have requests := lined.requests
    rw [List.map_append, List.map_cons] at requests ⊢
    exact requests
  · have made := lined.made
    rw [List.flatMap_append, List.flatMap_cons] at made ⊢
    rw [List.perm_iff_count] at made ⊢
    intro handed
    have here := made handed
    simp only [List.count_append] at here ⊢
    omega
  · intro other member
    rcases List.mem_append.mp member with old | new
    · exact (lined.inOrder other (others other (List.mem_append_left _ old))).trans
        (List.sublist_append_left _ _)
    · rcases List.mem_cons.mp new with rfl | new
      · exact (lined.inOrder line (List.mem_append_right before List.mem_cons_self)).append
          (List.Sublist.refl more)
      · exact (lined.inOrder other (others other (List.mem_append_right _ new))).trans
          (List.sublist_append_left _ _)
  · have own : [(⟨line.submission, line.made ++ more, next⟩ : Line)].filterMap Line.live =
        next.toList := by
      cases next <;> rfl
    rw [← List.singleton_append, List.filterMap_append, List.filterMap_append, own]
    rw [List.filterMap_append] at all
    refine .trans ?_ (all.append_left next.toList)
    rw [← List.append_assoc, ← List.append_assoc]
    exact List.perm_append_comm.append_right _
  · intro other member
    rcases List.mem_append.mp member with old | new
    · exact lined.sound other (others other (List.mem_append_left _ old))
    · rcases List.mem_cons.mp new with rfl | new
      · exact changed
      · exact lined.sound other (others other (List.mem_append_right _ new))

/-- An attempt ends. -/
theorem drop {live : Live} (lined : Lined handedIn trace (live :: rest) lines) :
    ∃ others, Lined handedIn trace rest others := by
  have dropped := lined.update [] none fun submission made attempts goesOn => by
    rw [List.append_nil]
    exact ⟨attempts, fun live impossible => nomatch impossible⟩
  rwa [List.append_nil] at dropped

/-- The attempts that are not kept end. -/
theorem dropAll {gone : List Live} (lined : Lined handedIn trace (gone ++ rest) lines) :
    ∃ others, Lined handedIn trace rest others := by
  induction gone generalizing lines with
  | nil => exact ⟨lines, lined⟩
  | cons live others ih =>
      obtain ⟨fewer, left⟩ := lined.drop
      exact ih left

/-- An attempt is made. -/
theorem make {attempt : Attempt}
    (lined : Lined handedIn trace (.upcoming attempt.bare :: rest) lines) (reply : SendReply) :
    ∃ others, Lined handedIn (trace ++ [attempt.handed reply]) (.made attempt.bare :: rest)
      others :=
  lined.update [attempt.handed reply] (some (.made attempt.bare))
    fun submission made attempts goesOn => by
      have next : attempt.IsNext submission made :=
        ⟨⟨goesOn.own.ticket, goesOn.own.kind, goesOn.own.payload, goesOn.own.origin⟩,
          goesOn.number, goesOn.first, goesOn.rung, goesOn.lower, goesOn.room⟩
      refine ⟨attempts.append next reply, ?_⟩
      rintro live ⟨⟩
      have last := next.isLast reply
      exact ⟨⟨last.own.ticket, last.own.kind, last.own.payload, last.own.origin⟩, last.number,
        last.some, last.lowest, last.room⟩

/-- An attempt that was made is followed by one at a lower rung. -/
theorem retry {attempt : Attempt} (lined : Lined handedIn trace (.made attempt.bare :: rest) lines)
    {version : Version} (rung : version ∈ attempt.kind.ladder.rungs)
    (lower : version < attempt.version) (serial : Serial) (now : Instant) :
    ∃ others, Lined handedIn trace
      (.upcoming (attempt.reissue serial version now).bare :: rest) others := by
  have retried := lined.update [] (some (.upcoming (attempt.reissue serial version now).bare))
    fun submission made attempts goesOn => by
      have ofKind : attempt.kind = submission.kind := goesOn.own.kind
      rw [List.append_nil]
      refine ⟨attempts, ?_⟩
      rintro live ⟨⟩
      exact Attempt.IsLast.isNext goesOn (ofKind ▸ rung) lower serial now
  rwa [List.append_nil] at retried

/-- Requests are handed in that nothing goes on with. -/
theorem appendAll (lined : Lined handedIn trace lives lines) (submissions : List Submission) :
    ∃ others, Lined (handedIn ++ submissions) trace lives others := by
  induction submissions generalizing handedIn lines with
  | nil =>
      rw [List.append_nil]
      exact ⟨lines, lined⟩
  | cons submission rest ih =>
      have one := lined.append submission none fun live impossible => nomatch impossible
      obtain ⟨others, all⟩ := ih one
      rw [List.append_assoc] at all
      exact ⟨others, all⟩

end Lined

/-- What goes on with the attempt in hand. -/
def Hand.lives : Hand → List Live
  | .empty => []
  | .upcoming attempt => [.upcoming attempt.bare]
  | .refused attempt => [.made attempt.bare]

namespace Bridge

variable {χ : Type}

/-- What goes on: in hand, and in the table. -/
def lives (bridge : Bridge χ) (hand : Hand) : List Live :=
  hand.lives ++ bridge.pending.bare.map Live.made

theorem lives_of_pending {before after : Bridge χ} (same : after.pending = before.pending)
    (hand : Hand) : after.lives hand = before.lives hand := by
  rw [lives, same]
  rfl

/-- The attempts that stay in the table, after those that leave it. -/
theorem lives_removed (bridge : Bridge χ) (hand : Hand) (keep : Attempt → Bool) :
    (bridge.lives hand).Perm
      ((bridge.pending.filter (fun attempt => !keep attempt)).bare.map Live.made ++
        { bridge with pending := bridge.pending.filter keep }.lives hand) := by
  have parts := (List.filter_append_perm keep bridge.pending.attempts).symm
  have all := (parts.map Attempt.bare).map Live.made
  rw [List.map_append, List.map_append] at all
  refine (all.append_left hand.lives).trans ?_
  rw [← List.append_assoc]
  exact List.perm_append_comm

/-- Each leg takes the lines on. -/
theorem lined_leg {cap : Option Version} {before after : Bridge χ} {hand held : Hand}
    {handed : List Handed} {handedIn : List Submission} {trace : List Handed} {lines : List Line}
    (orderly : Orderly cap before) (lined : Lined handedIn trace (before.lives hand) lines)
    (leg : Leg before hand handed after held) :
    ∃ others, Lined handedIn (trace ++ handed) (after.lives held) others := by
  cases leg with
  | settled settles =>
      rw [List.append_nil, lives_of_pending settles.pending]
      exact ⟨lines, lined⟩
  | @marked _ pending bare =>
      have same : { before with pending := pending }.lives hand = before.lives hand :=
        congrArg (fun attempts => hand.lives ++ attempts.map Live.made) bare
      rw [List.append_nil, same]
      exact ⟨lines, lined⟩
  | removed _ keep =>
      rw [List.append_nil]
      exact (lined.perm (lives_removed before hand keep)).dropAll
  | stopped | serialTaken =>
      rw [List.append_nil]
      exact ⟨lines, lined⟩
  | collided now =>
      have same := lives_of_pending (sameRequests_acquireLock before now).pending .empty
      obtain ⟨others, left⟩ := lined.drop
      rw [List.append_nil]
      exact ⟨others, same ▸ left⟩
  | @accepted attempt pending channel now spoken inserted =>
      obtain ⟨others, made⟩ := lined.make .accepted
      refine ⟨others, made.perm ?_⟩
      have put : pending.bare = attempt.bare :: before.pending.bare := by
        rw [PendingTable.bare, PendingTable.attempts_insert? inserted]
        rfl
      show List.Perm _ (pending.bare.map Live.made)
      rw [put]
      exact .refl _
  | @unavailable attempt reason channel now =>
      obtain ⟨others, made⟩ := lined.make (.unavailable reason)
      rw [lives_of_pending (pending_handOver before attempt _ channel now)]
      exact made.drop
  | @refused attempt channel now =>
      rw [lives_of_pending (pending_handOver before attempt _ channel now)]
      exact lined.make .versionRefused
  | @retried attempt version now lower =>
      obtain ⟨rung, -⟩ := VersionTable.next_allowed (orderly.spoken attempt.kind) lower
      obtain ⟨current, below, -, -, falls, rfl⟩ := VersionTable.next_eq_some lower
      have lower : min current below < attempt.version := by
        rw [Version.lt_def, Version.rank_min]
        exact Nat.lt_of_le_of_lt (Nat.min_le_right _ _) falls
      rw [List.append_nil]
      exact lined.retry rung lower _ now
  | exhausted =>
      rw [List.append_nil]
      exact lined.drop

theorem lined_begins {cap : Option Version} {before after : Bridge χ} {call : Call χ} {hand : Hand}
    {handedIn : List Submission} {trace : List Handed} {lines : List Line}
    (orderly : Orderly cap before) (lined : Lined handedIn trace (before.lives .empty) lines)
    (begins : Begins before call after hand) :
    ∃ others, Lined (handedIn ++ call.submissions) trace (after.lives hand) others := by
  cases begins with
  | bare call => exact lined.appendAll call.submissions
  | @submitted submission version now sound spoken =>
      have rung := (orderly.spoken submission.kind version spoken).1
      refine ⟨_, lined.append submission (some _) ?_⟩
      rintro live ⟨⟩
      exact Attempt.isNext_ofSubmission submission rung now
  | @answered header payload attempt now sound waits unknown =>
      have taken := ((PendingTable.perm_erase waits).map Attempt.bare).map Live.made
      obtain ⟨others, all⟩ := lined.appendAll []
      exact ⟨others, all.perm taken⟩

section

variable [Channel χ]

theorem kept_lined (start : Bridge χ) (cap : Option Version) :
    Kept start fun calls trace bridge hand => Orderly cap bridge ∧
      ∃ lines, Lined (calls.flatMap Call.submissions) trace (bridge.lives hand) lines where
  begins := by
    rintro calls trace call middle hand ⟨orderly, lines, lined⟩ begins
    rw [List.flatMap_append, List.flatMap_singleton]
    exact ⟨orderly.begins begins, lined_begins orderly lined begins⟩
  leg := by
    rintro calls trace before hand handed after held ⟨orderly, lines, lined⟩ leg
    exact ⟨orderly.leg leg, lined_leg orderly lined leg⟩

/-! ## Serials -/

/-- The serials of attempts that are not the first at their request. -/
def retrySerials (trace : List Handed) : List Serial :=
  (trace.filter (·.attempt.number ≠ 1)).map (·.attempt.serial)

/-- The retries of a call go out under serials that are drawn while the call is handled, in the
order in which they are drawn. -/
def DrawsSerials (bridge : Bridge χ) (call : Call χ) : Prop :=
  ∃ drawn, bridge.serials.takeMany drawn.length = (drawn, (bridge.call call).serials) ∧
    (retrySerials (bridge.handedBy call)).Sublist drawn

/-- The serial of the retry that is to be handed over next. -/
def upcomingSerial : Hand → List Serial
  | .upcoming attempt => if attempt.number = 1 then [] else [attempt.serial]
  | _ => []

/-- From a source on, serials were drawn up to now, among them those of the retries handed over and
of the one in hand. -/
def Drawn (source : SerialSource) (trace : List Handed) (bridge : Bridge χ) (hand : Hand) : Prop :=
  ∃ drawn, source.takeMany drawn.length = (drawn, bridge.serials) ∧
    (retrySerials trace ++ upcomingSerial hand).Sublist drawn

omit [Channel χ] in
theorem retrySerials_handed (trace : List Handed) (attempt : Attempt) (reply : SendReply) :
    retrySerials (trace ++ [attempt.handed reply]) =
      retrySerials trace ++ upcomingSerial (.upcoming attempt) := by
  have own : (attempt.handed reply).attempt = attempt := rfl
  rw [retrySerials, List.filter_append, List.map_append]
  by_cases first : attempt.number = 1
  · rw [upcomingSerial, if_pos first, List.filter_cons_of_neg (by simp [own, first])]
    rfl
  · rw [upcomingSerial, if_neg first, List.filter_cons_of_pos (by simp [own, first])]
    rfl

namespace Drawn

variable {source : SerialSource} {trace more : List Handed} {before after : Bridge χ}
  {hand held : Hand}

omit [Channel χ] in
/-- Nothing is drawn, and no other retry is taken in hand. -/
theorem keep (drawn : Drawn source trace before hand) (same : after.serials = before.serials)
    (fewer : (retrySerials more ++ upcomingSerial held).Sublist
      (retrySerials trace ++ upcomingSerial hand)) : Drawn source more after held := by
  obtain ⟨serials, taken, fresh⟩ := drawn
  rw [← same] at taken
  exact ⟨serials, taken, fewer.trans fresh⟩

omit [Channel χ] in
/-- The attempt in hand is handed over. -/
theorem handed {attempt : Attempt} (drawn : Drawn source trace before (.upcoming attempt))
    (reply : SendReply) (same : after.serials = before.serials)
    (none : upcomingSerial held = []) :
    Drawn source (trace ++ [attempt.handed reply]) after held := by
  have moved : retrySerials (trace ++ [attempt.handed reply]) ++ upcomingSerial held =
      retrySerials trace ++ upcomingSerial (.upcoming attempt) := by
    rw [retrySerials_handed, none, List.append_nil]
  exact drawn.keep same (moved ▸ .refl _)

omit [Channel χ] in
/-- One serial is drawn, for the retry in hand or for something else. -/
theorem draw (drawn : Drawn source trace before hand)
    (taken : after.serials = before.serials.take.2)
    (fewer : (upcomingSerial held).Sublist [before.serials.take.1]) :
    Drawn source trace after held := by
  obtain ⟨serials, earlier, fresh⟩ := drawn
  refine ⟨serials ++ [before.serials.take.1], ?_, ?_⟩
  · rw [taken]
    exact SerialSource.takeMany_succ earlier
  · exact ((List.sublist_append_left _ _).trans fresh).append fewer

omit [Channel χ] in
theorem leg {handed : List Handed} (drawn : Drawn source trace before hand)
    (leg : Leg before hand handed after held) : Drawn source (trace ++ handed) after held := by
  cases leg with
  | settled settles =>
      rw [List.append_nil]
      exact drawn.keep settles.serials (.refl _)
  | marked | removed | stopped =>
      rw [List.append_nil]
      exact drawn
  | serialTaken =>
      rw [List.append_nil]
      exact drawn.draw rfl (List.nil_sublist _)
  | collided now =>
      rw [List.append_nil]
      exact drawn.keep (sameRequests_acquireLock before now).serials
        ((List.Sublist.refl _).append (List.nil_sublist _))
  | @accepted attempt pending channel now =>
      exact drawn.handed .accepted (serials_handOver before attempt .accepted channel now) rfl
  | @unavailable attempt reason channel now =>
      exact drawn.handed _ (serials_handOver before attempt _ channel now) rfl
  | @refused attempt channel now =>
      exact drawn.handed .versionRefused (serials_handOver before attempt _ channel now) rfl
  | retried now lower =>
      rw [List.append_nil]
      apply drawn.draw rfl
      rw [upcomingSerial]
      split
      · exact List.nil_sublist _
      · exact .refl _
  | exhausted lowest =>
      rw [List.append_nil]
      exact drawn

end Drawn

/-- Retries take their serials where callers take theirs. -/
theorem kept_drawn (start : Bridge χ) :
    Kept start fun _ trace bridge hand => Drawn start.serials trace bridge hand where
  begins := by
    rintro calls trace call middle hand drawn begins
    cases begins with
    | bare | answered => exact drawn
    | submitted => exact drawn.keep rfl (.refl _)
  leg := fun drawn leg => drawn.leg leg

theorem drawsSerials (bridge : Bridge χ) {call : Call χ}
    (single : ∀ events now, call ≠ .batch events now) : bridge.DrawsSerials call := by
  have none : Drawn bridge.serials [] bridge .empty := ⟨[], rfl, .slnil⟩
  have only : ∀ step ∈ [call], ∀ events now, step ≠ .batch events now := by
    intro step member
    rwa [List.mem_singleton.mp member]
  have whole : Drawn bridge.serials ([] ++ bridge.traceOfSteps [call])
      (bridge.run ([] ++ [call])) .empty := (kept_drawn bridge).steps only none
  obtain ⟨drawn, taken, fresh⟩ := whole
  rw [List.nil_append, traceOfSteps, traceOfSteps, List.append_nil] at fresh
  exact ⟨drawn, taken, (List.sublist_append_left _ _).trans fresh⟩

/-! ## The attempts of a run -/

/-- In every run what is handed to the channel falls apart into the attempts at the requests handed
in: one line for each request, its attempts in the order in which they are made.  They carry what
the caller handed in, are numbered from 1, and go down the ladder, so that they are no more than its
rungs; each but the first goes out under a serial drawn in the very step in which it is made.  Every
event is dealt with after at most as many rounds of issuing as the longest ladder has rungs. -/
theorem attempts_of_run (config : BridgeConfig) (serials : SerialSource) (channel : χ)
    (calls : List (Call χ)) :
    let start := Bridge.new config serials channel
    let steps := calls.flatMap Call.steps
    (start.run calls).handovers = (start.trace calls).map Handed.frame ∧
    (∃ lines : List (Submission × List Handed),
      lines.map Prod.fst = steps.flatMap Call.submissions ∧
      (lines.flatMap Prod.snd).Perm (start.trace calls) ∧
      ∀ line ∈ lines, line.2.Sublist (start.trace calls) ∧ AttemptsAt line.1 line.2) ∧
    (∀ earlier step later, steps = earlier ++ step :: later →
      (start.run earlier).DrawsSerials step) ∧
    ∀ now event, (start.run calls).reactWithin RequestKind.maxRungs now event =
      some ((start.run calls).react now event) := by
  intro start steps
  have begins : Orderly config.versionCap start ∧
      ∃ lines, Lined [] [] (start.lives .empty) lines :=
    ⟨orderly_new config serials channel, [], .nil⟩
  obtain ⟨orderly, lines, lined⟩ := (kept_lined start config.versionCap).run begins calls
  refine ⟨?_, ⟨lines.map fun line => (line.submission, line.made), ?_, ?_, ?_⟩, ?_, ?_⟩
  · exact handovers_run start calls
  · rw [List.map_map]
    exact lined.requests
  · rw [List.flatMap_map]
    exact lined.made
  · intro line member
    obtain ⟨whole, there, rfl⟩ := List.mem_map.mp member
    exact ⟨lined.inOrder whole there, (lined.sound whole there).attempts⟩
  · intro earlier step later split
    have member : step ∈ steps := split ▸ List.mem_append_right earlier List.mem_cons_self
    exact drawsSerials _ (not_batch_of_mem_run member)
  · exact fun now event => reactWithin_maxRungs orderly now event

/-- The channel refuses a request at 1.6 and the modem at 1.4: it goes out three times, and all that
is handed over are the attempts at it. -/
theorem attempts_of_run_down_three_rungs :
    let submission : Submission := ⟨⟨1⟩, .getSignalStrength, .empty, .unknown, 0, 7⟩
    let start := Bridge.new {} (.start 2)
      ({ refused := [(.getSignalStrength, ⟨1, 6⟩)] } : RecordingChannel)
    let calls := [.event (.submit submission) 0,
      .event (.answer (.plain ⟨2⟩ .getSignalStrength .requestNotSupported) .empty) 1]
    (start.trace calls).map (fun handed => (handed.attempt.number, handed.request)) =
      [(1, ⟨⟨1⟩, .getSignalStrength, ⟨1, 6⟩, .empty, .unknown⟩),
        (2, ⟨⟨2⟩, .getSignalStrength, ⟨1, 4⟩, .empty, .unknown⟩),
        (3, ⟨⟨3⟩, .getSignalStrength, ⟨1, 2⟩, .empty, .unknown⟩)] ∧
      AttemptsAt submission (start.trace calls) := by
  intro submission start calls
  obtain ⟨-, ⟨lines, requests, all, attempts⟩, -, -⟩ := attempts_of_run {} (.start 2)
    ({ refused := [(.getSignalStrength, ⟨1, 6⟩)] } : RecordingChannel) calls
  have one : lines.length = 1 := (List.length_map Prod.fst).symm.trans (congrArg _ requests)
  obtain ⟨line, rfl⟩ := List.length_eq_one_iff.mp one
  obtain ⟨inOrder, own⟩ := attempts line List.mem_cons_self
  rw [List.flatMap_singleton] at all
  have whole : line.2 = start.trace calls := inOrder.eq_of_length all.length_eq
  have request : line.1 = submission := List.singleton_inj.mp requests
  rw [whole, request] at own
  exact ⟨by decide +kernel, own⟩

end

end Bridge

end ModemLink
