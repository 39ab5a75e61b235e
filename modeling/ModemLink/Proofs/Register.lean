/-
Module: ModemLink.Proofs.Register
Purpose: Who has which serial, and that no two requests ever have the same.
Main exports:
  toNat_nth, nth_ne_nth, Draw, Register, Register.Move, Register.Lawful, Registered,
  serials_never_collide
-/
import Mathlib.Data.List.Nodup
import Mathlib.Data.List.Perm.Subperm
import ModemLink.Proofs.Drawing

namespace ModemLink

/-!
Serials are handed out to callers and to retries, in the order of their numbers, and after the last
number from 1 on.  They come into use in another order: a caller may wait before it queues its
request, and a queued request may wait before the bridge handles it.  The register keeps a book of
that: for each serial in use it has how many were handed out before.  As long as no serial in use is
older than one round, two of them differ where these numbers do.
-/

namespace SerialSource

theorem nth_succ (source : SerialSource) (n : Nat) :
    source.nth (n + 1) = (source.nth n).successor := by
  induction n generalizing source with
  | zero => rfl
  | succ n ih => exact ih source.take.2

/-- A source hands out after `m` others what it would have handed out itself. -/
theorem nth_nth (source : SerialSource) (m n : Nat) :
    (⟨source.nth m⟩ : SerialSource).nth n = source.nth (m + n) := by
  induction n with
  | zero => rfl
  | succ n ih => rw [nth_succ, ih, ← Nat.add_assoc, nth_succ]

end SerialSource

theorem Serial.toNat_successor (serial : Serial) :
    serial.successor.value.toNat = serial.value.toNat % (UInt32.size - 1) + 1 := by
  obtain ⟨value⟩ := serial
  have small := value.toNat_lt
  unfold successor
  split
  · rename_i last
    simp only at last
    subst last
    rfl
  · rename_i other
    have below : value.toNat ≠ UInt32.size - 1 := by
      intro same
      apply other
      apply UInt32.toNat_inj.mp
      exact same
    show (value + 1).toNat = value.toNat % (UInt32.size - 1) + 1
    have one : (1 : UInt32).toNat = 1 := rfl
    rw [UInt32.toNat_add, one]
    simp only [UInt32.size] at below ⊢
    omega

namespace SerialSource

/-- Serials go round: they are numbers from 1 on, and after the last the first comes again. -/
theorem toNat_nth {source : SerialSource} (begun : source.upcoming.isNone = false) (n : Nat) :
    (source.nth n).value.toNat =
      (source.upcoming.value.toNat - 1 + n) % (UInt32.size - 1) + 1 := by
  have positive : source.upcoming.value.toNat ≠ 0 := by
    intro zero
    have none : source.upcoming.value = 0 := UInt32.toNat_inj.mp zero
    simp [Serial.isNone, none] at begun
  have small := source.upcoming.value.toNat_lt
  induction n with
  | zero =>
      show source.upcoming.value.toNat = _
      simp only [UInt32.size]
      omega
  | succ n ih =>
      rw [nth_succ, Serial.toNat_successor, ih]
      simp only [UInt32.size]
      omega

theorem isNone_nth {source : SerialSource} (begun : source.upcoming.isNone = false) (n : Nat) :
    (source.nth n).isNone = false := by
  have number := toNat_nth begun n
  cases none : (source.nth n).isNone with
  | false => rfl
  | true =>
      have zero : (source.nth n).value = 0 := of_decide_eq_true none
      rw [zero] at number
      simp at number

/-- Within one round no serial is handed out twice. -/
theorem nth_ne_nth {source : SerialSource} (begun : source.upcoming.isNone = false) {m n : Nat}
    (later : m < n) (near : n - m < UInt32.size - 1) : source.nth m ≠ source.nth n := by
  intro same
  have first := toNat_nth begun m
  have second := toNat_nth begun n
  rw [same, second] at first
  simp only [UInt32.size] at first near
  omega

theorem isNone_start (seed : UInt32) : (start seed).upcoming.isNone = false := by
  by_cases zero : seed = 0 <;> simp [start, zero, Serial.isNone]

end SerialSource

/-! ## The book -/

/-- A serial that was handed out, and how many were handed out before it. -/
structure Draw where
  ordinal : Nat
  serial : Serial
deriving DecidableEq

/-- A bridge, with a book of the serials that were handed out. -/
structure Register (χ : Type) where
  bridge : Bridge χ
  /-- How many serials callers took. -/
  taken : Nat := 0
  /-- The serials that callers took and did not use yet. -/
  free : List Draw := []
  /-- The serials of queued requests. -/
  queued : List Draw := []
  /-- For each serial that a request waits under, how many were handed out before it. -/
  ordinals : Serial → Nat := fun _ => 0

namespace Register

/-- What can happen to serials and to a bridge. -/
inductive Move (χ : Type) where
  /-- A caller takes a serial. -/
  | taken
  /-- A caller queues a request under a serial that was taken. -/
  | queued (draw : Draw)
  /-- A queued request is dropped. -/
  | dropped (draw : Draw)
  /-- A queued request is handed to the bridge. -/
  | handled (draw : Draw) (submission : Submission) (now : Instant)
  /-- The bridge is called for something else. -/
  | called (call : Call χ)

variable {χ : Type}

/-- The call on the bridge that a move makes. -/
def Move.call? : Move χ → Option (Call χ)
  | .taken => some .serialTaken
  | .queued _ | .dropped _ => none
  | .handled _ submission now => some (.event (.submit submission) now)
  | .called call => some call

/-- How many serials were handed out, to callers and for retries. -/
def drawn (register : Register χ) : Nat :=
  register.taken + register.bridge.retries

/-- The serials under which attempts wait. -/
def waiting (register : Register χ) : List Draw :=
  register.bridge.pending.serials.map fun serial => ⟨register.ordinals serial, serial⟩

/-- The serials in use: those of the requests that are queued, or that wait. -/
def live (register : Register χ) : List Draw :=
  register.queued ++ register.waiting

/-- Fewer serials than there are were handed out since any of those in use. -/
def InWindow (register : Register χ) : Prop :=
  ∀ draw ∈ register.live, register.drawn - (draw.ordinal + 1) < UInt32.size - 1

instance (register : Register χ) : Decidable register.InWindow :=
  inferInstanceAs (Decidable (∀ draw ∈ register.live, _))

section

variable [Channel χ]

/-- The bridge is called, perhaps for a queued request.  What waited before keeps its serial.  A
request that begins to wait does so under the serial of its caller, or under the newest if one was
drawn for a retry. -/
def call (register : Register χ) (call : Call χ) (own : Option Draw) : Register χ :=
  let after := register.bridge.call call
  let newest := if after.retries = register.bridge.retries then (own.map Draw.ordinal).getD 0
    else register.taken + after.retries - 1
  { register with
    bridge := after
    queued := own.elim register.queued register.queued.erase
    ordinals := fun serial =>
      if serial ∈ (call.spared register.bridge.pending).serials then register.ordinals serial
      else newest }

/-- Make a move. -/
def play (register : Register χ) : Move χ → Register χ
  | .taken =>
    { register with
      bridge := register.bridge.call .serialTaken
      taken := register.taken + 1
      free := register.free ++ [⟨register.drawn, register.bridge.serials.upcoming⟩] }
  | .queued draw =>
    { register with
      free := register.free.erase draw
      queued := register.queued ++ [draw] }
  | .dropped draw => { register with queued := register.queued.erase draw }
  | .handled draw submission now => register.call (.event (.submit submission) now) (some draw)
  | .called call => register.call call none

/-- Make some moves, one after the other. -/
def playAll (register : Register χ) (moves : List (Move χ)) : Register χ :=
  moves.foldl play register

omit [Channel χ] in
/-- Whether a move can be made: requests are queued under serials that were taken for them, and are
handed to the bridge under these.  A batch is made move by move. -/
def Allows (register : Register χ) : Move χ → Prop
  | .taken => True
  | .queued draw => draw ∈ register.free
  | .dropped draw => draw ∈ register.queued
  | .handled draw submission _ => draw ∈ register.queued ∧ submission.serial = draw.serial
  | .called call => call.isPlain = true ∧ call.serial? = none

omit [Channel χ] in
instance (register : Register χ) : (move : Move χ) → Decidable (register.Allows move)
  | .taken => inferInstanceAs (Decidable True)
  | .queued _ => inferInstanceAs (Decidable (_ ∈ _))
  | .dropped _ => inferInstanceAs (Decidable (_ ∈ _))
  | .handled _ _ _ => inferInstanceAs (Decidable (_ ∈ _ ∧ _ = _))
  | .called _ => inferInstanceAs (Decidable (_ = _ ∧ _ = _))

/-- Whether these moves can be made, and no serial is in use for longer than a round. -/
def Lawful (register : Register χ) : List (Move χ) → Prop
  | [] => True
  | move :: rest =>
    register.Allows move ∧ (register.play move).InWindow ∧ (register.play move).Lawful rest

instance decidableLawful : (register : Register χ) → (moves : List (Move χ)) →
    Decidable (register.Lawful moves)
  | _, [] => inferInstanceAs (Decidable True)
  | register, move :: rest =>
    have := decidableLawful (register.play move) rest
    inferInstanceAs (Decidable (_ ∧ _ ∧ _))

end

end Register

/-! ## What is registered -/

/-- These are different draws from a source, out of the first so many. -/
structure Registered (source : SerialSource) (drawn : Nat) (draws : List Draw) : Prop where
  known : ∀ draw ∈ draws, draw.ordinal < drawn ∧ draw.serial = source.nth draw.ordinal
  distinct : (draws.map Draw.ordinal).Nodup

namespace Registered

variable {source : SerialSource} {drawn later : Nat} {draws others : List Draw}

/-- Some of the draws, in any order. -/
theorem some (registered : Registered source drawn draws) (fewer : others.Subperm draws)
    (after : drawn ≤ later) : Registered source later others where
  known := by
    intro draw member
    obtain ⟨old, own⟩ := registered.known draw (fewer.subset member)
    exact ⟨Nat.lt_of_lt_of_le old after, own⟩
  distinct := by
    obtain ⟨order, perm, sublist⟩ := fewer
    have among := (sublist.map Draw.ordinal).nodup registered.distinct
    exact (perm.map Draw.ordinal).nodup_iff.mp among

/-- One more, which was drawn later than all of them. -/
theorem insert (registered : Registered source drawn (draws ++ others)) {ordinal : Nat}
    (fresh : drawn ≤ ordinal) (old : ordinal < later) :
    Registered source later (draws ++ ⟨ordinal, source.nth ordinal⟩ :: others) := by
  have whole : Registered source later (⟨ordinal, source.nth ordinal⟩ :: (draws ++ others)) := by
    constructor
    · intro draw member
      rcases List.mem_cons.mp member with rfl | member
      · exact ⟨old, rfl⟩
      · obtain ⟨before, own⟩ := registered.known draw member
        exact ⟨by omega, own⟩
    · apply List.nodup_cons.mpr
      refine ⟨?_, registered.distinct⟩
      intro member
      obtain ⟨draw, among, same⟩ := List.mem_map.mp member
      have before := (registered.known draw among).1
      simp only at same
      omega
  exact whole.some List.perm_middle.subperm (Nat.le_refl later)

/-- Two draws from one round are the same if their serials are. -/
theorem eq_of_serial (registered : Registered source drawn draws)
    (begun : source.upcoming.isNone = false) {first second : Draw} (one : first ∈ draws)
    (other : second ∈ draws) (recent : drawn - (first.ordinal + 1) < UInt32.size - 1)
    (recentToo : drawn - (second.ordinal + 1) < UInt32.size - 1)
    (same : first.serial = second.serial) : first = second := by
  obtain ⟨old, own⟩ := registered.known first one
  obtain ⟨oldToo, ownToo⟩ := registered.known second other
  rw [own, ownToo] at same
  have ordinal : first.ordinal = second.ordinal := by
    rcases Nat.lt_trichotomy first.ordinal second.ordinal with earlier | equal | later
    · exact absurd same (SerialSource.nth_ne_nth begun earlier (by omega))
    · exact equal
    · exact absurd same.symm (SerialSource.nth_ne_nth begun later (by omega))
  obtain ⟨n, serial⟩ := first
  obtain ⟨m, serialToo⟩ := second
  simp only at ordinal own ownToo
  subst ordinal
  rw [own, ownToo]

end Registered

theorem Call.spared_sublist {χ : Type} (call : Call χ) (table : PendingTable) :
    (call.spared table).serials.Sublist table.serials := by
  unfold spared
  split
  · exact table.serials_filter_sublist _
  · exact .refl _

namespace Register

variable {χ : Type}

/-- The book is right, and no serials collided. -/
structure Sound (source : SerialSource) (register : Register χ) : Prop where
  upcoming : register.bridge.serials = ⟨source.nth register.drawn⟩
  collision : register.bridge.collision = none
  registered : Registered source register.drawn (register.free ++ register.live)
  window : register.InWindow

namespace Sound

variable {source : SerialSource} {register : Register χ}

/-- The draw under which an attempt waits. -/
theorem mem_live_of_serial {serial : Serial} (waits : serial ∈ register.bridge.pending.serials) :
    (⟨register.ordinals serial, serial⟩ : Draw) ∈ register.live :=
  List.mem_append_right _ (List.mem_map.mpr ⟨serial, waits, rfl⟩)

/-- No two requests that are queued or wait have the same serial. -/
theorem nodup (sound : register.Sound source) (begun : source.upcoming.isNone = false) :
    (register.live.map Draw.serial).Nodup := by
  have live : register.live.Nodup := by
    have distinct := sound.registered.distinct
    rw [List.map_append] at distinct
    exact .of_map Draw.ordinal (List.nodup_append.mp distinct).2.1
  refine live.map_on ?_
  intro first one second other same
  exact sound.registered.eq_of_serial begun (List.mem_append_right _ one)
    (List.mem_append_right _ other) (sound.window first one) (sound.window second other) same

/-- A request that is handed to the bridge does not find its serial taken. -/
theorem fresh_own (sound : register.Sound source) (begun : source.upcoming.isNone = false)
    {draw : Draw} (queued : draw ∈ register.queued) :
    draw.serial ∉ register.bridge.pending.serials := by
  intro taken
  have distinct := sound.nodup begun
  rw [live, List.map_append, List.nodup_append] at distinct
  have waits : draw.serial ∈ register.waiting.map Draw.serial := by
    simpa [waiting] using taken
  exact distinct.2.2 _ (List.mem_map_of_mem queued) _ waits rfl

/-- A retry that is drawn while an attempt waits does not get its serial, unless it waited for a
whole round by then. -/
theorem fresh_drawn (sound : register.Sound source) (begun : source.upcoming.isNone = false)
    {serial : Serial} (waits : serial ∈ register.bridge.pending.serials) {n : Nat}
    (near : register.drawn + n - register.ordinals serial < UInt32.size - 1) :
    register.bridge.serials.nth n ≠ serial := by
  have member : (⟨register.ordinals serial, serial⟩ : Draw) ∈ register.live :=
    mem_live_of_serial waits
  obtain ⟨old, own⟩ := sound.registered.known _ (List.mem_append_right _ member)
  simp only at old own
  rw [sound.upcoming, SerialSource.nth_nth]
  intro same
  exact SerialSource.nth_ne_nth begun (by omega) near (own.symm.trans same.symm)

end Sound

section

variable [Channel χ] {source : SerialSource} {register : Register χ}

/-- The draws of serials under which attempts wait. -/
def drawsOf (register : Register χ) (serials : List Serial) : List Draw :=
  serials.map fun serial => ⟨register.ordinals serial, serial⟩

variable {one : Call χ} {own : Option Draw}

omit [Channel χ] in
/-- The queue without the request in hand. -/
theorem queued_perm (mine : own.toList ⊆ register.queued) :
    register.queued.Perm (own.toList ++ own.elim register.queued register.queued.erase) := by
  cases own with
  | none => exact .refl _
  | some draw => exact List.perm_cons_erase (mine List.mem_cons_self)

theorem drawn_call : (register.call one own).drawn =
    register.taken + (register.bridge.call one).retries := rfl

/-- What waited before a call has the ordinals that it had. -/
theorem drawsOf_call {serials : List Serial}
    (spared : serials ⊆ (one.spared register.bridge.pending).serials) :
    (register.call one own).drawsOf serials = register.drawsOf serials := by
  apply List.map_congr_left
  intro serial member
  simp [Register.call, spared member]

omit [Channel χ] in
/-- Where nothing is added, the book stays right. -/
theorem Sound.registered_of_fewer (sound : register.Sound source) {draws : List Draw} {drawn : Nat}
    (later : register.drawn ≤ drawn) (queued : draws.Subperm register.queued)
    {serials : List Serial} (waiting : serials.Sublist register.bridge.pending.serials) :
    Registered source drawn (register.free ++ (draws ++ register.drawsOf serials)) := by
  have waits : (register.drawsOf serials).Subperm register.waiting := (waiting.map _).subperm
  exact sound.registered.some ((List.Subperm.refl _).append (queued.append waits)) later

/-- The serials of the request in hand are free. -/
theorem Sound.fresh (sound : register.Sound source) (begun : source.upcoming.isNone = false)
    (mine : own.toList ⊆ register.queued) {count : Nat}
    (draws : Bridge.Draws register.bridge (register.bridge.call one)
      (one.spared register.bridge.pending).serials (own.map Draw.serial) count)
    (window : (register.call one own).InWindow) :
    ∀ n ≤ count, ∀ serial ∈ register.bridge.serials.newest (own.map Draw.serial) n,
      serial ∉ (one.spared register.bridge.pending).serials := by
  intro n within serial drawn taken
  have waits := (one.spared_sublist register.bridge.pending).subset taken
  cases n with
  | zero =>
      cases own with
      | none => cases drawn
      | some draw =>
          cases drawn
          exact sound.fresh_own begun (mine List.mem_cons_self) waits
  | succ n =>
      cases drawn
      -- the attempt with that serial waits also after the call, and is not too old then
      have ordinal : (register.call one own).ordinals (register.bridge.serials.nth n) =
          register.ordinals (register.bridge.serials.nth n) := if_pos taken
      have recent := window _ (Sound.mem_live_of_serial (draws.stay taken))
      rw [drawn_call, draws.retries, ordinal] at recent
      have near : register.drawn + n - register.ordinals (register.bridge.serials.nth n) <
          UInt32.size - 1 := by
        simp only [drawn] at recent ⊢
        omega
      exact sound.fresh_drawn begun waits near rfl

/-- A request that begins to wait has the draw of its caller, or the newest one. -/
theorem Sound.added (sound : register.Sound source) {count : Nat} {last : Serial}
    (retries : (register.bridge.call one).retries = register.bridge.retries + count)
    (newest : last ∈ register.bridge.serials.newest (own.map Draw.serial) count)
    (fresh : last ∉ (one.spared register.bridge.pending).serials) :
    own = some ⟨(register.call one own).ordinals last, last⟩ ∨
      register.drawn ≤ (register.call one own).ordinals last ∧
      (register.call one own).ordinals last < (register.call one own).drawn ∧
      last = source.nth ((register.call one own).ordinals last) := by
  cases count with
  | zero =>
      left
      cases own with
      | none => cases newest
      | some draw =>
          cases newest
          simp [Register.call, fresh, retries]
  | succ k =>
      right
      have ordinal : (register.call one own).ordinals last = register.drawn + k := by
        simp only [Register.call, fresh, retries, if_false, drawn]
        rw [if_neg (by omega)]
        omega
      cases newest
      rw [drawn_call, retries, ordinal, ← SerialSource.nth_nth, ← sound.upcoming]
      refine ⟨Nat.le_add_right _ _, ?_, rfl⟩
      simp only [drawn]
      omega

theorem queued_call_subperm (one : Call χ) (mine : own.toList ⊆ register.queued) :
    (register.call one own).queued.Subperm register.queued :=
  (List.sublist_append_right _ _).subperm.trans (queued_perm mine).symm.subperm

/-- The book stays right in a call that draws: a request that begins to wait takes the draw of its
caller along, or is entered with the newest one. -/
theorem Sound.registered_of_draws (sound : register.Sound source)
    (begun : source.upcoming.isNone = false) (mine : own.toList ⊆ register.queued) {count : Nat}
    (draws : Bridge.Draws register.bridge (register.bridge.call one)
      (one.spared register.bridge.pending).serials (own.map Draw.serial) count)
    (window : (register.call one own).InWindow) :
    Registered source (register.call one own).drawn
      ((register.call one own).free ++ (register.call one own).live) := by
  have rest := queued_call_subperm one mine
  have spared := one.spared_sublist register.bridge.pending
  have later : register.drawn ≤ (register.call one own).drawn := by
    rw [drawn_call, draws.retries]
    simp only [drawn]
    omega
  have kept : (register.call one own).drawsOf (one.spared register.bridge.pending).serials =
      register.drawsOf (one.spared register.bridge.pending).serials :=
    drawsOf_call (List.Subset.refl _)
  have free := sound.fresh begun mine draws window
  rcases (draws.free free).2 with same | ⟨last, newest, added⟩
  · have waits := sound.registered_of_fewer later rest spared
    rw [← kept, ← same] at waits
    exact waits
  · have waiting : (register.call one own).waiting =
        ⟨(register.call one own).ordinals last, last⟩ ::
          register.drawsOf (one.spared register.bridge.pending).serials := by
      rw [← kept]
      exact congrArg (register.call one own).drawsOf added
    rw [live, waiting]
    rcases sound.added draws.retries newest (free count (Nat.le_refl count) last newest) with
      caller | ⟨young, old, drawn⟩
    · have order : (⟨(register.call one own).ordinals last, last⟩ ::
          (register.call one own).queued).Subperm register.queued := by
        have whole := queued_perm mine
        rw [congrArg Option.toList caller] at whole
        exact whole.symm.subperm
      have waits := sound.registered_of_fewer later order spared
      exact waits.some (List.perm_middle.append_left _).subperm (Nat.le_refl _)
    · have waits := sound.registered_of_fewer (Nat.le_refl _) rest spared
      rw [← List.append_assoc] at waits ⊢
      have more := waits.insert young old
      rw [← drawn] at more
      exact more

/-- A call keeps the book right, and no serials collide in it. -/
theorem Sound.call (sound : register.Sound source) (begun : source.upcoming.isNone = false)
    (plain : one.isPlain = true) (serial : one.serial? = own.map Draw.serial)
    (mine : own.toList ⊆ register.queued) (window : (register.call one own).InWindow) :
    (register.call one own).Sound source := by
  rcases Bridge.draws_call sound.collision plain with sheds | ⟨count, draws⟩
  · have total : (register.call one own).drawn = register.drawn := by
      rw [drawn_call, sheds.retries]
      rfl
    constructor
    case upcoming => rw [total]; exact sheds.serials.trans sound.upcoming
    case collision => exact sheds.collision.trans sound.collision
    case registered =>
      have kept : (register.call one own).drawsOf _ = _ := drawsOf_call sheds.fewer.subset
      have waits := sound.registered_of_fewer (Nat.le_of_eq total.symm)
        (queued_call_subperm one mine) (sheds.fewer.trans (one.spared_sublist _))
      rw [← kept] at waits
      exact waits
    case window => exact window
  · rw [serial] at draws
    have total : (register.call one own).drawn = register.drawn + count := by
      rw [drawn_call, draws.retries, ← Nat.add_assoc]
      rfl
    constructor
    case upcoming =>
      have serials : (register.call one own).bridge.serials =
          ⟨register.bridge.serials.nth count⟩ := draws.serials
      rw [serials, total, sound.upcoming, SerialSource.nth_nth]
    case collision =>
      exact (draws.free (sound.fresh begun mine draws window)).1.trans sound.collision
    case registered => exact sound.registered_of_draws begun mine draws window
    case window => exact window

/-- A move that can be made keeps the book right, and no serials collide in it. -/
theorem Sound.play (sound : register.Sound source) (begun : source.upcoming.isNone = false)
    {move : Move χ} (allowed : register.Allows move) (window : (register.play move).InWindow) :
    (register.play move).Sound source := by
  cases move with
  | taken =>
      have total : (register.play .taken).drawn = register.drawn + 1 := Nat.add_right_comm _ 1 _
      constructor
      case upcoming =>
        rw [total, SerialSource.nth_succ]
        exact congrArg (·.take.2) sound.upcoming
      case collision => exact sound.collision
      case registered =>
        have upcoming : register.bridge.serials.upcoming = source.nth register.drawn :=
          congrArg SerialSource.upcoming sound.upcoming
        have more := sound.registered.insert (Nat.le_refl _) (Nat.lt_succ_self register.drawn)
        rw [← upcoming, List.append_cons] at more
        rw [total]
        exact more
      case window => exact window
  | queued draw =>
      have order :
          (register.free.erase draw ++ (register.queued ++ [draw] ++ register.waiting)).Perm
            (register.free ++ register.live) := by
        have first := (List.perm_cons_erase allowed).append_right register.live
        rw [List.append_assoc, List.singleton_append, ← List.append_assoc]
        apply List.perm_middle.trans
        rw [List.append_assoc]
        exact first.symm
      exact ⟨sound.upcoming, sound.collision, sound.registered.some order.subperm (Nat.le_refl _),
        window⟩
  | dropped draw =>
      have rest : (register.queued.erase draw).Subperm register.queued :=
        List.erase_sublist.subperm
      have waits := sound.registered_of_fewer (Nat.le_refl _) rest (.refl _)
      exact ⟨sound.upcoming, sound.collision, waits, window⟩
  | handled draw submission now =>
      obtain ⟨member, own⟩ := allowed
      have mine : (some draw).toList ⊆ register.queued := by simpa using member
      exact sound.call begun rfl (congrArg some own) mine window
  | called one =>
      obtain ⟨plain, none⟩ := allowed
      exact sound.call begun plain none (List.nil_subset _) window

/-- Moves that can be made keep the book right, and no serials collide in them. -/
theorem Sound.playAll (sound : register.Sound source) (begun : source.upcoming.isNone = false)
    {moves : List (Move χ)} (lawful : register.Lawful moves) :
    (register.playAll moves).Sound source := by
  induction moves generalizing register with
  | nil => exact sound
  | cons move rest ih =>
      obtain ⟨allowed, window, later⟩ := lawful
      exact ih (sound.play begun allowed window) later

theorem bridge_playAll (moves : List (Move χ)) :
    (register.playAll moves).bridge = register.bridge.run (moves.filterMap Move.call?) := by
  induction moves generalizing register with
  | nil => rfl
  | cons move rest ih =>
      rw [playAll, List.foldl_cons, ← playAll, ih]
      cases move <;> rfl

end

end Register

namespace Bridge

variable {χ : Type} [Channel χ]

/-- In every run, from every seed on: let callers take serials at any time, and queue requests under
serials that they took, each for at most one request, in any order and as late as they like, while
the bridge takes serials for its retries.  If less than one round of serials is handed out while a
serial is in use, then none is ever found taken: no two requests that are queued or wait have the
same serial, no serial is the reserved one, and what the table has under a serial has this serial.
The book says of each serial in use how many were handed out before it. -/
theorem serials_never_collide (config : BridgeConfig) (seed : UInt32) (channel : χ)
    (calls : List (Call χ)) (moves : List (Register.Move χ))
    (made : moves.filterMap Register.Move.call? = calls.flatMap Call.steps)
    (lawful : Register.Lawful { bridge := new config (.start seed) channel } moves) :
    let bridge := (new config (.start seed) channel).run calls
    let register := Register.playAll { bridge := new config (.start seed) channel } moves
    bridge.collision = none ∧
    (register.queued.map Draw.serial ++ bridge.pending.attempts.map Attempt.serial).Nodup ∧
    (∀ attempt ∈ bridge.pending.attempts, attempt.serial.isNone = false) ∧
    (∀ serial attempt, bridge.pending.find? serial = some attempt ↔
      attempt ∈ bridge.pending.attempts ∧ attempt.serial = serial) ∧
    register.bridge = bridge ∧
    bridge.serials.upcoming = (SerialSource.start seed).nth register.drawn ∧
    ∀ draw ∈ register.live, draw.serial = (SerialSource.start seed).nth draw.ordinal := by
  intro bridge register
  have begun := SerialSource.isNone_start seed
  have start : Register.Sound (.start seed) { bridge := new config (.start seed) channel } :=
    ⟨rfl, rfl, ⟨fun _ member => absurd member List.not_mem_nil, List.nodup_nil⟩,
      fun _ member => absurd member List.not_mem_nil⟩
  have sound : register.Sound (.start seed) := start.playAll begun lawful
  have own : register.bridge = bridge := by
    rw [Register.bridge_playAll, made, run_steps]
  have known : ∀ draw ∈ register.live, draw.serial = (SerialSource.start seed).nth draw.ordinal :=
    fun draw member => (sound.registered.known draw (List.mem_append_right _ member)).2
  refine ⟨?_, ?_, ?_, ?_, own, ?_, known⟩
  · rw [← own]
    exact sound.collision
  · have distinct := sound.nodup begun
    have waiting : register.waiting.map Draw.serial = bridge.pending.serials := by
      simp [Register.waiting, Function.comp_def, own]
    rw [Register.live, List.map_append, waiting] at distinct
    exact distinct
  · intro attempt member
    have waits : attempt.serial ∈ register.bridge.pending.serials := by
      rw [own]
      exact List.mem_map_of_mem member
    have drawn := known _ (Register.Sound.mem_live_of_serial waits)
    simp only at drawn
    rw [drawn]
    exact SerialSource.isNone_nth begun _
  · intro serial attempt
    constructor
    · intro found
      exact ⟨PendingTable.mem_attempts_of_find? found, PendingTable.serial_of_find? found⟩
    · rintro ⟨member, rfl⟩
      exact PendingTable.find?_of_mem member
  · rw [← own]
    exact congrArg SerialSource.upcoming sound.upcoming

/-- The second caller queues first, under the serial after the last number; its request goes out
again under the next, and then the first caller's comes. -/
theorem serials_never_collide_past_last :
    let sms : Submission := ⟨⟨4294967295⟩, .sendSms, .empty, .unknown, 0, 7⟩
    let signal : Submission := ⟨⟨1⟩, .getSignalStrength, .empty, .unknown, 0, 8⟩
    let start := new {} (.start 4294967295)
      ({ refused := [(.getSignalStrength, ⟨1, 6⟩)] } : RecordingChannel)
    let calls := [.serialTaken, .serialTaken, .batch [.submit signal, .submit sms] 0]
    let moves := [.taken, .taken, .queued ⟨1, ⟨1⟩⟩, .queued ⟨0, ⟨4294967295⟩⟩, .called (.timers 0),
      .handled ⟨1, ⟨1⟩⟩ signal 0, .handled ⟨0, ⟨4294967295⟩⟩ sms 0, .called .sampled]
    Register.Lawful { bridge := start } moves ∧ (start.run calls).collision = none ∧
      (start.run calls).pending.serials = [⟨4294967295⟩, ⟨2⟩] ∧
      (start.run calls).serials.upcoming = ⟨3⟩ := by
  intro sms signal start calls moves
  have lawful : Register.Lawful { bridge := start } moves := by decide +kernel
  obtain ⟨sound, -, -, -, -, upcoming, -⟩ := serials_never_collide {} 4294967295
    ({ refused := [(.getSignalStrength, ⟨1, 6⟩)] } : RecordingChannel) calls moves rfl lawful
  exact ⟨lawful, sound, by decide +kernel, upcoming.trans (by decide +kernel)⟩

end Bridge

end ModemLink
