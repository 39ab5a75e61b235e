/-
Module: ModemLink.Proofs.SharedSource
Purpose: The serials that threads get from one source, in whatever order they take turns.
Main exports:
  SerialSource.Ask, SerialSource.Turn, SerialSource.log, SerialSource.drawn, drawn_log, nth_inj_iff,
  count_window, serials_go_round
-/
import Mathlib.Algebra.Group.Nat.Defs
import Mathlib.Data.List.Nodup
import Mathlib.Data.List.Range
import ModemLink.Proofs.Register

namespace ModemLink.SerialSource

/-!
Each call to a shared source is one atomic step, so what threads do to it together is a list of
turns: which thread, and whether it takes the next serial or only looks at it.  Who takes a turn makes
no difference.  The serials taken, all threads together, are the first ones of the source, and they go
round: there is one for each number of 32 bits but zero.
-/

/-! ## Turns -/

/-- What a thread asks of a source. -/
inductive Ask where
  /-- The next serial, which is handed out. -/
  | next
  /-- Which serial would be handed out next. -/
  | peek
deriving DecidableEq

/-- One call by one of the threads that share a source. -/
structure Turn where
  thread : Nat
  ask : Ask
deriving DecidableEq

/-- The answer to one call, and the source after it. -/
def answer (source : SerialSource) : Ask → Serial × SerialSource
  | .next => source.take
  | .peek => (source.upcoming, source)

/-- The turns that threads take at a source, each with its answer. -/
def log (source : SerialSource) : List Turn → List (Turn × Serial)
  | [] => []
  | turn :: rest =>
    match source.answer turn.ask with
    | (serial, source) => (turn, serial) :: source.log rest

/-- The serials that were handed out, all threads together, oldest first. -/
def drawn (log : List (Turn × Serial)) : List Serial :=
  (log.filter (·.1.ask = .next)).map (·.2)

/-- How many serials are handed out in some turns. -/
def draws (turns : List Turn) : Nat :=
  turns.countP (·.ask = .next)

@[simp] theorem draws_next (thread : Nat) (turns : List Turn) :
    draws (⟨thread, .next⟩ :: turns) = draws turns + 1 :=
  List.countP_cons_of_pos rfl

@[simp] theorem draws_peek (thread : Nat) (turns : List Turn) :
    draws (⟨thread, .peek⟩ :: turns) = draws turns :=
  List.countP_cons_of_neg (by simp)

/-- Threads that only look draw nothing. -/
theorem draws_take_of_peeks {turns : List Turn} {i j : Nat} (before : i < j)
    (between : ∀ turn ∈ (turns.take j).drop i, turn.ask = .peek) :
    draws (turns.take j) = draws (turns.take i) := by
  have earlier : (turns.take j).take i = turns.take i := by
    rw [List.take_take, Nat.min_eq_left (Nat.le_of_lt before)]
  have none : draws ((turns.take j).drop i) = 0 := by
    apply List.countP_eq_zero.mpr
    intro turn member
    simp [between turn member]
  rw [← List.take_append_drop i (turns.take j), draws, List.countP_append, earlier]
  exact congrArg (draws (turns.take i) + ·) none

theorem map_fst_log (source : SerialSource) (turns : List Turn) :
    (source.log turns).map (·.1) = turns := by
  induction turns generalizing source with
  | nil => rfl
  | cons turn rest ih => exact congrArg (turn :: ·) (ih _)

/-- An answer depends on how many serials were handed out before, and on nothing else. -/
theorem answer_eq_nth {source : SerialSource} {turns : List Turn} {i : Nat} {turn : Turn}
    {serial : Serial} (answered : (source.log turns)[i]? = some (turn, serial)) :
    serial = source.nth (draws (turns.take i)) := by
  induction turns generalizing source i with
  | nil => cases answered
  | cons first rest ih =>
      obtain ⟨thread, ask⟩ := first
      cases i with
      | zero =>
          cases ask <;> cases answered <;> rfl
      | succ i =>
          cases ask with
          | next =>
              rw [List.take_succ_cons, draws_next]
              have later : (source.take.2.log rest)[i]? = some (turn, serial) := answered
              exact ih later
          | peek =>
              rw [List.take_succ_cons, draws_peek]
              exact ih answered

/-- The serials handed out are those of the source, in order and without a gap. -/
theorem drawn_log (source : SerialSource) (turns : List Turn) :
    drawn (source.log turns) = (List.range (draws turns)).map source.nth := by
  induction turns generalizing source with
  | nil => rfl
  | cons turn rest ih =>
      obtain ⟨thread, ask⟩ := turn
      cases ask with
      | peek =>
          rw [draws_peek]
          exact ih source
      | next =>
          rw [draws_next, List.range_succ_eq_map, List.map_cons, List.map_map]
          exact congrArg (source.upcoming :: ·) (ih source.take.2)

/-! ## Going round -/

theorem eq_of_toNat {one other : Serial} (same : one.value.toNat = other.value.toNat) :
    one = other :=
  congrArg Serial.mk (UInt32.toNat_inj.mp same)

section

variable {source : SerialSource} (begun : source.upcoming.isNone = false)

include begun

/-- Serials are equal where their places are a whole number of rounds apart. -/
theorem nth_inj_iff (i j : Nat) :
    source.nth i = source.nth j ↔ i % (UInt32.size - 1) = j % (UInt32.size - 1) := by
  have first := toNat_nth begun i
  have second := toNat_nth begun j
  constructor
  · intro same
    rw [same, second] at first
    simp only [UInt32.size] at first ⊢
    omega
  · intro same
    apply eq_of_toNat
    rw [first, second]
    simp only [UInt32.size] at same ⊢
    omega

omit begun in
/-- From anywhere some steps, fewer than a round, lead to a place of the round. -/
theorem exists_steps {round place : Nat} (here : Nat) (within : place < round) :
    ∃ steps, steps < round ∧ (here + steps) % round = place := by
  have behind : here % round < round := Nat.mod_lt _ (Nat.zero_lt_of_lt within)
  have whole : here % round + (place + round - here % round) = place + round := by omega
  refine ⟨(place + round - here % round) % round, Nat.mod_lt _ (Nat.zero_lt_of_lt within), ?_⟩
  rw [Nat.add_mod_mod, ← Nat.mod_add_mod, whole, Nat.add_mod_right, Nat.mod_eq_of_lt within]

/-- From any place on, each serial comes within one round. -/
theorem exists_nth_eq {serial : Serial} (proper : serial.value ≠ 0) (start : Nat) :
    ∃ i, i < UInt32.size - 1 ∧ source.nth (start + i) = serial := by
  have positive : serial.value.toNat ≠ 0 := fun zero => proper (UInt32.toNat_inj.mp zero)
  have within : serial.value.toNat - 1 < UInt32.size - 1 :=
    Nat.sub_lt_sub_right (Nat.pos_of_ne_zero positive) serial.value.toNat_lt
  obtain ⟨steps, near, met⟩ :=
    exists_steps (source.upcoming.value.toNat - 1 + start) within
  have value : (source.nth (start + steps)).value.toNat = serial.value.toNat := by
    rw [toNat_nth begun, ← Nat.add_assoc, met]
    exact Nat.succ_pred positive
  exact ⟨steps, near, eq_of_toNat value⟩

/-- One round has each serial once, wherever it begins. -/
theorem count_window {serial : Serial} (proper : serial.value ≠ 0) (start : Nat) :
    ((List.range' start (UInt32.size - 1)).map source.nth).count serial = 1 := by
  apply List.count_eq_one_of_mem
  · apply List.Nodup.map_on _ List.nodup_range'
    intro i there j here same
    have places := (nth_inj_iff begun i j).mp same
    rw [List.mem_range'_1] at there here
    simp only [UInt32.size] at there here places
    omega
  · obtain ⟨i, near, rfl⟩ := exists_nth_eq begun proper start
    exact List.mem_map_of_mem (List.mem_range'_1.mpr ⟨Nat.le_add_right _ _, by omega⟩)

end

theorem toNat_upcoming_start (seed : UInt32) :
    (start seed).upcoming.value.toNat = max seed.toNat 1 := by
  by_cases zero : seed = 0
  · rw [start, if_pos zero, zero]
    rfl
  · have positive : seed.toNat ≠ 0 := fun none => zero (UInt32.toNat_inj.mp none)
    rw [start, if_neg zero]
    exact (Nat.max_eq_left (Nat.pos_of_ne_zero positive)).symm

/-- Whatever turns threads take at a source, all of them are answered.  The serials handed out are, one
after the other, the numbers from the seed on, and after the last number from 1 on, never zero.  Two of
them are equal exactly where a whole number of rounds lies between them, and any round of them has
each number but zero once.  A thread that looks at the next serial sees the one that is handed out
next, to whichever thread that is. -/
theorem serials_go_round (seed : UInt32) (turns : List Turn) :
    let log := (start seed).log turns
    log.map (·.1) = turns ∧ (drawn log).length = turns.countP (·.ask = .next) ∧
    (∀ n serial, (drawn log)[n]? = some serial →
      serial.value.toNat = (max seed.toNat 1 - 1 + n) % (2 ^ 32 - 1) + 1) ∧
    (∀ serial ∈ drawn log, serial.value ≠ 0) ∧
    (∀ i j one other, (drawn log)[i]? = some one → (drawn log)[j]? = some other →
      (one = other ↔ i % (2 ^ 32 - 1) = j % (2 ^ 32 - 1))) ∧
    (∀ begin, begin + (2 ^ 32 - 1) ≤ (drawn log).length → ∀ serial : Serial, serial.value ≠ 0 →
      (((drawn log).drop begin).take (2 ^ 32 - 1)).count serial = 1) ∧
    ∀ i j seen taken thread other, log[i]? = some (⟨thread, .peek⟩, seen) →
      log[j]? = some (⟨other, .next⟩, taken) → i < j →
      (∀ turn ∈ (turns.take j).drop i, turn.ask = .peek) → seen = taken := by
  intro log
  have begun := isNone_start seed
  have serials : drawn log = (List.range (draws turns)).map (start seed).nth := drawn_log _ turns
  have place : ∀ n serial, (drawn log)[n]? = some serial → serial = (start seed).nth n := by
    intro n serial there
    rw [serials, List.getElem?_map] at there
    obtain ⟨m, ranged, rfl⟩ := Option.map_eq_some_iff.mp there
    obtain ⟨-, rfl⟩ := List.getElem?_eq_some_iff.mp ranged
    rw [List.getElem_range]
  refine ⟨map_fst_log _ turns, ?_, ?_, ?_, ?_, ?_, ?_⟩
  · rw [serials, List.length_map, List.length_range, draws]
  · intro n serial there
    have value := toNat_nth begun n
    rw [toNat_upcoming_start] at value
    rw [place n serial there]
    exact value
  · intro serial member
    rw [serials] at member
    obtain ⟨n, -, rfl⟩ := List.mem_map.mp member
    exact of_decide_eq_false (isNone_nth begun n)
  · intro i j one other first second
    rw [place i one first, place j other second]
    exact nth_inj_iff begun i j
  · intro first fits serial proper
    rw [serials, List.length_map, List.length_range] at fits
    have window : ((List.range (draws turns)).drop first).take (2 ^ 32 - 1) =
        List.range' first (2 ^ 32 - 1) := by
      rw [List.range_eq_range', List.drop_range',
        List.take_range'_of_length_ge (Nat.le_sub_of_add_le' fits), Nat.mul_one, Nat.zero_add]
    rw [serials, ← List.map_drop, ← List.map_take, window]
    exact count_window begun proper first
  · intro i j seen taken thread other looked took before between
    rw [answer_eq_nth looked, answer_eq_nth took, draws_take_of_peeks before between]

/-- After the last number the first one is handed out, to another thread than the one that saw it. -/
example :
    (start 4294967295).log [⟨0, .next⟩, ⟨1, .peek⟩, ⟨0, .next⟩, ⟨1, .next⟩] =
      [(⟨0, .next⟩, ⟨4294967295⟩), (⟨1, .peek⟩, ⟨1⟩), (⟨0, .next⟩, ⟨1⟩), (⟨1, .next⟩, ⟨2⟩)] := by
  decide

end ModemLink.SerialSource
