/-
Module: ModemLink.PendingTable
Purpose: The attempts that wait for an answer.
Main exports: PendingTable, find?, insert?, erase, acknowledge, ageOut, drain, detachLocks, oldest?
-/
import ModemLink.Attempt

namespace ModemLink

/-!
The table never holds two attempts under one serial, which is part of its type.  The order of
`attempts` means nothing: whatever leaves the table together is sorted first.
-/

/-- The attempts that wait for an answer, no two of them under the same serial. -/
structure PendingTable where
  attempts : List Attempt
  distinct : (attempts.map Attempt.serial).Nodup
deriving DecidableEq

namespace PendingTable

def empty : PendingTable := ⟨[], List.nodup_nil⟩

instance : Inhabited PendingTable := ⟨empty⟩

/-- How many attempts wait. -/
def size (table : PendingTable) : Nat :=
  table.attempts.length

/-- The attempt under a serial. -/
def find? (table : PendingTable) (serial : Serial) : Option Attempt :=
  table.attempts.find? (·.serial = serial)

/-- Whether an attempt waits under a serial. -/
def contains (table : PendingTable) (serial : Serial) : Bool :=
  (table.find? serial).isSome

/-- Add an attempt, unless its serial is taken. -/
def insert? (table : PendingTable) (attempt : Attempt) : Option PendingTable :=
  if fresh : attempt.serial ∈ table.attempts.map Attempt.serial then
    none
  else
    some ⟨attempt :: table.attempts, by simpa using ⟨by simpa using fresh, table.distinct⟩⟩

/-- Keep only the attempts with a property. -/
def filter (table : PendingTable) (keep : Attempt → Bool) : PendingTable :=
  ⟨table.attempts.filter keep,
    (List.filter_sublist.map Attempt.serial).nodup table.distinct⟩

/-- Drop the attempt under a serial. -/
def erase (table : PendingTable) (serial : Serial) : PendingTable :=
  table.filter (·.serial ≠ serial)

/-- Change attempts without changing their serials. -/
def map (table : PendingTable) (change : Attempt → Attempt)
    (keepsSerial : ∀ attempt, (change attempt).serial = attempt.serial) : PendingTable :=
  ⟨table.attempts.map change, by
    have same : Attempt.serial ∘ change = Attempt.serial := funext keepsSerial
    rw [List.map_map, same]
    exact table.distinct⟩

/-- Set the two flags of the attempt under a serial. -/
def mark (table : PendingTable) (serial : Serial) (acknowledged holdsLock : Bool) : PendingTable :=
  table.map
    (fun attempt =>
      if attempt.serial = serial then
        { attempt with acknowledged := acknowledged, holdsLock := holdsLock }
      else attempt)
    (by intro attempt; split <;> rfl)

/-- Note that the modem received the request under a serial. -/
def acknowledge (table : PendingTable) (serial : Serial) : PendingTable :=
  table.map
    (fun attempt =>
      if attempt.serial = serial then { attempt with acknowledged := true } else attempt)
    (by intro attempt; split <;> rfl)

/-- When the attempt that waits longest was issued. -/
def oldest? (table : PendingTable) : Option Instant :=
  (table.attempts.map Attempt.issuedAt).min?

/-- How many attempts own a reference to the primary lock. -/
def lockHolders (table : PendingTable) : Nat :=
  table.attempts.countP (·.holdsLock)

/-- Take away every reference to the primary lock. -/
def detachLocks (table : PendingTable) : PendingTable :=
  table.map (fun attempt => { attempt with holdsLock := false }) (fun _ => rfl)

/-- Attempts in the order in which they fail together. -/
def inOrder (attempts : List Attempt) : List Attempt :=
  attempts.mergeSort Attempt.precedes

/-- Whether an attempt has waited longer than allowed. -/
def isExpired (now : Instant) (maxAge : Span) (attempt : Attempt) : Bool :=
  maxAge < attempt.age now

/-- Take out the attempts that have waited longer than allowed, first issued first. -/
def ageOut (table : PendingTable) (now : Instant) (maxAge : Span) : List Attempt × PendingTable :=
  (inOrder (table.attempts.filter (isExpired now maxAge)),
    table.filter (fun attempt => !isExpired now maxAge attempt))

/-- Take out all attempts, first issued first. -/
def drain (table : PendingTable) : List Attempt × PendingTable :=
  (inOrder table.attempts, empty)

/-- All attempts by serial. -/
def bySerial (table : PendingTable) : List Attempt :=
  table.attempts.mergeSort (fun a b => a.serial.value ≤ b.serial.value)

/-! ## Membership -/

theorem mem_attempts_of_find? {table : PendingTable} {serial : Serial} {attempt : Attempt}
    (h : table.find? serial = some attempt) : attempt ∈ table.attempts :=
  List.mem_of_find?_eq_some h

theorem serial_of_find? {table : PendingTable} {serial : Serial} {attempt : Attempt}
    (h : table.find? serial = some attempt) : attempt.serial = serial := by
  simpa using List.find?_some h

/-- Each attempt is found under its serial. -/
theorem find?_of_mem {table : PendingTable} {attempt : Attempt}
    (waits : attempt ∈ table.attempts) : table.find? attempt.serial = some attempt := by
  obtain ⟨attempts, distinct⟩ := table
  show attempts.find? (·.serial = attempt.serial) = some attempt
  induction attempts with
  | nil => exact absurd waits List.not_mem_nil
  | cons first rest ih =>
      obtain ⟨fresh, distinct⟩ := List.nodup_cons.mp distinct
      rcases List.mem_cons.mp waits with rfl | later
      · exact List.find?_cons_of_pos (decide_eq_true rfl)
      · have other : first.serial ≠ attempt.serial := by
          intro same
          exact fresh (List.mem_map.mpr ⟨attempt, later, same.symm⟩)
        rw [List.find?_cons_of_neg (by simpa using other)]
        exact ih distinct later

theorem serial_not_mem_of_insert? {table next : PendingTable} {attempt : Attempt}
    (h : table.insert? attempt = some next) :
    attempt.serial ∉ table.attempts.map Attempt.serial := by
  unfold insert? at h
  split at h
  · simp at h
  · assumption

theorem serial_ne_of_insert? {table next : PendingTable} {attempt other : Attempt}
    (h : table.insert? attempt = some next) (waits : other ∈ table.attempts) :
    other.serial ≠ attempt.serial := by
  intro same
  exact serial_not_mem_of_insert? h (List.mem_map.mpr ⟨other, waits, same⟩)

theorem attempts_insert? {table next : PendingTable} {attempt : Attempt}
    (h : table.insert? attempt = some next) : next.attempts = attempt :: table.attempts := by
  unfold insert? at h
  split at h
  · simp at h
  · simp only [Option.some.injEq] at h
    rw [← h]

@[simp] theorem attempts_erase (table : PendingTable) (serial : Serial) :
    (table.erase serial).attempts = table.attempts.filter (·.serial ≠ serial) := rfl

@[simp] theorem attempts_filter (table : PendingTable) (keep : Attempt → Bool) :
    (table.filter keep).attempts = table.attempts.filter keep := rfl

/-- Tables with the same attempts in the same places are equal. -/
theorem ext_attempts {a b : PendingTable} (h : a.attempts = b.attempts) : a = b := by
  obtain ⟨a, _⟩ := a
  obtain ⟨b, _⟩ := b
  simp only at h
  subst h
  rfl

/-- An attempt that is put in and taken out again leaves the table as it was. -/
theorem erase_of_insert? {table next : PendingTable} {attempt : Attempt}
    (h : table.insert? attempt = some next) : next.erase attempt.serial = table := by
  apply ext_attempts
  rw [attempts_erase, attempts_insert? h, List.filter_cons_of_neg (by simp)]
  apply List.filter_eq_self.mpr
  intro other member
  simpa using serial_ne_of_insert? h member

/-- What is under a serial is one attempt. -/
theorem filter_eq_of_find? {table : PendingTable} {serial : Serial} {attempt : Attempt}
    (found : table.find? serial = some attempt) :
    table.attempts.filter (fun other => !decide (other.serial ≠ serial)) = [attempt] := by
  have distinct := table.distinct
  unfold find? at found
  revert found distinct
  generalize table.attempts = attempts
  intro found distinct
  induction attempts with
  | nil => simp at found
  | cons other rest ih =>
      rw [List.map_cons, List.nodup_cons] at distinct
      by_cases here : other.serial = serial
      · rw [List.find?_cons_of_pos (by simpa using here)] at found
        cases found
        have none : rest.filter (fun other => !decide (other.serial ≠ serial)) = [] := by
          rw [List.filter_eq_nil_iff]
          intro later member
          have different : later.serial ≠ serial := by
            intro same
            exact distinct.1 (List.mem_map.mpr ⟨later, member, same.trans here.symm⟩)
          simpa using different
        rw [List.filter_cons_of_pos (by simpa using here), none]
      · rw [List.find?_cons_of_neg (by simpa using here)] at found
        rw [List.filter_cons_of_neg (by simpa using here)]
        exact ih found distinct.2

/-- An attempt is taken out of the table, and all others stay. -/
theorem perm_erase {table : PendingTable} {serial : Serial} {attempt : Attempt}
    (found : table.find? serial = some attempt) :
    table.attempts.Perm (attempt :: (table.erase serial).attempts) := by
  have parts := List.filter_append_perm (fun other : Attempt => decide (other.serial ≠ serial))
    table.attempts
  rw [filter_eq_of_find? found] at parts
  exact parts.symm.trans (List.perm_append_singleton _ _)

theorem size_erase {table : PendingTable} {serial : Serial} {attempt : Attempt}
    (found : table.find? serial = some attempt) :
    (table.erase serial).size + 1 = table.size :=
  (perm_erase found).length_eq.symm

theorem inOrder_perm (attempts : List Attempt) : (inOrder attempts).Perm attempts :=
  List.mergeSort_perm attempts _

end PendingTable

end ModemLink
