/-
Module: ModemLink.Proofs.Sweeps
Purpose: What leaves the table of pending attempts in a sweep, in which order, and what stays.
Main exports:
  PendingTable.takeOut, ageOut_eq_takeOut, PendingTable.Before, inOrder_eq_of_perm, detachEach,
  detachEach_eq, sweeps_partition
-/
import ModemLink.Proofs.AnyOrder
import ModemLink.Proofs.Precedence
import ModemLink.Proofs.Wakeups

namespace ModemLink.PendingTable

/-!
A sweep walks over the table and takes out what it finds, one serial after the other.  No two attempts
have one serial, so a serial takes out the attempt that it was read off, and the sweep is the same as
filtering the table.  What it took out is sorted by instants and serials.  That order has no ties
within a table, so the order of the walk does not show in it.
-/

variable {table other : PendingTable} {attempt : Attempt} {serial : Serial}

/-! ## What is under a serial -/

theorem find?_eq_some_iff :
    table.find? serial = some attempt ↔ attempt ∈ table.attempts ∧ attempt.serial = serial := by
  constructor
  · intro found
    exact ⟨mem_attempts_of_find? found, serial_of_find? found⟩
  · rintro ⟨waits, rfl⟩
    exact find?_of_mem waits

theorem find?_filter (table : PendingTable) (keep : Attempt → Bool) (serial : Serial) :
    (table.filter keep).find? serial = (table.find? serial).filter keep := by
  ext attempt
  rw [find?_eq_some_iff, Option.filter_eq_some_iff, find?_eq_some_iff, attempts_filter,
    List.mem_filter, and_right_comm]

theorem find?_eq_of_perm (perm : other.attempts.Perm table.attempts) (serial : Serial) :
    other.find? serial = table.find? serial := by
  ext attempt
  rw [find?_eq_some_iff, find?_eq_some_iff, perm.mem_iff]

/-- A change that keeps serials changes what is under each serial. -/
theorem find?_map (table : PendingTable) (change : Attempt → Attempt)
    (keepsSerial : ∀ attempt, (change attempt).serial = attempt.serial) (serial : Serial) :
    (table.map change keepsSerial).find? serial = (table.find? serial).map change := by
  ext attempt
  rw [find?_eq_some_iff, Option.map_eq_some_iff]
  constructor
  · rintro ⟨member, rfl⟩
    obtain ⟨earlier, waits, rfl⟩ := List.mem_map.mp member
    exact ⟨earlier, find?_eq_some_iff.mpr ⟨waits, (keepsSerial earlier).symm⟩, rfl⟩
  · rintro ⟨earlier, found, rfl⟩
    obtain ⟨waits, rfl⟩ := find?_eq_some_iff.mp found
    exact ⟨List.mem_map_of_mem waits, keepsSerial earlier⟩

theorem eq_iff_serial_eq {one other : Attempt} (here : one ∈ table.attempts)
    (there : other ∈ table.attempts) : one = other ↔ one.serial = other.serial :=
  ⟨congrArg Attempt.serial, List.inj_on_of_nodup_map table.distinct here there⟩

theorem attempts_nodup (table : PendingTable) : table.attempts.Nodup :=
  table.distinct.of_map Attempt.serial

/-! ## Taking out one after the other -/

/-- Take out what is under some serials, one after the other. -/
def takeOut (table : PendingTable) : List Serial → List Attempt × PendingTable
  | [] => ([], table)
  | serial :: rest =>
    match (table.erase serial).takeOut rest with
    | (taken, left) => ((table.find? serial).toList ++ taken, left)

/-- Serials that are read off attempts of the table take out these attempts. -/
theorem takeOut_serials {table : PendingTable} {attempts : List Attempt}
    (wait : ∀ attempt ∈ attempts, attempt ∈ table.attempts) (distinct : attempts.Nodup) :
    table.takeOut (attempts.map Attempt.serial) =
      (attempts, table.filter fun attempt => decide (attempt ∉ attempts)) := by
  induction attempts generalizing table with
  | nil =>
      refine Prod.ext rfl (ext_attempts ?_)
      exact (List.filter_eq_self.mpr fun _ _ => by simp).symm
  | cons first rest ih =>
      obtain ⟨fresh, distinct⟩ := List.nodup_cons.mp distinct
      have here := wait first List.mem_cons_self
      have others : ∀ attempt ∈ rest, attempt ∈ (table.erase first.serial).attempts := by
        intro attempt member
        have waits := wait attempt (List.mem_cons_of_mem first member)
        refine List.mem_filter.mpr ⟨waits, decide_eq_true ?_⟩
        exact mt (eq_iff_serial_eq waits here).mpr fun same => fresh (same ▸ member)
      rw [List.map_cons, takeOut, ih others distinct, find?_of_mem here]
      refine Prod.ext rfl (ext_attempts ?_)
      rw [attempts_filter, attempts_erase, attempts_filter, List.filter_filter]
      apply List.filter_congr
      intro attempt waits
      rw [← Bool.decide_and, decide_eq_decide, List.mem_cons, not_or, ne_eq,
        ← eq_iff_serial_eq waits here, and_comm]

/-- A sweep over the serials of the expired attempts takes out these and no others. -/
theorem ageOut_eq_takeOut (table : PendingTable) (now : Instant) (maxAge : Span) :
    table.ageOut now maxAge =
      ((table.takeOut
        ((table.attempts.filter (isExpired now maxAge)).map Attempt.serial)).map inOrder id) := by
  have wait : ∀ attempt ∈ table.attempts.filter (isExpired now maxAge), attempt ∈ table.attempts :=
    fun _ member => (List.mem_filter.mp member).1
  rw [takeOut_serials wait (table.attempts_nodup.filter _)]
  refine Prod.ext rfl (ext_attempts (List.filter_congr ?_))
  intro attempt waits
  simp [List.mem_filter, waits]

/-! ## Order -/

/-- The order in which attempts leave the table: by the instants of issue, then by serials. -/
def Before (first second : Attempt) : Prop :=
  first.issuedAt < second.issuedAt ∨
    first.issuedAt = second.issuedAt ∧ first.serial.value < second.serial.value

/-- Attempts under different serials are in order without ties. -/
theorem pairwise_before {attempts : List Attempt} (distinct : (attempts.map Attempt.serial).Nodup) :
    (inOrder attempts).Pairwise Before := by
  have apart : (inOrder attempts).Pairwise fun first second => first.serial ≠ second.serial :=
    List.pairwise_map.mp (((inOrder_perm attempts).map Attempt.serial).nodup_iff.mpr distinct)
  refine ((pairwise_inOrder attempts).and apart).imp ?_
  rintro first second ⟨precedes, differ⟩
  rcases Attempt.precedes_iff.mp precedes with earlier | ⟨same, serials⟩
  · exact Or.inl earlier
  · have values : first.serial.value ≠ second.serial.value := fun equal =>
      differ (congrArg Serial.mk equal)
    exact Or.inr ⟨same, UInt32.lt_of_le_of_ne serials values⟩

/-- The order of the walk does not show. -/
theorem inOrder_eq_of_perm {attempts others : List Attempt}
    (distinct : (attempts.map Attempt.serial).Nodup) (perm : others.Perm attempts) :
    inOrder others = inOrder attempts := by
  have sorted := (inOrder_perm others).trans (perm.trans (inOrder_perm attempts).symm)
  refine sorted.eq_of_pairwise ?_ (pairwise_inOrder others) (pairwise_inOrder attempts)
  intro first second here there precedes follows
  have serials := Attempt.serial_eq_of_precedes precedes follows
  exact List.inj_on_of_nodup_map distinct (perm.mem_iff.mp ((inOrder_perm others).mem_iff.mp here))
    ((inOrder_perm attempts).mem_iff.mp there) serials

theorem head?_inOrder (table : PendingTable) :
    (inOrder table.attempts).head?.map Attempt.issuedAt = table.oldest? := by
  have perm := inOrder_perm table.attempts
  have sorted := pairwise_inOrder table.attempts
  cases order : inOrder table.attempts with
  | nil =>
      rw [order] at perm
      exact (oldest?_eq_none_iff.mpr perm.symm.eq_nil).symm
  | cons first rest =>
      rw [order] at perm sorted
      refine (oldest?_eq_some_iff.mpr ⟨⟨first, perm.mem_iff.mp List.mem_cons_self, rfl⟩, ?_⟩).symm
      intro attempt waits
      rcases List.mem_cons.mp (perm.mem_iff.mpr waits) with rfl | later
      · exact Nat.le_refl _
      · have precedes := Attempt.precedes_iff.mp ((List.pairwise_cons.mp sorted).1 attempt later)
        exact precedes.elim Nat.le_of_lt (Nat.le_of_eq ·.1)

/-! ## References to the lock -/

/-- Take the references to the primary lock away, one after the other, and count them. -/
def detachEach : List Attempt → Nat × List Attempt
  | [] => (0, [])
  | attempt :: rest =>
    match detachEach rest with
    | (count, rest) =>
      if attempt.holdsLock then (count + 1, { attempt with holdsLock := false } :: rest)
      else (count, attempt :: rest)

theorem detachEach_eq (attempts : List Attempt) :
    detachEach attempts =
      (attempts.countP (·.holdsLock), attempts.map ({ · with holdsLock := false })) := by
  induction attempts with
  | nil => rfl
  | cons attempt rest ih =>
      rw [detachEach, ih]
      cases held : attempt.holdsLock with
      | true => simp [held]
      | false =>
          have free : { attempt with holdsLock := false } = attempt := by rw [← held]
          simp [held, free]

/-! ## Sweeps -/

/-- A sorted part of the table has each of its attempts once. -/
theorem count_inOrder_filter (table : PendingTable) (keep : Attempt → Bool) (attempt : Attempt) :
    (inOrder (table.attempts.filter keep)).count attempt =
      if attempt ∈ table.attempts ∧ keep attempt = true then 1 else 0 := by
  rw [(inOrder_perm _).count_eq, (table.attempts_nodup.filter keep).count]
  simp only [List.mem_filter]

theorem find?_ageOut (table : PendingTable) (now : Instant) (maxAge : Span) (serial : Serial) :
    (table.ageOut now maxAge).2.find? serial =
      (table.find? serial).filter fun attempt => ¬ maxAge < now - attempt.issuedAt := by
  refine (find?_filter table _ serial).trans (congrArg (Option.filter · _) (funext fun attempt => ?_))
  exact (decide_not).symm

/-- Sweeps part the attempts of any table.  The sweep over the old ones, which takes them out serial by
serial, returns each attempt that has waited longer than allowed once and no other, and leaves what it
does not return as it was under its serial.  Taking out all returns each attempt once and leaves
nothing; the first one is the oldest of the table.  What is returned is in the order of instants and
serials, in which order the table was walked over makes no difference.  And the sweep over the
references to the primary lock counts those that were owned, and changes nothing else. -/
theorem sweeps_partition (table : PendingTable) (now : Instant) (maxAge : Span) :
    let aged := (table.ageOut now maxAge).1
    let left := (table.ageOut now maxAge).2
    let drained := table.drain.1
    (∀ attempt, aged.count attempt =
      if attempt ∈ table.attempts ∧ maxAge < now - attempt.issuedAt then 1 else 0) ∧
    (∀ serial, left.find? serial =
      (table.find? serial).filter fun attempt => ¬ maxAge < now - attempt.issuedAt) ∧
    (aged, left) = ((table.takeOut ((table.attempts.filter fun attempt =>
      maxAge < now - attempt.issuedAt).map Attempt.serial)).map inOrder id) ∧
    (∀ attempt, drained.count attempt = if attempt ∈ table.attempts then 1 else 0) ∧
    (∀ serial, table.drain.2.find? serial = none) ∧
    table.oldest? = drained.head?.map Attempt.issuedAt ∧
    aged.Pairwise Before ∧ drained.Pairwise Before ∧
    (∀ other : PendingTable, other.attempts.Perm table.attempts →
      (other.ageOut now maxAge).1 = aged ∧ other.drain.1 = drained ∧
      ∀ serial, (other.ageOut now maxAge).2.find? serial = left.find? serial) ∧
    detachEach table.attempts = (table.lockHolders, table.detachLocks.attempts) ∧
    ∀ serial, table.detachLocks.find? serial =
      (table.find? serial).map ({ · with holdsLock := false }) := by
  intro aged left drained
  refine ⟨fun attempt => ?_, find?_ageOut table now maxAge, table.ageOut_eq_takeOut now maxAge,
    fun attempt => ?_, fun _ => rfl, table.head?_inOrder.symm, ?_, pairwise_before table.distinct,
    fun other perm => ⟨?_, inOrder_eq_of_perm table.distinct perm, fun serial => ?_⟩,
    detachEach_eq table.attempts,
    find?_map table (fun attempt => { attempt with holdsLock := false }) fun _ => rfl⟩
  · refine (count_inOrder_filter table _ attempt).trans (if_congr ?_ rfl rfl)
    exact and_congr_right fun _ => decide_eq_true_iff
  · exact ((inOrder_perm table.attempts).count_eq attempt).trans table.attempts_nodup.count
  · exact pairwise_before ((List.filter_sublist.map Attempt.serial).nodup table.distinct)
  · exact inOrder_eq_of_perm ((List.filter_sublist.map Attempt.serial).nodup table.distinct)
      (perm.filter _)
  · rw [find?_ageOut, find?_ageOut, find?_eq_of_perm perm]

end ModemLink.PendingTable
