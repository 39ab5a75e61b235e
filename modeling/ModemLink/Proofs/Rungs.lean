/-
Module: ModemLink.Proofs.Rungs
Purpose: How refusals take a kind down its ladder.
Main exports:
  rungsBelow, maxRungs, Allows, below_of_rung, initial_of_rung, next_eq_some, next_allowed,
  next_of_rung, next_spoken, next_of_current
-/
import ModemLink.VersionTable

namespace ModemLink

namespace Ladder

/-- How many rungs are below a version. -/
def rungsBelow (ladder : Ladder) (version : Version) : Nat :=
  ladder.rungs.countP (· < version)

theorem rungsBelow_le_length (ladder : Ladder) (version : Version) :
    ladder.rungsBelow version ≤ ladder.rungs.length :=
  List.countP_le_length

/-- A rung is not below itself. -/
theorem rungsBelow_lt_length {ladder : Ladder} {rung : Version} (member : rung ∈ ladder.rungs) :
    ladder.rungsBelow rung < ladder.rungs.length := by
  apply Nat.lt_of_le_of_ne (ladder.rungsBelow_le_length rung)
  intro all
  have below := List.countP_eq_length.mp all rung member
  rw [decide_eq_true_eq] at below
  exact Nat.lt_irrefl _ below

theorem rungsBelow_lt {ladder : Ladder} {lower version : Version} (below : lower < version)
    (rung : lower ∈ ladder.rungs) : ladder.rungsBelow lower < ladder.rungsBelow version := by
  unfold rungsBelow
  rw [List.countP_eq_countP_filter_add ladder.rungs (· < version) (· < lower)]
  have all : (ladder.rungs.filter (· < lower)).countP (· < version) =
      ladder.rungs.countP (· < lower) := by
    rw [List.countP_eq_length_filter (p := fun rung : Version => decide (rung < lower)),
      List.countP_eq_length]
    intro other member
    have isLower := (List.mem_filter.mp member).2
    simp only [decide_eq_true_eq, Version.lt_def] at isLower below ⊢
    omega
  have one : 0 < (ladder.rungs.filter (fun rung => !decide (rung < lower))).countP
      (· < version) := by
    rw [List.countP_pos_iff]
    refine ⟨lower, List.mem_filter.mpr ⟨rung, ?_⟩, by simpa using below⟩
    simp [Version.lt_def]
  omega

/-- The last element of a rising list that fits is at or above each that fits. -/
theorem last_fit_of_mem {rungs : List Version} (rising : rungs.Pairwise (· < ·))
    (fits : Version → Bool) {rung : Version} (member : rung ∈ rungs) (fit : fits rung = true) :
    ∃ best, rungs.reverse.find? fits = some best ∧ rung ≤ best := by
  induction rungs with
  | nil => exact absurd member List.not_mem_nil
  | cons first rest ih =>
      obtain ⟨lowest, rising⟩ := List.pairwise_cons.mp rising
      rw [List.reverse_cons, List.find?_append]
      rcases List.mem_cons.mp member with rfl | member
      · cases later : rest.reverse.find? fits with
        | none => exact ⟨rung, by simp [fit], Nat.le_refl _⟩
        | some best =>
            have there : best ∈ rest := List.mem_reverse.mp (List.mem_of_find?_eq_some later)
            exact ⟨best, rfl, Nat.le_of_lt (lowest best there)⟩
      · obtain ⟨best, found, above⟩ := ih rising member
        exact ⟨best, by rw [found]; rfl, above⟩

/-- The rung below a version is the highest of those below it. -/
theorem below_of_rung {kind : RequestKind} {rung version : Version}
    (member : rung ∈ kind.ladder.rungs) (lower : rung < version) :
    ∃ best, kind.ladder.below version = some best ∧ rung ≤ best :=
  last_fit_of_mem kind.ladder_ascending _ member (decide_eq_true lower)

/-- A ladder with rungs has a lowest one. -/
theorem lowest_of_mem {kind : RequestKind} {rung : Version} (member : rung ∈ kind.ladder.rungs) :
    ∃ lowest, kind.ladder.lowest = some lowest ∧ lowest ∈ kind.ladder.rungs ∧ lowest ≤ rung := by
  have rising := kind.ladder_ascending
  unfold lowest
  cases rungs : kind.ladder.rungs with
  | nil =>
      rw [rungs] at member
      exact absurd member List.not_mem_nil
  | cons lowest rest =>
      rw [rungs] at member rising
      refine ⟨lowest, rfl, List.mem_cons_self, ?_⟩
      rcases List.mem_cons.mp member with rfl | later
      · exact Nat.le_refl _
      · exact Nat.le_of_lt ((List.pairwise_cons.mp rising).1 rung later)

end Ladder

/-- No ladder has more rungs. -/
def RequestKind.maxRungs : Nat := 5

theorem RequestKind.length_rungs_le (kind : RequestKind) :
    kind.ladder.rungs.length ≤ maxRungs := by
  cases kind <;> decide

namespace VersionTable

/-- A cap allows the versions at or below it, and no cap allows all. -/
def Allows (cap : Option Version) (version : Version) : Prop :=
  ∀ limit, cap = some limit → version ≤ limit

instance (cap : Option Version) (version : Version) : Decidable (Allows cap version) :=
  match cap with
  | none => isTrue fun _ limited => absurd limited (by simp)
  | some limit =>
    decidable_of_iff (version ≤ limit)
      ⟨fun below _ same => Option.some.inj same ▸ below, fun allowed => allowed limit rfl⟩

theorem initial_eq_some {kind : RequestKind} {cap : Option Version} {version : Version}
    (start : initial kind cap = some version) :
    version ∈ kind.ladder.rungs ∧ Allows cap version := by
  cases cap with
  | none =>
      refine ⟨List.mem_of_getLast? start, ?_⟩
      intro limit limited
      exact absurd limited (by simp)
  | some cap =>
      refine ⟨Ladder.mem_of_atOrBelow_eq_some start, ?_⟩
      intro limit limited
      cases limited
      exact Ladder.le_of_atOrBelow_eq_some start

/-- A kind begins at or above each rung that the cap allows. -/
theorem initial_of_rung {kind : RequestKind} {cap : Option Version} {rung : Version}
    (member : rung ∈ kind.ladder.rungs) (allowed : Allows cap rung) :
    ∃ version, initial kind cap = some version ∧ rung ≤ version := by
  cases cap with
  | none =>
      obtain ⟨best, found, above⟩ :=
        Ladder.last_fit_of_mem kind.ladder_ascending (fun _ => true) member rfl
      refine ⟨best, ?_, above⟩
      show kind.ladder.rungs.getLast? = some best
      rw [List.getLast?_eq_head?_reverse]
      revert found
      cases kind.ladder.rungs.reverse with
      | nil => simp
      | cons first rest => simp
  | some cap =>
      exact Ladder.last_fit_of_mem kind.ladder_ascending _ member
        (decide_eq_true (allowed cap rfl))

/-- A kind goes to a version at or below a rung below the one that was refused. -/
theorem next_eq_some {table : VersionTable} {kind : RequestKind} {failed version : Version}
    (next : table.next kind failed = some version) :
    ∃ current rung, table.current kind = some current ∧ rung ∈ kind.ladder.rungs ∧
      rung < failed ∧ version = min current rung := by
  unfold VersionTable.next at next
  split at next
  · rename_i current rung spoken below
    cases next
    exact ⟨current, rung, spoken, Ladder.mem_of_below_eq_some below,
      Ladder.lt_of_below_eq_some below, rfl⟩
  · simp at next

/-- Where a kind is spoken at a rung that the cap allows, it falls to such a rung. -/
theorem next_allowed {table : VersionTable} {cap : Option Version} {kind : RequestKind}
    {failed version : Version}
    (spoken : ∀ current, table.current kind = some current →
      current ∈ kind.ladder.rungs ∧ Allows cap current)
    (next : table.next kind failed = some version) :
    version ∈ kind.ladder.rungs ∧ Allows cap version := by
  obtain ⟨current, rung, speaks, member, -, rfl⟩ := next_eq_some next
  obtain ⟨currentMember, currentAllowed⟩ := spoken current speaks
  by_cases lower : current ≤ rung
  · have same : min current rung = current := if_pos lower
    rw [same]
    exact ⟨currentMember, currentAllowed⟩
  · have same : min current rung = rung := if_neg lower
    have below : rung ≤ current := Nat.le_of_lt (Nat.lt_of_not_le lower)
    rw [same]
    exact ⟨member, fun limit limited => Nat.le_trans below (currentAllowed limit limited)⟩

/-- A kind does not fall below a rung that is below the refused version. -/
theorem next_of_rung {table : VersionTable} {kind : RequestKind} {failed rung current : Version}
    (member : rung ∈ kind.ladder.rungs) (lower : rung < failed)
    (spoken : table.current kind = some current) (above : rung ≤ current) :
    ∃ version, table.next kind failed = some version ∧ rung ≤ version := by
  obtain ⟨best, below, bound⟩ := Ladder.below_of_rung member lower
  refine ⟨min current best, by simp [VersionTable.next, spoken, below], ?_⟩
  rw [Version.le_def, Version.rank_min]
  exact Nat.le_min.mpr ⟨above, bound⟩

/-- A refused version that was spoken leads to the rung below it. -/
theorem next_spoken {table : VersionTable} {kind : RequestKind} {failed : Version}
    (spoken : table.current kind = some failed) :
    table.next kind failed = kind.ladder.below failed := by
  unfold VersionTable.next
  rw [spoken]
  cases below : kind.ladder.below failed with
  | none => rfl
  | some rung =>
      have lower : rung.rank < failed.rank := Ladder.lt_of_below_eq_some below
      have same : min failed rung = rung := if_neg (Nat.not_le_of_lt lower)
      exact congrArg some same

theorem next_of_current {table : VersionTable} {kind : RequestKind} {failed version : Version}
    (spoken : table.current kind = some failed) (next : table.next kind failed = some version) :
    version ∈ kind.ladder.rungs ∧ version < failed := by
  rw [next_spoken spoken] at next
  exact ⟨Ladder.mem_of_below_eq_some next, Ladder.lt_of_below_eq_some next⟩

theorem rungsBelow_next_lt_maxRungs {table : VersionTable} {kind : RequestKind}
    {failed version : Version} (next : table.next kind failed = some version) :
    kind.ladder.rungsBelow version < RequestKind.maxRungs := by
  obtain ⟨current, rung, -, member, -, rfl⟩ := next_eq_some next
  refine Nat.lt_of_lt_of_le ?_ kind.length_rungs_le
  apply Nat.lt_of_le_of_ne (kind.ladder.rungsBelow_le_length _)
  intro all
  have below := List.countP_eq_length.mp all rung member
  rw [decide_eq_true_eq, Version.lt_def, Version.rank_min] at below
  exact absurd (Nat.min_le_right current.rank rung.rank) (Nat.not_le_of_lt below)

end VersionTable

end ModemLink
