/-
Module: ModemLink.Proofs.Descent
Purpose: The steps on a ladder, and the walk down that they make.
Main exports:
  Ladder.last_fit_mono, Ladder.walk, Ladder.below_of_front, Ladder.walk_of_front,
  Ladder.Descends, Ladder.steps_of_rising, VersionTable.refuse, VersionTable.refusals_descend
-/
import Mathlib.Data.List.Induction
import Mathlib.Logic.Function.Iterate
import ModemLink.Proofs.Lowering
import ModemLink.Proofs.OrderedFront

namespace ModemLink

/-!
A step on a ladder is a search from its end for the first rung that fits.  On a rising ladder the
rungs below a rung are those in front of it, so the step from a rung leads to the last rung of that
front part, and the next steps stay in it.  A walk from the last rung of any front part therefore
comes by all of the part, backwards.  The rungs that a cap allows are such a part, whether the cap
is a rung or not.
-/

namespace Ladder

variable {ladder : Ladder}

/-! ## One step -/

theorem isGreatest_of_atOrBelow (rising : ladder.rungs.Pairwise (· < ·)) (version rung : Version) :
    ladder.atOrBelow version = some rung ↔
      IsGreatest {other | other ∈ ladder.rungs ∧ other ≤ version} rung := by
  refine (last_fit_eq_some_iff rising _).trans ?_
  simp only [decide_eq_true_eq]

theorem isGreatest_of_below (rising : ladder.rungs.Pairwise (· < ·)) (version rung : Version) :
    ladder.below version = some rung ↔
      IsGreatest {other | other ∈ ladder.rungs ∧ other < version} rung := by
  refine (last_fit_eq_some_iff rising _).trans ?_
  simp only [decide_eq_true_eq]

theorem atOrBelow_eq_none_iff {version : Version} :
    ladder.atOrBelow version = none ↔ ∀ rung ∈ ladder.rungs, ¬ rung ≤ version := by
  simp [atOrBelow, List.find?_eq_none]

/-- Where more fits, what is found last is not lower. -/
theorem last_fit_mono {rungs : List Version} (rising : rungs.Pairwise (· < ·))
    {narrow wide : Version → Bool} (widens : ∀ rung, narrow rung = true → wide rung = true) :
    rungs.reverse.find? narrow ≤ rungs.reverse.find? wide := by
  cases found : rungs.reverse.find? narrow with
  | none => exact Option.none_le
  | some best =>
      have member : best ∈ rungs := List.mem_reverse.mp (List.mem_of_find?_eq_some found)
      obtain ⟨higher, here, above⟩ :=
        last_fit_of_mem rising wide member (widens best (List.find?_some found))
      rw [here]
      exact Option.some_le_some.mpr above

theorem atOrBelow_mono (rising : ladder.rungs.Pairwise (· < ·)) {version higher : Version}
    (raised : version ≤ higher) : ladder.atOrBelow version ≤ ladder.atOrBelow higher := by
  apply last_fit_mono rising
  intro rung fit
  exact decide_eq_true (Nat.le_trans (of_decide_eq_true fit) raised)

theorem below_mono (rising : ladder.rungs.Pairwise (· < ·)) {version higher : Version}
    (raised : version ≤ higher) : ladder.below version ≤ ladder.below higher := by
  apply last_fit_mono rising
  intro rung fit
  exact decide_eq_true (Nat.lt_of_lt_of_le (of_decide_eq_true fit) raised)

/-! ## The walk -/

/-- Where a walk is after `n` steps down from a start; `none` when it has ended by then. -/
def walk (ladder : Ladder) (start : Option Version) (n : Nat) : Option Version :=
  (·.bind ladder.below)^[n] start

theorem walk_none (ladder : Ladder) (n : Nat) : ladder.walk none n = none :=
  Function.iterate_fixed rfl n

theorem walk_succ (ladder : Ladder) (version : Version) (n : Nat) :
    ladder.walk (some version) (n + 1) = ladder.walk (ladder.below version) n :=
  rfl

/-- The step from a rung leads to the last one in front of it. -/
theorem below_of_front (rising : ladder.rungs.Pairwise (· < ·)) {front : List Version}
    {rung : Version} (begins : front ++ [rung] <+: ladder.rungs) :
    ladder.below rung = front.getLast? := by
  obtain ⟨above, split⟩ := begins
  rw [← split, List.pairwise_append, List.pairwise_append] at rising
  obtain ⟨⟨-, -, lower⟩, -, higher⟩ := rising
  have frontFits : front.filter (· < rung) = front :=
    List.filter_eq_self.mpr fun other member =>
      decide_eq_true (lower other member rung List.mem_cons_self)
  have selfUnfit : [rung].filter (· < rung) = [] := by simp [Version.lt_def]
  have restUnfit : above.filter (· < rung) = [] := by
    apply List.filter_eq_nil_iff.mpr
    intro other member
    rw [decide_eq_true_eq]
    exact Nat.lt_asymm (higher rung (List.mem_append_right front List.mem_cons_self) other member)
  calc ladder.below rung
    _ = (ladder.rungs.filter (· < rung)).getLast? := List.getLast?_filter.symm
    _ = front.getLast? := by
      rw [← split, List.filter_append, List.filter_append, frontFits, selfUnfit, restUnfit,
        List.append_nil, List.append_nil]

/-- A walk from the last rung of a front part comes by that part, backwards. -/
theorem walk_of_front (rising : ladder.rungs.Pairwise (· < ·)) {front : List Version}
    (begins : front <+: ladder.rungs) (n : Nat) :
    ladder.walk front.getLast? n = front.reverse[n]? := by
  -- On the front part, which each step shortens by its last rung.
  induction front using List.reverseRecOn generalizing n with
  | nil => exact ladder.walk_none n
  | append_singleton front rung ih =>
      rw [List.getLast?_concat, List.reverse_concat]
      cases n with
      | zero => rfl
      | succ n =>
          rw [walk_succ, below_of_front rising begins, List.getElem?_cons_succ]
          exact ih ((List.prefix_append front [rung]).trans begins) n

/-- The rungs that a cap allows are in front of the others. -/
theorem filter_le_front {rungs : List Version} (rising : rungs.Pairwise (· < ·)) (cap : Version) :
    rungs.filter (· ≤ cap) <+: rungs := by
  have cut : rungs.takeWhile (· ≤ cap) = rungs.filter (· ≤ cap) := by
    apply Ordered.takeWhile_eq_filter rising
    intro first second lower fit
    exact decide_eq_true (Nat.le_trans (Nat.le_of_lt lower) (of_decide_eq_true fit))
  rw [← cut]
  exact List.takeWhile_prefix _

theorem walk_highest (rising : ladder.rungs.Pairwise (· < ·)) (n : Nat) :
    ladder.walk ladder.highest n = ladder.rungs.reverse[n]? :=
  walk_of_front rising List.prefix_rfl n

theorem walk_atOrBelow (rising : ladder.rungs.Pairwise (· < ·)) (cap : Version) (n : Nat) :
    ladder.walk (ladder.atOrBelow cap) n = (ladder.rungs.filter (· ≤ cap)).reverse[n]? := by
  have start : ladder.atOrBelow cap = (ladder.rungs.filter (· ≤ cap)).getLast? :=
    List.getLast?_filter.symm
  rw [start, walk_of_front rising (filter_le_front rising cap)]

/-- A walk that comes by the versions of a set, by each of them once and from the highest down, and
then ends. -/
structure Descends (walk : Nat → Option Version) (goal : Set Version) : Prop where
  only : ∀ n version, walk n = some version → version ∈ goal
  once : ∀ version ∈ goal, ∃! n, walk n = some version
  falls : ∀ m n, m < n → ∀ higher lower, walk m = some higher → walk n = some lower → lower < higher
  ends : ∃ count, ∀ n, walk n = none ↔ count ≤ n

/-- A walk that comes by the elements of a rising list, backwards. -/
theorem descends_of_reverse {walk : Nat → Option Version} {rungs : List Version}
    (rising : rungs.Pairwise (· < ·)) (backwards : ∀ n, walk n = rungs.reverse[n]?) :
    Descends walk {rung | rung ∈ rungs} := by
  have falls : ∀ m n, m < n → ∀ higher lower,
      walk m = some higher → walk n = some lower → lower < higher := by
    intro m n later higher lower first second
    rw [backwards, List.getElem?_eq_some_iff] at first second
    obtain ⟨inFirst, rfl⟩ := first
    obtain ⟨inSecond, rfl⟩ := second
    exact List.pairwise_iff_getElem.mp (List.pairwise_reverse.mpr rising) m n inFirst inSecond later
  refine ⟨fun n version comes => ?_, fun version member => ?_, falls, rungs.length, fun n => ?_⟩
  · rw [backwards] at comes
    exact List.mem_reverse.mp (List.mem_of_getElem? comes)
  · obtain ⟨n, there⟩ := List.mem_iff_getElem?.mp (List.mem_reverse.mpr member)
    rw [← backwards] at there
    refine ⟨n, there, fun m again => ?_⟩
    rcases Nat.lt_trichotomy m n with earlier | same | later
    · exact absurd (falls m n earlier version version again there) (Nat.lt_irrefl _)
    · exact same
    · exact absurd (falls n m later version version there again) (Nat.lt_irrefl _)
  · rw [backwards, List.getElem?_eq_none_iff, List.length_reverse]

theorem descends_from_highest (rising : ladder.rungs.Pairwise (· < ·)) :
    Descends (ladder.walk ladder.highest) {rung | rung ∈ ladder.rungs} :=
  descends_of_reverse rising (walk_highest rising)

theorem descends_from_cap (rising : ladder.rungs.Pairwise (· < ·)) (cap : Version) :
    Descends (ladder.walk (ladder.atOrBelow cap)) {rung | rung ∈ ladder.rungs ∧ rung ≤ cap} := by
  have allowed : {rung | rung ∈ ladder.rungs ∧ rung ≤ cap} =
      {rung | rung ∈ ladder.rungs.filter (· ≤ cap)} := by
    ext rung
    simp
  rw [allowed]
  exact descends_of_reverse (rising.filter _) (walk_atOrBelow rising cap)

/-- The steps on any rising ladder, from any version, whether it is a rung or not.  The two searches
find the greatest rung at or below the version and the greatest one strictly below it, and nothing
only where there is no such rung; from a higher version they find nothing lower, with nothing at all
as the lowest.  The step down leads to a lower version, past no rung.  Steps down from the highest
rung come by every rung, and those from what a cap allows come by the rungs that it allows. -/
theorem steps_of_rising (ladder : Ladder) (rising : ladder.rungs.Pairwise (· < ·)) :
    (∀ version rung, ladder.atOrBelow version = some rung ↔
      IsGreatest {other | other ∈ ladder.rungs ∧ other ≤ version} rung) ∧
    (∀ version, ladder.atOrBelow version = none ↔ ∀ rung ∈ ladder.rungs, ¬ rung ≤ version) ∧
    (∀ version rung, ladder.below version = some rung ↔
      IsGreatest {other | other ∈ ladder.rungs ∧ other < version} rung) ∧
    (∀ version, ladder.below version = none ↔ ∀ rung ∈ ladder.rungs, ¬ rung < version) ∧
    (∀ version higher, version ≤ higher →
      ladder.atOrBelow version ≤ ladder.atOrBelow higher ∧
      ladder.below version ≤ ladder.below higher) ∧
    (∀ version lower, ladder.below version = some lower →
      lower < version ∧ ∀ rung ∈ ladder.rungs, ¬ (lower < rung ∧ rung < version)) ∧
    Descends (ladder.walk ladder.highest) {rung | rung ∈ ladder.rungs} ∧
    ∀ cap, Descends (ladder.walk (ladder.atOrBelow cap))
      {rung | rung ∈ ladder.rungs ∧ rung ≤ cap} := by
  refine ⟨isGreatest_of_atOrBelow rising, fun version => atOrBelow_eq_none_iff,
    isGreatest_of_below rising, fun version => below_eq_none_iff,
    fun version higher raised => ⟨atOrBelow_mono rising raised, below_mono rising raised⟩, ?_,
    descends_from_highest rising, descends_from_cap rising⟩
  intro version lower found
  obtain ⟨⟨-, isLower⟩, greatest⟩ := (isGreatest_of_below rising version lower).mp found
  refine ⟨isLower, ?_⟩
  rintro rung member ⟨above, below⟩
  exact Nat.not_le_of_lt above (greatest ⟨member, below⟩)

/-- The versions 1.3 and 2.0 lie between rungs, the first of them as a cap as well. -/
theorem steps_between_rungs :
    let ladder : Ladder := ⟨[⟨1, 0⟩, ⟨1, 2⟩, ⟨1, 4⟩, ⟨2, 1⟩]⟩
    ladder.rungs.Pairwise (· < ·) ∧
      IsGreatest {rung | rung ∈ ladder.rungs ∧ rung < ⟨2, 0⟩} ⟨1, 4⟩ ∧
      ladder.below ⟨1, 3⟩ ≤ ladder.below ⟨2, 0⟩ ∧
      Descends (ladder.walk (some ⟨2, 1⟩)) {rung | rung ∈ ladder.rungs} ∧
      Descends (ladder.walk (some ⟨1, 2⟩)) {rung | rung ∈ ladder.rungs ∧ rung ≤ ⟨1, 3⟩} := by
  intro ladder
  have rising : ladder.rungs.Pairwise (· < ·) := by decide
  have capped : ladder.atOrBelow ⟨1, 3⟩ = some ⟨1, 2⟩ := by decide
  obtain ⟨-, -, greatest, -, raised, -, all, allowed⟩ := steps_of_rising ladder rising
  exact ⟨rising, (greatest ⟨2, 0⟩ ⟨1, 4⟩).mp (by decide), (raised ⟨1, 3⟩ ⟨2, 0⟩ (by decide)).2, all,
    capped ▸ allowed ⟨1, 3⟩⟩

end Ladder

/-! ## Refusals as a walk -/

namespace VersionTable

/-- The table after the version at which a kind is spoken was refused, if there is one. -/
def refuse (kind : RequestKind) (table : VersionTable) : VersionTable :=
  match table.current kind with
  | some version => (table.stepDown kind version).2
  | none => table

theorem current_refuse (kind : RequestKind) (table : VersionTable) :
    (table.refuse kind).current kind = (table.current kind).bind kind.ladder.below := by
  unfold refuse
  cases spoken : table.current kind with
  | none => exact spoken
  | some version =>
      show (table.lower kind version).current kind = kind.ladder.below version
      rw [current_lower, if_pos rfl, next_spoken spoken]

theorem current_refuse_iterate (kind : RequestKind) (table : VersionTable) (n : Nat) :
    ((refuse kind)^[n] table).current kind = kind.ladder.walk (table.current kind) n := by
  have step : Function.Semiconj (current · kind) (refuse kind) (·.bind kind.ladder.below) :=
    current_refuse kind
  exact step.iterate_right n table

/-- A kind whose version is refused again and again is spoken at each rung that the cap allows, once
and from the highest down, and then no more. -/
theorem refusals_descend (cap : Option Version) (kind : RequestKind) :
    Ladder.Descends (fun n => ((refuse kind)^[n] (new cap)).current kind)
      {rung | rung ∈ kind.ladder.rungs ∧ Allows cap rung} := by
  have rising := kind.ladder_ascending
  have walks : (fun n => ((refuse kind)^[n] (new cap)).current kind) =
      kind.ladder.walk (initial kind cap) := by
    funext n
    rw [current_refuse_iterate, current_new]
  rw [walks]
  cases cap with
  | none => simpa [initial, Allows] using Ladder.descends_from_highest rising
  | some cap => simpa [initial, Allows] using Ladder.descends_from_cap rising cap

-- After the lowest rung there is no version, however often it is refused.
example : (List.range 4).map
      (fun n => ((refuse .setRadioPower)^[n] (new (some ⟨1, 5⟩))).current .setRadioPower) =
    [some ⟨1, 5⟩, some ⟨1, 0⟩, none, none] := by decide

end VersionTable

end ModemLink
