/-
Module: ModemLink.Proofs.Lowering
Purpose: The version of a kind depends only on which of its versions were refused.
Main exports:
  RungBelow, last_fit_eq_some_iff, below_eq_some_iff, below_eq_none_iff, lowerAll, Spent, bounds,
  current_lowerAll, table_of_refusals
-/
import Mathlib.Data.List.Induction
import Mathlib.Data.Set.Basic
import Mathlib.Order.Bounds.Defs
import ModemLink.Proofs.Rungs

namespace ModemLink

/-!
Requests of a kind that are on their way together are refused in any order, and a version once for
each of them.  A refused version need not be the one spoken now, nor a rung at all.  What a table
comes to is here said by membership alone: which versions of a kind are among the refused ones.
-/

namespace Ladder

/-- The highest rung strictly below a version. -/
structure RungBelow (ladder : Ladder) (version rung : Version) : Prop where
  mem : rung ∈ ladder.rungs
  below : rung < version
  highest : ∀ other ∈ ladder.rungs, other < version → other ≤ rung

/-- What is found last in a rising list is the greatest of what fits. -/
theorem last_fit_eq_some_iff {rungs : List Version} (rising : rungs.Pairwise (· < ·))
    (fits : Version → Bool) {best : Version} :
    rungs.reverse.find? fits = some best ↔
      IsGreatest {rung | rung ∈ rungs ∧ fits rung = true} best := by
  constructor
  · intro found
    refine ⟨⟨List.mem_reverse.mp (List.mem_of_find?_eq_some found), List.find?_some found⟩, ?_⟩
    rintro rung ⟨member, fit⟩
    obtain ⟨last, here, above⟩ := last_fit_of_mem rising fits member fit
    rw [found] at here
    cases here
    exact above
  · rintro ⟨⟨member, fit⟩, greatest⟩
    obtain ⟨last, here, above⟩ := last_fit_of_mem rising fits member fit
    have there : last ∈ rungs := List.mem_reverse.mp (List.mem_of_find?_eq_some here)
    have atMost : last ≤ best := greatest ⟨there, List.find?_some here⟩
    rw [here, Version.eq_of_rank_eq (Nat.le_antisymm atMost above)]

theorem below_eq_some_iff {ladder : Ladder} (rising : ladder.rungs.Pairwise (· < ·))
    {version rung : Version} :
    ladder.below version = some rung ↔ ladder.RungBelow version rung := by
  refine (last_fit_eq_some_iff rising _).trans ?_
  simp only [decide_eq_true_eq]
  constructor
  · rintro ⟨⟨member, lower⟩, highest⟩
    exact ⟨member, lower, fun other member lower => highest ⟨member, lower⟩⟩
  · rintro ⟨member, lower, highest⟩
    exact ⟨⟨member, lower⟩, fun other fit => highest other fit.1 fit.2⟩

theorem below_eq_none_iff {ladder : Ladder} {version : Version} :
    ladder.below version = none ↔ ∀ rung ∈ ladder.rungs, ¬ rung < version := by
  simp [below, List.find?_eq_none]

end Ladder

namespace VersionTable

/-- Tables of one cap with the same versions are equal. -/
theorem ext_current {a b : VersionTable} (cap : a.cap = b.cap)
    (current : ∀ kind, a.current kind = b.current kind) : a = b := by
  obtain ⟨aCap, aVersions⟩ := a
  obtain ⟨bCap, bVersions⟩ := b
  obtain rfl : aCap = bCap := cap
  obtain rfl : aVersions = bVersions := RequestKind.Table.ext_get current
  rfl

/-! ## What is refused -/

/-- The table after refusals, in the order in which they came. -/
def lowerAll (table : VersionTable) (refusals : List (RequestKind × Version)) : VersionTable :=
  refusals.foldl (fun table refusal => (table.stepDown refusal.1 refusal.2).2) table

@[simp] theorem lowerAll_nil (table : VersionTable) : table.lowerAll [] = table := rfl

theorem lowerAll_concat (table : VersionTable) (refusals : List (RequestKind × Version))
    (kind : RequestKind) (failed : Version) :
    table.lowerAll (refusals ++ [(kind, failed)]) = (table.lowerAll refusals).lower kind failed := by
  simp [lowerAll, stepDown]

theorem cap_lowerAll (table : VersionTable) (refusals : List (RequestKind × Version)) :
    (table.lowerAll refusals).cap = table.cap := by
  induction refusals using List.reverseRecOn with
  | nil => rfl
  | append_singleton refusals refusal ih => rw [lowerAll_concat]; exact ih

/-- A kind with no version left: it began with none, or a refused version has no rung below it. -/
def Spent (cap : Option Version) (refusals : List (RequestKind × Version)) (kind : RequestKind) :
    Prop :=
  initial kind cap = none ∨
    ∃ failed, (kind, failed) ∈ refusals ∧ ∀ rung ∈ kind.ladder.rungs, ¬ rung < failed

/-- The versions that a kind is kept at or below: where it began, and the highest rung below each of
its refused versions. -/
def bounds (cap : Option Version) (refusals : List (RequestKind × Version)) (kind : RequestKind) :
    Set Version :=
  {version | initial kind cap = some version ∨
    ∃ failed, (kind, failed) ∈ refusals ∧ kind.ladder.RungBelow failed version}

/-- What a kind comes to after refusals: no version where it is spent, and else the least of its
bounds. -/
def ComesTo (cap : Option Version) (refusals : List (RequestKind × Version)) (kind : RequestKind) :
    Option Version → Prop
  | none => Spent cap refusals kind
  | some version => ¬ Spent cap refusals kind ∧ IsLeast (bounds cap refusals kind) version

section

variable {cap : Option Version} {refusals others : List (RequestKind × Version)}
  {kind : RequestKind}

theorem Spent.mono (spent : Spent cap refusals kind)
    (among : ∀ failed, (kind, failed) ∈ refusals → (kind, failed) ∈ others) :
    Spent cap others kind :=
  spent.imp id fun ⟨failed, member, lowest⟩ => ⟨failed, among failed member, lowest⟩

theorem bounds_subset (among : ∀ failed, (kind, failed) ∈ refusals → (kind, failed) ∈ others) :
    bounds cap refusals kind ⊆ bounds cap others kind :=
  fun _ bound => bound.imp id fun ⟨failed, member, below⟩ => ⟨failed, among failed member, below⟩

/-- One more refusal leaves the kinds alone that it does not name. -/
theorem refused_concat_of_ne {other : RequestKind} (differ : kind ≠ other) (version : Version) :
    ∀ failed, (kind, failed) ∈ refusals ++ [(other, version)] ↔ (kind, failed) ∈ refusals := by
  simp [differ]

theorem spent_concat (failed : Version) :
    Spent cap (refusals ++ [(kind, failed)]) kind ↔
      Spent cap refusals kind ∨ kind.ladder.below failed = none := by
  simp only [Spent, List.mem_append, List.mem_singleton, Prod.mk.injEq, true_and, or_and_right,
    exists_or, exists_eq_left, Ladder.below_eq_none_iff, or_assoc]

theorem mem_bounds_concat (failed version : Version) :
    version ∈ bounds cap (refusals ++ [(kind, failed)]) kind ↔
      version ∈ bounds cap refusals kind ∨ kind.ladder.below failed = some version := by
  simp only [bounds, Set.mem_ofPred_eq, List.mem_append, List.mem_singleton, Prod.mk.injEq, true_and,
    or_and_right, exists_or, exists_eq_left, Ladder.below_eq_some_iff kind.ladder_ascending,
    or_assoc]

/-! ## What the table comes to -/

theorem ComesTo.congr {version : Option Version} (comes : ComesTo cap refusals kind version)
    (alike : ∀ failed, (kind, failed) ∈ others ↔ (kind, failed) ∈ refusals) :
    ComesTo cap others kind version := by
  have sameBounds : bounds cap others kind = bounds cap refusals kind :=
    Set.Subset.antisymm (bounds_subset fun failed => (alike failed).mp)
      (bounds_subset fun failed => (alike failed).mpr)
  have sameSpent : Spent cap others kind ↔ Spent cap refusals kind :=
    ⟨fun spent => spent.mono fun failed => (alike failed).mp,
      fun spent => spent.mono fun failed => (alike failed).mpr⟩
  cases version with
  | none => exact sameSpent.mpr comes
  | some version =>
      simp only [ComesTo, sameSpent, sameBounds]
      exact comes

/-- A refused version takes the least bound down to the rung below it, or spends the kind. -/
theorem ComesTo.lower {table : VersionTable} (comes : ComesTo cap refusals kind (table.current kind))
    (failed : Version) :
    ComesTo cap (refusals ++ [(kind, failed)]) kind (table.next kind failed) := by
  unfold next
  cases spoken : table.current kind with
  | none =>
      rw [spoken] at comes
      exact (spent_concat failed).mpr (.inl comes)
  | some current =>
      rw [spoken] at comes
      obtain ⟨usable, bound, least⟩ := comes
      cases below : kind.ladder.below failed with
      | none => exact (spent_concat failed).mpr (.inr below)
      | some rung =>
          refine ⟨?_, ?_, ?_⟩
          · rw [spent_concat, below]
            simp [usable]
          · rw [mem_bounds_concat, below]
            by_cases lower : current ≤ rung
            · have same : min current rung = current := if_pos lower
              rw [same]
              exact .inl bound
            · have same : min current rung = rung := if_neg lower
              rw [same]
              exact .inr rfl
          · intro version member
            rw [mem_bounds_concat, below] at member
            rw [Version.le_def, Version.rank_min]
            obtain before | now := member
            · exact Nat.le_trans (Nat.min_le_left _ _) (least before)
            · cases now
              exact Nat.min_le_right _ _

/-- The version of a kind in closed form, whatever the sequence of refusals. -/
theorem current_lowerAll (cap : Option Version) (refusals : List (RequestKind × Version))
    (kind : RequestKind) :
    ComesTo cap refusals kind (((new cap).lowerAll refusals).current kind) := by
  induction refusals using List.reverseRecOn with
  | nil =>
      rw [lowerAll_nil, current_new]
      cases start : initial kind cap with
      | none => exact .inl start
      | some version =>
          refine ⟨by simp [Spent, start], .inl start, ?_⟩
          intro other bound
          obtain same | ⟨failed, member, -⟩ := bound
          · rw [start] at same
            cases same
            exact Nat.le_refl _
          · cases member
  | append_singleton refusals refusal ih =>
      obtain ⟨other, failed⟩ := refusal
      rw [lowerAll_concat, current_lower]
      by_cases same : kind = other
      · subst same
        rw [if_pos rfl]
        exact ih.lower failed
      · rw [if_neg same]
        exact ih.congr (refused_concat_of_ne same failed)

theorem current_eq_none_iff :
    ((new cap).lowerAll refusals).current kind = none ↔ Spent cap refusals kind := by
  have comes := current_lowerAll cap refusals kind
  cases spoken : ((new cap).lowerAll refusals).current kind with
  | none => simpa [spoken, ComesTo] using comes
  | some version =>
      rw [spoken] at comes
      simp [comes.1]

theorem current_eq_some_iff {version : Version} :
    ((new cap).lowerAll refusals).current kind = some version ↔
      ¬ Spent cap refusals kind ∧ IsLeast (bounds cap refusals kind) version := by
  have comes := current_lowerAll cap refusals kind
  constructor
  · intro spoken
    rwa [spoken] at comes
  · rintro ⟨usable, bound, least⟩
    cases spoken : ((new cap).lowerAll refusals).current kind with
    | none => exact absurd (current_eq_none_iff.mp spoken) usable
    | some current =>
        rw [spoken] at comes
        obtain ⟨-, bound', least'⟩ := comes
        rw [Version.eq_of_rank_eq (Nat.le_antisymm (least' bound) (least bound'))]

/-- A kind comes to the same after refusals that agree on it. -/
theorem current_congr (alike : ∀ failed, (kind, failed) ∈ others ↔ (kind, failed) ∈ refusals) :
    ((new cap).lowerAll others).current kind = ((new cap).lowerAll refusals).current kind := by
  have comes := (current_lowerAll cap refusals kind).congr alike
  cases spoken : ((new cap).lowerAll refusals).current kind with
  | none => exact current_eq_none_iff.mpr (by rwa [spoken] at comes)
  | some version => exact current_eq_some_iff.mpr (by rwa [spoken] at comes)

/-- With fewer refusals a kind is at the same version or higher. -/
theorem current_of_fewer {fewer : List (RequestKind × Version)} (among : fewer ⊆ refusals)
    {version : Version} (spoken : ((new cap).lowerAll refusals).current kind = some version) :
    ∃ higher, ((new cap).lowerAll fewer).current kind = some higher ∧ version ≤ higher := by
  obtain ⟨usable, -, least⟩ := current_eq_some_iff.mp spoken
  have among : ∀ failed, (kind, failed) ∈ fewer → (kind, failed) ∈ refusals :=
    fun _ member => among member
  cases before : ((new cap).lowerAll fewer).current kind with
  | none => exact absurd ((current_eq_none_iff.mp before).mono among) usable
  | some higher =>
      obtain ⟨-, bound, -⟩ := current_eq_some_iff.mp before
      exact ⟨higher, rfl, least (bounds_subset among bound)⟩

/-- Each bound of a kind is a rung, and the kind began at one that the cap allows. -/
theorem current_allowed {version : Version}
    (spoken : ((new cap).lowerAll refusals).current kind = some version) :
    version ∈ kind.ladder.rungs ∧ Allows cap version := by
  obtain ⟨first, start, lower⟩ := current_of_fewer (List.nil_subset refusals) spoken
  rw [lowerAll_nil, current_new] at start
  obtain ⟨-, bound, -⟩ := current_eq_some_iff.mp spoken
  constructor
  · obtain here | ⟨failed, -, below⟩ := bound
    · exact (initial_eq_some here).1
    · exact below.mem
  · intro limit limited
    exact Nat.le_trans lower ((initial_eq_some start).2 limit limited)

end

/-- What a call tells is what the kind comes to with it. -/
theorem answer_stepDown (table : VersionTable) (kind : RequestKind) (failed : Version) :
    (∀ version, (table.stepDown kind failed).1 = .retry version ↔
      (table.stepDown kind failed).2.current kind = some version) ∧
    ((table.stepDown kind failed).1 = .exhausted ↔
      (table.stepDown kind failed).2.current kind = none) := by
  simp only [stepDown, current_lower, if_pos]
  cases table.next kind failed <;> simp

/-- The table depends only on the set of refused versions.  A kind has no version where it is spent,
and else the least of its bounds; so the order and the repetition of the refusals do not matter, nor
those of other kinds, no version rises, and each is a rung that the cap allows.  The answer to one
refusal more is the version that the kind comes to. -/
theorem table_of_refusals (cap : Option Version) (refusals : List (RequestKind × Version)) :
    let table := (new cap).lowerAll refusals
    (∀ kind, table.current kind = none ↔ Spent cap refusals kind) ∧
    (∀ kind version, table.current kind = some version ↔
      ¬ Spent cap refusals kind ∧ IsLeast (bounds cap refusals kind) version) ∧
    (∀ others, (∀ refusal, refusal ∈ others ↔ refusal ∈ refusals) →
      (new cap).lowerAll others = table) ∧
    (∀ others kind, (∀ failed, (kind, failed) ∈ others ↔ (kind, failed) ∈ refusals) →
      ((new cap).lowerAll others).current kind = table.current kind) ∧
    (∀ earlier, earlier <+: refusals → ∀ kind version, table.current kind = some version →
      ∃ higher, ((new cap).lowerAll earlier).current kind = some higher ∧ version ≤ higher) ∧
    (∀ kind version, table.current kind = some version →
      version ∈ kind.ladder.rungs ∧ Allows cap version) ∧
    (∀ kind failed,
      (∀ version, (table.stepDown kind failed).1 = .retry version ↔
        (table.stepDown kind failed).2.current kind = some version) ∧
      ((table.stepDown kind failed).1 = .exhausted ↔
        (table.stepDown kind failed).2.current kind = none)) := by
  refine ⟨fun kind => current_eq_none_iff, fun kind version => current_eq_some_iff, ?_,
    fun others kind alike => current_congr alike, ?_, fun kind version => current_allowed,
    answer_stepDown _⟩
  · intro others alike
    apply ext_current
    · rw [cap_lowerAll, cap_lowerAll]
    · exact fun kind => current_congr fun failed => alike (kind, failed)
  · intro earlier begins kind version spoken
    exact current_of_fewer begins.subset spoken

-- A refusal between two rungs, then older ones of higher versions, and one of another kind.
example : ((new (some ⟨1, 7⟩)).lowerAll [(.getSimStatus, ⟨1, 3⟩), (.getSimStatus, ⟨1, 6⟩),
    (.getSimStatus, ⟨1, 5⟩), (.sendSms, ⟨1, 0⟩)]).current .getSimStatus = some ⟨1, 2⟩ := by decide

end VersionTable

end ModemLink
