/-
Module: ModemLink.VersionTable
Purpose: The version at which each kind of request is spoken, and how refusals lower it.
Main exports: VersionTable, current, initial, lower, StepDown
-/
import ModemLink.RequestKind.Table

namespace ModemLink

/-!
Each kind begins at its highest version, bounded by a cap.  When the modem refuses a version, the
kind goes down to the rung below it, or to no version at all.  It never goes up: an old refusal that
comes late finds the kind already lower and leaves it there.
-/

/-- The version at which each kind is spoken; `none` for a kind that is not spoken at all. -/
structure VersionTable where
  cap : Option Version
  versions : RequestKind.Table (Option Version)
deriving DecidableEq, Repr

/-- What is left to do after a version was refused. -/
inductive StepDown where
  /-- Try again at this version. -/
  | retry (version : Version)
  /-- No version is left. -/
  | exhausted
deriving DecidableEq, Repr

namespace VersionTable

/-- Where a kind begins. -/
def initial (kind : RequestKind) (cap : Option Version) : Option Version :=
  match cap with
  | none => kind.ladder.highest
  | some cap => kind.ladder.atOrBelow cap

/-- The table before any refusal. -/
def new (cap : Option Version) : VersionTable :=
  ⟨cap, .ofFn fun kind => initial kind cap⟩

/-- The version at which a kind is spoken now. -/
def current (table : VersionTable) (kind : RequestKind) : Option Version :=
  table.versions.get kind

/-- The version of a kind after `failed` was refused: the rung below it, unless the kind is lower
already. -/
def next (table : VersionTable) (kind : RequestKind) (failed : Version) : Option Version :=
  match table.current kind, kind.ladder.below failed with
  | some version, some rung => some (min version rung)
  | _, _ => none

/-- The table after a refusal. -/
def lower (table : VersionTable) (kind : RequestKind) (failed : Version) : VersionTable :=
  { table with versions := table.versions.set kind (table.next kind failed) }

/-- Lower a kind after a refusal, and tell what is left to do. -/
def stepDown (table : VersionTable) (kind : RequestKind) (failed : Version) :
    StepDown × VersionTable :=
  (match table.next kind failed with
    | some version => .retry version
    | none => .exhausted,
    table.lower kind failed)

/-- The kinds with their versions. -/
def toList (table : VersionTable) : List (RequestKind × Option Version) :=
  table.versions.toList

/-! ## How refusals act on `current` -/

@[simp] theorem current_new (cap : Option Version) (kind : RequestKind) :
    (new cap).current kind = initial kind cap := by
  simp [new, current]

theorem current_lower (table : VersionTable) (kind other : RequestKind) (failed : Version) :
    (table.lower kind failed).current other =
      if other = kind then table.next kind failed else table.current other := by
  simp [lower, current, RequestKind.Table.get_set]

/-- How far a kind can still fall: above the rank of its version, and zero with no version. -/
def height (table : VersionTable) (kind : RequestKind) : Nat :=
  match table.current kind with
  | some version => version.rank + 1
  | none => 0

/-- A kind falls when the version it is spoken at is refused. -/
theorem height_lower_lt {table : VersionTable} {kind : RequestKind} {version : Version}
    (h : table.current kind = some version) :
    (table.lower kind version).height kind < table.height kind := by
  simp only [height, current_lower, if_pos, next, h]
  cases below : kind.ladder.below version with
  | none => simp
  | some rung =>
    have := Version.lt_def.mp (Ladder.lt_of_below_eq_some below)
    simp only [Version.rank_min]
    omega

end VersionTable

end ModemLink
