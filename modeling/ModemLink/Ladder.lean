/-
Module: ModemLink.Ladder
Purpose: The versions at which one kind of request exists, and the steps between them.
Main exports: Ladder, highest, lowest, atOrBelow, below, contains
-/
import ModemLink.Version

namespace ModemLink

/-- The versions ("rungs") at which a kind of request can be spoken, lowest first.  Nothing here
needs the order: each search starts at the end of the list and takes the first rung that fits. -/
structure Ladder where
  rungs : List Version
deriving DecidableEq, Repr

namespace Ladder

/-- The last rung. -/
def highest (ladder : Ladder) : Option Version :=
  ladder.rungs.getLast?

/-- The first rung. -/
def lowest (ladder : Ladder) : Option Version :=
  ladder.rungs.head?

/-- The last rung that is at or below a cap. -/
def atOrBelow (ladder : Ladder) (cap : Version) : Option Version :=
  ladder.rungs.reverse.find? (· ≤ cap)

/-- The last rung that is strictly below a version. -/
def below (ladder : Ladder) (version : Version) : Option Version :=
  ladder.rungs.reverse.find? (· < version)

/-- Whether a version is a rung. -/
def contains (ladder : Ladder) (version : Version) : Bool :=
  ladder.rungs.contains version

theorem lt_of_below_eq_some {ladder : Ladder} {version lower : Version}
    (h : ladder.below version = some lower) : lower < version := by
  simpa using List.find?_some h

theorem mem_of_below_eq_some {ladder : Ladder} {version lower : Version}
    (h : ladder.below version = some lower) : lower ∈ ladder.rungs := by
  simpa using List.mem_of_find?_eq_some h

theorem le_of_atOrBelow_eq_some {ladder : Ladder} {cap rung : Version}
    (h : ladder.atOrBelow cap = some rung) : rung ≤ cap := by
  simpa using List.find?_some h

theorem mem_of_atOrBelow_eq_some {ladder : Ladder} {cap rung : Version}
    (h : ladder.atOrBelow cap = some rung) : rung ∈ ladder.rungs := by
  simpa using List.mem_of_find?_eq_some h

end Ladder

end ModemLink
