/-
Module: ModemLink.Proofs.OrderedFront
Purpose: Cutting an ordered list where something no longer holds.
Main exports: Ordered.takeWhile_eq_filter, Ordered.dropWhile_eq_filter
-/

namespace ModemLink.Ordered

/-!
Ladders, queues and rows of instants are kept in order and are cut at the front.  Where all in front
of what fits fits too, the cut takes just what fits and leaves the others.
-/

variable {α : Type} {before : α → α → Prop} {fits : α → Bool} {list : List α}

/-- After one that does not fit, nothing does. -/
theorem unfit_of_unfit {first : α} {rest : List α} (ahead : ∀ other ∈ rest, before first other)
    (closed : ∀ first second, before first second → fits second = true → fits first = true)
    (unfit : ¬ fits first = true) : ∀ other ∈ first :: rest, ¬ fits other = true := by
  intro other member
  rcases List.mem_cons.mp member with rfl | later
  · exact unfit
  · exact fun fit => unfit (closed first other (ahead other later) fit)

theorem takeWhile_eq_filter (ordered : list.Pairwise before)
    (closed : ∀ first second, before first second → fits second = true → fits first = true) :
    list.takeWhile fits = list.filter fits := by
  induction list with
  | nil => rfl
  | cons first rest ih =>
      obtain ⟨ahead, ordered⟩ := List.pairwise_cons.mp ordered
      by_cases fit : fits first = true
      · rw [List.takeWhile_cons_of_pos fit, List.filter_cons_of_pos fit, ih ordered]
      · rw [List.takeWhile_cons_of_neg fit,
          List.filter_eq_nil_iff.mpr (unfit_of_unfit ahead closed fit)]

theorem dropWhile_eq_filter (ordered : list.Pairwise before)
    (closed : ∀ first second, before first second → fits second = true → fits first = true) :
    list.dropWhile fits = list.filter (!fits ·) := by
  induction list with
  | nil => rfl
  | cons first rest ih =>
      obtain ⟨ahead, ordered⟩ := List.pairwise_cons.mp ordered
      by_cases fit : fits first = true
      · rw [List.dropWhile_cons_of_pos fit, ih ordered, List.filter_cons_of_neg (by simp [fit])]
      · rw [List.dropWhile_cons_of_neg fit, Eq.comm, List.filter_eq_self]
        intro other member
        simpa using unfit_of_unfit ahead closed fit other member

end ModemLink.Ordered
