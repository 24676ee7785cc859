import Mathlib.Algebra.Order.Group.Defs

/-! Events that are counted in a window that slides with the time. Where every event meets fewer
than the limit in the window that ends with it, no window has more than the limit. -/

set_option autoImplicit false

namespace InfrasafeBot.Library.SlidingWindow

variable {Time Event : Type} [AddCommGroup Time] [LinearOrder Time] [IsOrderedAddMonoid Time]
  (time : Event → Time)

def since (cutoff : Time) (events : List Event) : Nat := events.countP fun event => cutoff < time event

def within (length moment : Time) (events : List Event) : Nat :=
  events.countP fun event => moment - length < time event && decide (time event ≤ moment)

variable {time} {length cutoff later moment : Time} {events : List Event} {last : Event}
  {limit : Nat}

omit [AddCommGroup Time] [IsOrderedAddMonoid Time] in
theorem since_anti (after : cutoff ≤ later) : since time later events ≤ since time cutoff events :=
  List.countP_mono_left fun _ _ newer => decide_eq_true (lt_of_le_of_lt after (of_decide_eq_true newer))

theorem within_le_since (before : cutoff ≤ moment) :
    within time length moment events ≤ since time (cutoff - length) events := by
  refine List.countP_mono_left fun event _ inside => decide_eq_true ?_
  have newer := of_decide_eq_true (Bool.and_eq_true_iff.mp inside).1
  exact lt_of_le_of_lt (sub_le_sub_right before length) newer

theorem within_concat_le (bounded : ∀ moment, within time length moment events ≤ limit)
    (room : since time (time last - length) events < limit) (moment : Time) :
    within time length moment (events ++ [last]) ≤ limit := by
  unfold within at bounded ⊢
  rw [List.countP_append, List.countP_singleton]
  split
  · next inside =>
      have met := @within_le_since Time Event _ _ _ time length (time last) moment events
        (of_decide_eq_true (Bool.and_eq_true_iff.mp inside).2)
      unfold within at met
      exact Nat.succ_le_of_lt (Nat.lt_of_le_of_lt met room)
  · exact bounded moment

end InfrasafeBot.Library.SlidingWindow
