/-
# Timers

A timer is due at once and then after each of its periods.  Where it is taken late, the next period
is counted from then on.  What goes on by a timer goes on until it is shut down.  All times are in
thousandths of a second from the start.
-/
import WallpaperRotation.Watch.Interval

namespace WallpaperRotation

/-- A timer that delays its periods when it is taken late. -/
structure Timer where
  period : Nat
  pos : 0 < period
  /-- How much later than it is due the timer may be taken without being delayed. -/
  grace : Nat

namespace Timer

/-- When a timer is due again that was due at one time and taken at another one. -/
def next (timer : Timer) (due taken : Nat) : Nat :=
  (if taken ≤ due + timer.grace then due else taken) + timer.period

/-- A timer is not due again at once. -/
theorem lt_next (timer : Timer) {due taken : Nat} (h : due ≤ taken) :
    due < timer.next due taken := by
  have hpos := timer.pos
  unfold next
  split <;> omega

/-- A timer that is taken when it is due is due again a period later. -/
theorem next_self (timer : Timer) (due : Nat) : timer.next due due = due + timer.period :=
  congrArg (· + timer.period) (if_pos (Nat.le_add_right due timer.grace))

end Timer

/-- The timer of an interval. -/
def Interval.timer (interval : Interval) : Timer where
  period := interval.seconds * 1000
  pos := Nat.mul_pos interval.pos (by decide)
  grace := 5

/-- When something is shut down.  Where the shutdown comes together with something else that is
waited for, either of them may be seen first. -/
structure Shutdown where
  time : Nat
  /-- The shutdown would be seen first at the wait of this number. -/
  isFirst : Nat → Bool

namespace Shutdown

/-- At the wait of this number the shutdown is seen before what comes at this time. -/
def isSeen (shutdown : Shutdown) (wait time : Nat) : Bool :=
  shutdown.time < time || shutdown.time = time && shutdown.isFirst wait

variable {shutdown : Shutdown} {wait time : Nat}

/-- A shutdown that is not seen does not come earlier. -/
theorem le_time_of_not_isSeen (h : ¬shutdown.isSeen wait time = true) : time ≤ shutdown.time := by
  simp only [isSeen, Bool.or_eq_true, Bool.and_eq_true, decide_eq_true_eq] at h
  omega

/-- A shutdown that comes together with nothing is seen before all that comes later. -/
theorem isSeen_iff (h : shutdown.time ≠ time) :
    shutdown.isSeen wait time = true ↔ shutdown.time < time := by
  simp only [isSeen, Bool.or_eq_true, Bool.and_eq_true, decide_eq_true_eq, h, false_and, or_false]

end Shutdown

end WallpaperRotation
