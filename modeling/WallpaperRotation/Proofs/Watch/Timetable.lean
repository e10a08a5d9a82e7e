/-
# The timetable of a daemon

A daemon starts its ticks one after the other, each of them when it is due, or when the one before
it came to an end where that is later.  It starts all that are due before it is shut down, unless
one of them is still under way then.  That one is neither counted nor told; each of the others is
counted, and told once if it gave no good result.  A call that fails does not keep the next tick
from making its call.  After a call that broke down no call is made, and each further tick is told
as a failure.
-/
import WallpaperRotation.Proofs.Watch.Course

namespace WallpaperRotation

/-! ## Started ticks -/

/-- A tick that a daemon started, with its times. -/
structure Started where
  due : Nat
  begun : Nat
  ended : Nat
  tick : Tick
  /-- The tick was still under way when the daemon was shut down. -/
  isLeft : Bool

namespace Started

/-- The failure that people are told of, if there is one.  What becomes of a tick that was left is
not told. -/
def failure? (started : Started) : Option String :=
  if started.isLeft then none else started.tick.failure?

/-- What the call was told about the folders, if one was made. -/
def flag? (started : Started) : Option Bool :=
  started.tick.flag?

end Started

namespace Daemon

variable {World : Type} {callback : Callback World} {teller : Teller World}
  {schedule : Schedule World}

/-- The ticks that a daemon starts until it is shut down, from a time on and with its timer due at
another one. -/
def startsFrom (callback : Callback World) (teller : Teller World) (schedule : Schedule World)
    (now due : Nat) (daemon : Daemon World) : List Started :=
  let begun := max now due
  if h : schedule.shutdown.isSeen (2 * daemon.completed) begun then []
  else
    let ready := daemon.notice (schedule.arrivals begun)
    let ended := begun + ready.lasting schedule.lasts
    if schedule.shutdown.isSeen (2 * daemon.completed + 1) ended then
      [⟨due, begun, ended, ready.upcoming callback, true⟩]
    else
      ⟨due, begun, ended, ready.upcoming callback, false⟩ ::
        startsFrom callback teller schedule ended (schedule.timer.next due begun)
          (ready.tick callback teller)
termination_by schedule.shutdown.time + 1 - due
decreasing_by
  have hdue := schedule.timer.lt_next (Nat.le_max_right now due)
  have htime := Shutdown.le_time_of_not_isSeen h
  omega

/-- The ticks that a daemon starts until it is shut down, when it is started in a world. -/
def starts (callback : Callback World) (teller : Teller World) (schedule : Schedule World)
    (world : World) : List Started :=
  startsFrom callback teller schedule 0 0 (start world)

/-! ## What was counted and told -/

/-- A daemon came through some ticks: those that were not left were counted, people were told of
their failures, and the calls were told what was noted. -/
structure Recounts (before : Daemon World) (starts : List Started) (after : Daemon World) :
    Prop where
  completed : after.completed = before.completed + starts.countP fun started => !started.isLeft
  told : after.told = before.told ++ starts.filterMap Started.failure?
  flags : after.flags = before.flags ++ starts.filterMap Started.flag?

/-- Without a tick there is nothing to count. -/
theorem Recounts.refl (daemon : Daemon World) : daemon.Recounts [] daemon where
  completed := rfl
  told := (List.append_nil _).symm
  flags := (List.append_nil _).symm

/-- A tick is counted, and those behind it are. -/
theorem Recounts.cons {before middle after : Daemon World} {started : Started}
    {starts : List Started} (h : before.Recounts [started] middle)
    (hrest : middle.Recounts starts after) : before.Recounts (started :: starts) after where
  completed := by
    rw [hrest.completed, h.completed, Nat.add_assoc, ← List.countP_append, List.singleton_append]
  told := by
    rw [hrest.told, h.told, List.append_assoc, ← List.filterMap_append, List.singleton_append]
  flags := by
    rw [hrest.flags, h.flags, List.append_assoc, ← List.filterMap_append, List.singleton_append]

/-- After a tick the daemon is broken if it was before or the call broke down. -/
theorem isBroken_tick (daemon : Daemon World) (callback : Callback World)
    (teller : Teller World) : (daemon.tick callback teller).isBroken =
      (daemon.isBroken || (daemon.upcoming callback).brokeDown) := by
  have hleads := (leads_pass callback teller daemon .tick).isBroken
  rw [ticksOf_happenings_tick, List.any_cons, List.any_nil, Bool.or_false] at hleads
  exact hleads

/-- A daemon that is shut down after a thousandth of a second, while its first call takes 300 of
them: the call is made, but its tick is not counted. -/
example :
    let daemon := watch (fun _ _ => (.failed "boom", [], ())) (fun _ world => world)
      ⟨⟨3600000, by decide, 5⟩, ⟨1, fun _ => true⟩, fun _ _ => 300, fun _ => []⟩ ()
    daemon.flags = [false] ∧ daemon.completed = 0 ∧ daemon.told = [] := by
  decide +kernel

end Daemon

end WallpaperRotation
