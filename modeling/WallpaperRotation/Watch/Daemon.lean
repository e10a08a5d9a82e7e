/-
# The daemon

A daemon calls for a rotation at fixed intervals, the first time at once.  It notes whether the
watched folders changed, and passes that on with the next call.  A call that fails is told and does
not stop the daemon; after one that breaks down no call is made any more, and every further tick
fails.  A daemon that is shut down does not wait for a tick that is under way.
-/
import WallpaperRotation.Watch.Change
import WallpaperRotation.Watch.Timer

namespace WallpaperRotation

/-! ## Calls -/

/-- How a call ended. -/
inductive CallEnd where
  | done
  | failed (message : String)
  /-- The call broke down instead of coming to an end, which the runtime may report on. -/
  | brokeDown (report : List String := [])
  deriving DecidableEq, Repr

/-- The call broke down. -/
def CallEnd.isBreakdown : CallEnd → Bool
  | .brokeDown _ => true
  | _ => false

/-- What is told of a call that broke down. -/
def breakdownMessage (report : List String) : String :=
  ": ".intercalate ("Rotation task panicked" :: report)

/-- What a daemon calls, with whether the folders changed and in a world that it changes. -/
abbrev Callback (World : Type) := Bool → World → CallEnd × List Change × World

/-- What is done in the world when people are told of a failure. -/
abbrev Teller (World : Type) := String → World → World

/-! ## Daemons -/

/-- A daemon in a world. -/
structure Daemon (World : Type) where
  world : World
  /-- A watched folder changed since the last tick began. -/
  isDirty : Bool
  /-- A call broke down. -/
  isBroken : Bool
  /-- The number of ticks. -/
  completed : Nat
  /-- What the calls were told about the folders, in their order. -/
  flags : List Bool
  /-- The failures that people were told of. -/
  told : List String

namespace Daemon

variable {World : Type}

/-- A daemon that was just started. -/
def start (world : World) : Daemon World := ⟨world, false, false, 0, [], []⟩

/-- The daemon after something happened in the watched folders. -/
def notice (daemon : Daemon World) (changes : List Change) : Daemon World :=
  { daemon with isDirty := daemon.isDirty || changes.any Change.isRelevant }

/-- The daemon after people were told of a failure. -/
def tell (daemon : Daemon World) (teller : Teller World) (message : String) : Daemon World :=
  { daemon with world := teller message daemon.world, told := daemon.told ++ [message] }

/-- The daemon after a call came to an end. -/
def conclude (daemon : Daemon World) (teller : Teller World) : CallEnd → Daemon World
  | .done => daemon
  | .failed message => daemon.tell teller message
  | .brokeDown report => { daemon.tell teller (breakdownMessage report) with isBroken := true }

/-- The daemon after a tick. -/
def tick (daemon : Daemon World) (callback : Callback World) (teller : Teller World) :
    Daemon World :=
  let begun := { daemon with isDirty := false, completed := daemon.completed + 1 }
  if daemon.isBroken then begun.tell teller "A previous rotation panicked"
  else
    let (ending, changes, world) := callback daemon.isDirty daemon.world
    (({ begun with world := world, flags := daemon.flags ++ [daemon.isDirty] }).notice
      changes).conclude teller ending

/-- The daemon after a tick that it did not wait for: the call goes on to its end, but the tick is
not counted and nobody is told what became of it. -/
def leave (daemon : Daemon World) (callback : Callback World) : Daemon World :=
  let begun := { daemon with isDirty := false }
  if daemon.isBroken then begun
  else
    let (ending, changes, world) := callback daemon.isDirty daemon.world
    { begun with
      world := world
      flags := daemon.flags ++ [daemon.isDirty]
      isBroken := ending.isBreakdown }.notice changes

/-- The daemon after so many ticks that it waited for, or before the first one in a world where it
has to stop. -/
def run (callback : Callback World) (teller : Teller World) (stops : World → Bool) :
    Nat → Daemon World → Daemon World
  | 0, daemon => daemon
  | ticks + 1, daemon =>
    if stops daemon.world then daemon
    else run callback teller stops ticks (daemon.tick callback teller)

end Daemon

/-- What a daemon goes on by. -/
structure Schedule (World : Type) where
  timer : Timer
  shutdown : Shutdown
  /-- How long a call takes. -/
  lasts : Bool → World → Nat
  /-- What happens in the watched folders while the daemon waits for the tick at a time. -/
  arrivals : Nat → List Change

namespace Daemon

variable {World : Type}

/-- How long a tick takes: without a call no time. -/
def lasting (daemon : Daemon World) (lasts : Bool → World → Nat) : Nat :=
  if daemon.isBroken then 0 else lasts daemon.isDirty daemon.world

/-- The daemon when it was shut down, from a time on and with its timer due at another one.  It
waits for its timer and then for the tick, and both times for the shutdown as well. -/
def watchFrom (callback : Callback World) (teller : Teller World) (schedule : Schedule World)
    (now due : Nat) (daemon : Daemon World) : Daemon World :=
  let begun := max now due
  if h : schedule.shutdown.isSeen (2 * daemon.completed) begun then daemon
  else
    let ready := daemon.notice (schedule.arrivals begun)
    let ended := begun + ready.lasting schedule.lasts
    if schedule.shutdown.isSeen (2 * daemon.completed + 1) ended then ready.leave callback
    else
      watchFrom callback teller schedule ended (schedule.timer.next due begun)
        (ready.tick callback teller)
termination_by schedule.shutdown.time + 1 - due
decreasing_by
  have hdue := schedule.timer.lt_next (Nat.le_max_right now due)
  have htime := Shutdown.le_time_of_not_isSeen h
  omega

/-- What becomes of a daemon that is started in a world, until it is shut down. -/
def watch (callback : Callback World) (teller : Teller World) (schedule : Schedule World)
    (world : World) : Daemon World :=
  watchFrom callback teller schedule 0 0 (start world)

end Daemon

/-- The number of ticks that are due before a time, in thousandths of a second: one at the start
and one after each interval. -/
def Interval.ticksBefore (interval : Interval) (time : Nat) : Nat :=
  (time + interval.seconds * 1000 - 1) / (interval.seconds * 1000)

end WallpaperRotation
