/-
# The course of a daemon

What happens to a daemon is changes in the folders, and ticks.  Changes come between two ticks or
while a tick is under way.  What a daemon has counted, passed on and told can be read off what
happened, and so can whether it notes a change and whether it is broken.
-/
import WallpaperRotation.Watch.Daemon

namespace WallpaperRotation

/-! ## Happenings -/

/-- Something that a daemon goes on by. -/
inductive Moment where
  /-- The folders changed while no tick was under way. -/
  | changes (changes : List Change)
  /-- The time for a tick has come. -/
  | tick

/-- A tick that was started. -/
structure Tick where
  /-- A change was noted when the tick was started. -/
  rescan : Bool
  /-- How the call ended; `none` when none was made. -/
  ending : Option CallEnd
  deriving DecidableEq, Repr

namespace Tick

/-- What the call was told about the folders, if one was made. -/
def flag? (tick : Tick) : Option Bool :=
  if tick.ending.isSome then some tick.rescan else none

/-- The failure that people are told of, if there is one. -/
def failure? (tick : Tick) : Option String :=
  match tick.ending with
  | none => some "A previous rotation panicked"
  | some .done => none
  | some (.failed message) => some message
  | some (.brokeDown report) => some (breakdownMessage report)

/-- The call broke down. -/
def brokeDown (tick : Tick) : Bool :=
  tick.ending.any CallEnd.isBreakdown

end Tick

/-- Something that happened to a daemon. -/
inductive Happening where
  /-- A folder changed. -/
  | changed (change : Change)
  /-- A tick was started. -/
  | ticked (tick : Tick)

/-- The tick that was started, if one was. -/
def Happening.tick? : Happening → Option Tick
  | .changed _ => none
  | .ticked tick => some tick

/-- Whether a change is noted after something happened. -/
def Happening.notes (dirty : Bool) : Happening → Bool
  | .changed change => dirty || change.isRelevant
  | .ticked _ => false

/-- The ticks that were started, in their order. -/
def ticksOf (happenings : List Happening) : List Tick :=
  happenings.filterMap Happening.tick?

/-- The ticks of some happenings and others. -/
theorem ticksOf_append (happenings others : List Happening) :
    ticksOf (happenings ++ others) = ticksOf happenings ++ ticksOf others :=
  List.filterMap_append

/-- No tick is started by changes. -/
theorem ticksOf_changes (changes : List Change) : ticksOf (changes.map .changed) = [] := by
  induction changes with
  | nil => rfl
  | cons change changes ih => exact ih

/-- A change is noted after some if one of them is relevant. -/
theorem foldl_notes_changes (changes : List Change) (dirty : Bool) :
    (changes.map Happening.changed).foldl Happening.notes dirty =
      (dirty || changes.any Change.isRelevant) := by
  induction changes generalizing dirty with
  | nil => exact (Bool.or_false dirty).symm
  | cons change changes ih =>
    rw [List.map_cons, List.foldl_cons, ih, List.any_cons, Happening.notes, Bool.or_assoc]

/-! ## Living daemons -/

namespace Daemon

variable {World : Type} {callback : Callback World} {teller : Teller World}

/-- The daemon after a moment. -/
def pass (daemon : Daemon World) (callback : Callback World) (teller : Teller World) :
    Moment → Daemon World
  | .changes changes => daemon.notice changes
  | .tick => daemon.tick callback teller

/-- The tick that a daemon starts when it is due. -/
def upcoming (daemon : Daemon World) (callback : Callback World) : Tick :=
  ⟨daemon.isDirty,
    if daemon.isBroken then none else some (callback daemon.isDirty daemon.world).1⟩

/-- What happens in a moment.  The changes that come while a tick is under way come after its
start. -/
def happenings (daemon : Daemon World) (callback : Callback World) : Moment → List Happening
  | .changes changes => changes.map .changed
  | .tick =>
    if daemon.isBroken then [.ticked ⟨daemon.isDirty, none⟩]
    else
      let (ending, changes, _) := callback daemon.isDirty daemon.world
      .ticked ⟨daemon.isDirty, some ending⟩ :: changes.map .changed

/-- In a tick of a broken daemon nothing else happens. -/
theorem happenings_tick_of_broken {daemon : Daemon World} (h : daemon.isBroken = true) :
    daemon.happenings callback .tick = [.ticked ⟨daemon.isDirty, none⟩] :=
  if_pos h

/-- In a tick of a daemon that is not broken there is its call, and the changes meanwhile. -/
theorem happenings_tick_of_call {daemon : Daemon World} (h : daemon.isBroken = false) :
    daemon.happenings callback .tick =
      .ticked ⟨daemon.isDirty, some (callback daemon.isDirty daemon.world).1⟩ ::
        (callback daemon.isDirty daemon.world).2.1.map .changed :=
  if_neg (by simp [h])

/-- In a tick one tick is started. -/
theorem ticksOf_happenings_tick (daemon : Daemon World) (callback : Callback World) :
    ticksOf (daemon.happenings callback .tick) = [daemon.upcoming callback] := by
  unfold upcoming
  cases hbroken : daemon.isBroken with
  | true =>
    rw [happenings_tick_of_broken hbroken]
    rfl
  | false =>
    rw [happenings_tick_of_call hbroken]
    exact congrArg (List.cons _) (ticksOf_changes _)

/-- The daemon after some moments. -/
def live (callback : Callback World) (teller : Teller World) :
    List Moment → Daemon World → Daemon World
  | [], daemon => daemon
  | moment :: moments, daemon => live callback teller moments (daemon.pass callback teller moment)

/-- All that happens in some moments. -/
def course (callback : Callback World) (teller : Teller World) :
    List Moment → Daemon World → List Happening
  | [], _ => []
  | moment :: moments, daemon =>
    daemon.happenings callback moment ++
      course callback teller moments (daemon.pass callback teller moment)

/-! ## What a daemon knows of its course -/

/-- Something happened between two daemons. -/
structure Leads (before : Daemon World) (happenings : List Happening) (after : Daemon World) :
    Prop where
  completed : after.completed = before.completed + (ticksOf happenings).length
  flags : after.flags = before.flags ++ (ticksOf happenings).filterMap Tick.flag?
  told : after.told = before.told ++ (ticksOf happenings).filterMap Tick.failure?
  isDirty : after.isDirty = happenings.foldl Happening.notes before.isDirty
  isBroken : after.isBroken = (before.isBroken || (ticksOf happenings).any Tick.brokeDown)

/-- Where nothing happened, nothing has changed. -/
theorem Leads.refl (daemon : Daemon World) : daemon.Leads [] daemon where
  completed := rfl
  flags := (List.append_nil _).symm
  told := (List.append_nil _).symm
  isDirty := rfl
  isBroken := (Bool.or_false _).symm

/-- Some things happened after others. -/
theorem Leads.append {before middle after : Daemon World} {happenings others : List Happening}
    (h : before.Leads happenings middle) (hothers : middle.Leads others after) :
    before.Leads (happenings ++ others) after where
  completed := by
    rw [hothers.completed, h.completed, ticksOf_append, List.length_append, Nat.add_assoc]
  flags := by
    rw [hothers.flags, h.flags, ticksOf_append, List.filterMap_append, List.append_assoc]
  told := by
    rw [hothers.told, h.told, ticksOf_append, List.filterMap_append, List.append_assoc]
  isDirty := by rw [hothers.isDirty, h.isDirty, List.foldl_append]
  isBroken := by
    rw [hothers.isBroken, h.isBroken, ticksOf_append, List.any_append, Bool.or_assoc]

/-- Changes are noted and do nothing else. -/
theorem leads_notice (daemon : Daemon World) (changes : List Change) :
    daemon.Leads (changes.map .changed) (daemon.notice changes) where
  completed := by rw [ticksOf_changes]; rfl
  flags := by rw [ticksOf_changes]; exact (List.append_nil _).symm
  told := by rw [ticksOf_changes]; exact (List.append_nil _).symm
  isDirty := (foldl_notes_changes changes daemon.isDirty).symm
  isBroken := by rw [ticksOf_changes]; exact (Bool.or_false _).symm

/-- A broken daemon makes no call. -/
theorem leads_tick_of_broken {daemon : Daemon World} (h : daemon.isBroken = true) :
    daemon.Leads [.ticked ⟨daemon.isDirty, none⟩] (daemon.tick callback teller) := by
  rw [tick, if_pos h]
  exact ⟨rfl, (List.append_nil _).symm, rfl, rfl, (Bool.or_false _).symm⟩

/-- How a call ended is told. -/
theorem leads_conclude (daemon : Daemon World) (world : World) (ending : CallEnd) :
    daemon.Leads [.ticked ⟨daemon.isDirty, some ending⟩]
      ({ daemon with
          world := world
          isDirty := false
          completed := daemon.completed + 1
          flags := daemon.flags ++ [daemon.isDirty] }.conclude teller ending) := by
  cases ending with
  | done => exact ⟨rfl, rfl, (List.append_nil _).symm, rfl, (Bool.or_false _).symm⟩
  | failed message => exact ⟨rfl, rfl, rfl, rfl, (Bool.or_false _).symm⟩
  | brokeDown report => exact ⟨rfl, rfl, rfl, rfl, (Bool.or_true _).symm⟩

/-- Noting changes before or after a call is concluded comes to the same. -/
theorem conclude_notice (daemon : Daemon World) (changes : List Change) (ending : CallEnd) :
    (daemon.notice changes).conclude teller ending =
      (daemon.conclude teller ending).notice changes := by
  cases ending <;> rfl

/-- A daemon that is not broken makes its call, and notes what changes meanwhile. -/
theorem leads_tick_of_call {daemon : Daemon World} (h : daemon.isBroken = false)
    {ending : CallEnd} {changes : List Change} {world : World}
    (hcall : callback daemon.isDirty daemon.world = (ending, changes, world)) :
    daemon.Leads (.ticked ⟨daemon.isDirty, some ending⟩ :: changes.map .changed)
      (daemon.tick callback teller) := by
  have hnot : ¬daemon.isBroken = true := by simp [h]
  rw [tick, if_neg hnot, hcall]
  dsimp only
  rw [conclude_notice]
  exact (leads_conclude daemon world ending).append (leads_notice _ changes)

/-- What happens in a moment leads to the daemon after it. -/
theorem leads_pass (callback : Callback World) (teller : Teller World) (daemon : Daemon World)
    (moment : Moment) :
    daemon.Leads (daemon.happenings callback moment) (daemon.pass callback teller moment) := by
  cases moment with
  | changes changes => exact leads_notice daemon changes
  | tick =>
    cases hbroken : daemon.isBroken with
    | true =>
      rw [happenings_tick_of_broken hbroken]
      exact leads_tick_of_broken hbroken
    | false =>
      rw [happenings_tick_of_call hbroken]
      exact leads_tick_of_call hbroken rfl

/-! ## The ticks of a course -/

/-- Changes are no tick. -/
theorem changes_ne_append (changes : List Change) (before : List Happening) (tick : Tick)
    (after : List Happening) :
    changes.map Happening.changed ≠ before ++ .ticked tick :: after := by
  intro heq
  have hmem : Happening.ticked tick ∈ changes.map Happening.changed := by
    rw [heq]
    exact List.mem_append_right before List.mem_cons_self
  obtain ⟨change, -, hchange⟩ := List.mem_map.1 hmem
  cases hchange

/-- A tick starts with its call, unless the daemon is broken, and changes come behind it. -/
theorem exists_happenings_tick_eq (daemon : Daemon World) (callback : Callback World) :
    ∃ ending, ∃ changes : List Change, daemon.happenings callback .tick =
        .ticked ⟨daemon.isDirty, ending⟩ :: changes.map .changed ∧
      ending.isSome = !daemon.isBroken := by
  cases hbroken : daemon.isBroken with
  | true => exact ⟨none, [], happenings_tick_of_broken hbroken, rfl⟩
  | false => exact ⟨_, _, happenings_tick_of_call hbroken, rfl⟩

/-- In a moment a tick can only be the first thing to happen; it passes on whether a change was
noted, and makes a call unless the daemon is broken. -/
theorem tick_of_happenings_eq {daemon : Daemon World} {moment : Moment}
    {before after : List Happening} {tick : Tick}
    (h : daemon.happenings callback moment = before ++ .ticked tick :: after) :
    before = [] ∧ tick.rescan = daemon.isDirty ∧ tick.ending.isSome = !daemon.isBroken := by
  cases moment with
  | changes changes => exact absurd h (changes_ne_append changes before tick after)
  | tick =>
    obtain ⟨ending, changes, hstart, hcall⟩ := exists_happenings_tick_eq daemon callback
    rw [hstart] at h
    cases before with
    | nil =>
      cases h
      exact ⟨rfl, rfl, hcall⟩
    | cons first before =>
      exact absurd (List.tail_eq_of_cons_eq h) (changes_ne_append changes before tick after)

/-- What happened before a tick leads to a daemon that starts it: the tick passes on whether that
one notes a change, and makes a call unless that one is broken. -/
theorem exists_leads_of_course_eq {moments : List Moment} {daemon : Daemon World}
    {before after : List Happening} {tick : Tick}
    (h : course callback teller moments daemon = before ++ .ticked tick :: after) :
    ∃ begun, daemon.Leads before begun ∧ tick.rescan = begun.isDirty ∧
      tick.ending.isSome = !begun.isBroken := by
  induction moments generalizing daemon before with
  | nil => exact absurd h.symm (by simp [course])
  | cons moment moments ih =>
    have hpass := leads_pass callback teller daemon moment
    rcases List.append_eq_append_iff.1 h with ⟨behind, rfl, hrest⟩ | ⟨behind, hmoment, hrest⟩
    · obtain ⟨begun, hleads, htick⟩ := ih hrest
      exact ⟨begun, hpass.append hleads, htick⟩
    · cases behind with
      | nil =>
        obtain ⟨begun, hleads, htick⟩ := ih
          (show course callback teller moments (daemon.pass callback teller moment) =
            [] ++ .ticked tick :: after from hrest.symm)
        rw [List.append_nil] at hmoment
        rw [hmoment] at hpass
        exact ⟨begun, by simpa using hpass.append hleads, htick⟩
      | cons first behind =>
        obtain rfl := List.head_eq_of_cons_eq hrest
        obtain ⟨rfl, htick⟩ := tick_of_happenings_eq hmoment
        exact ⟨daemon, Leads.refl daemon, htick⟩

end Daemon

end WallpaperRotation
