/-
# A daemon by the clock

A timer is due at the start and after each interval, until the time at which the daemon is shut
down; here a tick takes no time.  What a daemon does at a tick is a job that ends well, fails, or
breaks down.  The daemon makes all the ticks that are due, whatever becomes of their jobs, and
people are told of each tick that gives no good result.  The results are read off how the jobs end,
in whatever pattern they do.
-/
import WallpaperRotation.Proofs.Watch.Timetable

namespace WallpaperRotation

/-! ## Jobs -/

/-- How a job ended. -/
inductive JobEnd where
  | done
  /-- Something went wrong, the outermost circumstance first. -/
  | failed (chain : List String)
  /-- The job broke down instead of coming to an end, which the runtime may report on. -/
  | brokeDown (report : List String)
  deriving DecidableEq, Repr

/-- The job broke down. -/
def JobEnd.isBreakdown : JobEnd → Bool
  | .brokeDown _ => true
  | _ => false

/-- The end of a job as that of a call, whose message is the whole chain. -/
def JobEnd.callEnd : JobEnd → CallEnd
  | .done => .done
  | .failed chain => .failed (": ".intercalate chain)
  | .brokeDown report => .brokeDown report

/-- What a daemon does at a tick, with whether folders changed and in a world that it changes. -/
abbrev Job (World : Type) := Bool → World → JobEnd × List Change × World

/-- The job as a daemon calls it. -/
def Job.callback {World : Type} (job : Job World) : Callback World := fun rescan world =>
  ((job rescan world).1.callEnd, (job rescan world).2)

/-- A job whose ends follow a pattern; its world is the number of times that it was done. -/
def Job.ofPattern (pattern : Nat → JobEnd) : Job Nat := fun _ done =>
  (pattern done, [], done + 1)

/-! ## Results -/

/-- What is joined at a tick: nothing, or what went wrong. -/
abbrev Joined := Except (List String) Unit

/-- What is joined at the ticks when their jobs end like this.  A job that breaks down leaves the
lock broken, so that every tick after it finds it so and does not begin its job. -/
def joinedResults : List JobEnd → List Joined
  | [] => []
  | .done :: endings => .ok () :: joinedResults endings
  | .failed chain :: endings => .error chain :: joinedResults endings
  | .brokeDown report :: endings =>
    .error ("Rotation task panicked" :: report) ::
      endings.map fun _ => .error ["A previous rotation panicked"]

/-- The error of a tick that gave no good result. -/
def complaint? : Joined → Option String
  | .ok () => none
  | .error chain => some (": ".intercalate chain)

/-- Each tick has its result. -/
theorem length_joinedResults (endings : List JobEnd) :
    (joinedResults endings).length = endings.length := by
  induction endings with
  | nil => rfl
  | cons ending endings ih =>
    cases ending with
    | done => exact congrArg Nat.succ ih
    | failed chain => exact congrArg Nat.succ ih
    | brokeDown report => simp [joinedResults]

/-- What is joined at a tick. -/
def joinedAt (isBroken : Bool) (ending : JobEnd) : Joined :=
  if isBroken then .error ["A previous rotation panicked"]
  else
    match ending with
    | .done => .ok ()
    | .failed chain => .error chain
    | .brokeDown report => .error ("Rotation task panicked" :: report)

/-- What is joined at some ticks when the lock may be broken before them. -/
def joinedFrom (isBroken : Bool) (endings : List JobEnd) : List Joined :=
  if isBroken then endings.map fun _ => .error ["A previous rotation panicked"]
  else joinedResults endings

/-- Without a tick there is no result. -/
theorem joinedFrom_nil (isBroken : Bool) : joinedFrom isBroken [] = [] := by
  cases isBroken <;> rfl

/-- The ticks after one have their results, with the lock as that one left it. -/
theorem joinedFrom_cons (isBroken : Bool) (ending : JobEnd) (endings : List JobEnd) :
    joinedFrom isBroken (ending :: endings) =
      joinedAt isBroken ending :: joinedFrom (isBroken || ending.isBreakdown) endings := by
  cases isBroken with
  | true => rfl
  | false => cases ending <;> rfl

/-! ## The timer -/

section Timer

variable {interval : Nat}

/-- The times before a deadline at which a timer is due, from its next one on. -/
def dueTimes (hpos : 0 < interval) (deadline next : Nat) : List Nat :=
  if next < deadline then next :: dueTimes hpos deadline (next + interval) else []
termination_by deadline - next

/-- One interval less is left after a time that is due. -/
theorem ceil_div_of_lt {deadline next : Nat} (hpos : 0 < interval) (h : next < deadline) :
    (deadline - next + interval - 1) / interval =
      (deadline - (next + interval) + interval - 1) / interval + 1 := by
  -- The last time that is due has less than an interval behind it.
  by_cases hlast : deadline ≤ next + interval
  · have hone : (deadline - next + interval - 1) / interval = 1 :=
      Nat.div_eq_of_lt_le (by omega) (by omega)
    have hzero : (deadline - (next + interval) + interval - 1) / interval = 0 :=
      Nat.div_eq_of_lt (by omega)
    rw [hone, hzero]
  · have hmore : deadline - next + interval - 1 =
        deadline - (next + interval) + interval - 1 + interval := by omega
    rw [hmore, Nat.add_div_right _ hpos]

/-- A timer is due at its next time and after each interval from it, before the deadline. -/
theorem dueTimes_eq_map (hpos : 0 < interval) (deadline next : Nat) :
    dueTimes hpos deadline next =
      (List.range ((deadline - next + interval - 1) / interval)).map (next + · * interval) := by
  fun_induction dueTimes hpos deadline next with
  | case1 next h ih =>
    have hshift : (fun k => next + k * interval) ∘ Nat.succ = (next + interval + · * interval) := by
      funext k
      rw [Function.comp_apply, Nat.succ_mul]
      omega
    rw [ih, ceil_div_of_lt hpos h, List.range_succ_eq_map, List.map_cons, List.map_map, hshift,
      Nat.zero_mul, Nat.add_zero]
  | case2 next h =>
    have hzero : (deadline - next + interval - 1) / interval = 0 :=
      Nat.div_eq_of_lt (by omega)
    rw [hzero]
    rfl

/-- A timer that starts now is due at all multiples of its interval before a deadline that is none
of them. -/
theorem dueTimes_zero (hpos : 0 < interval) {deadline : Nat} (h : ¬interval ∣ deadline) :
    dueTimes hpos deadline 0 = (List.range (deadline / interval + 1)).map (· * interval) := by
  have hrest : 0 < deadline % interval :=
    Nat.pos_of_ne_zero fun hzero => h (Nat.dvd_of_mod_eq_zero hzero)
  have hceil : (deadline - 0 + interval - 1) / interval = deadline / interval + 1 := by
    have hdivmod : deadline - 0 + interval - 1 =
        deadline % interval - 1 + interval * (deadline / interval + 1) := by
      have := Nat.mod_add_div deadline interval
      rw [Nat.mul_succ]
      omega
    have hlt : deadline % interval - 1 < interval := by
      have := Nat.mod_lt deadline hpos
      omega
    rw [hdivmod, Nat.add_mul_div_left _ _ hpos, Nat.div_eq_of_lt hlt, Nat.zero_add]
  rw [dueTimes_eq_map, hceil]
  exact List.map_congr_left fun k _ => Nat.zero_add _

/-- As many times are due before it as it has whole intervals, and one more. -/
theorem length_dueTimes (hpos : 0 < interval) {deadline : Nat} (h : ¬interval ∣ deadline) :
    (dueTimes hpos deadline 0).length = deadline / interval + 1 := by
  rw [dueTimes_zero hpos h, List.length_map, List.length_range]

/-- What goes on until a deadline: a tick at each time that is due, behind the changes that came
since the last one. -/
def momentsUntil (hpos : 0 < interval) (deadline : Nat) (changesBefore : Nat → List Change) :
    List Moment :=
  (dueTimes hpos deadline 0).flatMap fun time => [.changes (changesBefore time), .tick]

end Timer

/-- What a daemon goes on by that is shut down at a deadline and whose calls take no time. -/
def Schedule.instant {World : Type} (timer : Timer) (shutdown : Shutdown)
    (changesBefore : Nat → List Change) : Schedule World where
  timer := timer
  shutdown := shutdown
  lasts := fun _ _ => 0
  arrivals := changesBefore

/-! ## Accounts -/

namespace Daemon

variable {World : Type} {job : Job World} {teller : Teller World}

/-- How the jobs end, or would if the lock were not broken, at the ticks among some moments. -/
def endings (job : Job World) (teller : Teller World) :
    List Moment → Daemon World → List JobEnd
  | [], _ => []
  | .changes changes :: moments, daemon => endings job teller moments (daemon.notice changes)
  | .tick :: moments, daemon =>
    (job daemon.isDirty daemon.world).1 ::
      endings job teller moments (daemon.tick job.callback teller)

/-- The ticks between two daemons are accounted for: each one was counted, people were told of each
error in the order of the ticks, and the lock is broken if it was before or a job broke down. -/
structure Accounts (before : Daemon World) (endings : List JobEnd) (after : Daemon World) :
    Prop where
  completed : after.completed = before.completed + endings.length
  told : after.told = before.told ++ (joinedFrom before.isBroken endings).filterMap complaint?
  isBroken : after.isBroken = (before.isBroken || endings.any JobEnd.isBreakdown)

/-- Without a tick there is nothing to account for. -/
theorem Accounts.refl (daemon : Daemon World) : daemon.Accounts [] daemon where
  completed := rfl
  told := by rw [joinedFrom_nil, List.filterMap_nil, List.append_nil]
  isBroken := (Bool.or_false _).symm

/-- A tick is accounted for, and those after it are. -/
theorem Accounts.cons {before middle after : Daemon World} {ending : JobEnd}
    {endings : List JobEnd} (h : before.Accounts [ending] middle)
    (hrest : middle.Accounts endings after) : before.Accounts (ending :: endings) after where
  completed := by
    rw [hrest.completed, h.completed, List.length_singleton, List.length_cons, Nat.add_assoc,
      Nat.add_comm 1]
  told := by
    -- The rest of the ticks finds the lock as the first one leaves it.
    have hlock : middle.isBroken = (before.isBroken || ending.isBreakdown) := by
      rw [h.isBroken, List.any_cons, List.any_nil, Bool.or_false]
    rw [hrest.told, h.told, hlock, joinedFrom_cons, joinedFrom_cons, joinedFrom_nil,
      List.append_assoc, ← List.filterMap_append, List.singleton_append]
  isBroken := by
    rw [hrest.isBroken, h.isBroken, List.any_cons, List.any_cons, List.any_nil, Bool.or_false,
      Bool.or_assoc]

/-- A tick is told as a failure exactly when its result is an error, and in the words of its
chain. -/
theorem failure?_upcoming (daemon : Daemon World) (job : Job World) :
    (daemon.upcoming job.callback).failure? =
      complaint? (joinedAt daemon.isBroken (job daemon.isDirty daemon.world).1) := by
  unfold upcoming
  dsimp only [Job.callback]
  cases daemon.isBroken with
  | true => rfl
  | false => cases (job daemon.isDirty daemon.world).1 <;> rfl

/-- A tick is accounted for. -/
theorem accounts_tick (job : Job World) (teller : Teller World) (daemon : Daemon World) :
    daemon.Accounts [(job daemon.isDirty daemon.world).1] (daemon.tick job.callback teller) := by
  have hleads := leads_pass job.callback teller daemon .tick
  have hticks := ticksOf_happenings_tick daemon job.callback
  refine ⟨?_, ?_, ?_⟩
  · refine hleads.completed.trans ?_
    rw [hticks]
    rfl
  · refine hleads.told.trans ?_
    rw [hticks, joinedFrom_cons, joinedFrom_nil, List.filterMap_cons, failure?_upcoming,
      List.filterMap_cons]
    rfl
  · rw [isBroken_tick, List.any_cons, List.any_nil, Bool.or_false]
    unfold upcoming
    dsimp only [Job.callback]
    cases daemon.isBroken <;> cases (job daemon.isDirty daemon.world).1 <;> rfl

/-- The ticks among some moments are accounted for. -/
theorem accounts_live (job : Job World) (teller : Teller World) (moments : List Moment)
    (daemon : Daemon World) :
    daemon.Accounts (endings job teller moments daemon)
      (live job.callback teller moments daemon) := by
  induction moments generalizing daemon with
  | nil => exact Accounts.refl daemon
  | cons moment moments ih =>
    cases moment with
    | changes changes =>
      have hrest := ih (daemon.notice changes)
      exact ⟨hrest.completed, hrest.told, hrest.isBroken⟩
    | tick =>
      exact (accounts_tick job teller daemon).cons (ih (daemon.tick job.callback teller))

/-- There is a job for each time that is due. -/
theorem length_endings (job : Job World) (teller : Teller World) (times : List Nat)
    (changesBefore : Nat → List Change) (daemon : Daemon World) :
    (endings job teller
      (times.flatMap fun time => [.changes (changesBefore time), .tick]) daemon).length =
        times.length := by
  induction times generalizing daemon with
  | nil => rfl
  | cons time times ih => exact congrArg Nat.succ (ih _)

/-- Behind a broken lock all jobs come to the same. -/
theorem joinedFrom_true_congr {endings others : List JobEnd}
    (h : endings.length = others.length) : joinedFrom true endings = joinedFrom true others := by
  simp only [joinedFrom, if_true, List.map_const', h]

/-- A job that follows a pattern comes to its next end when it is done. -/
theorem world_tick_ofPattern (pattern : Nat → JobEnd) {daemon : Daemon Nat}
    (h : daemon.isBroken = false) :
    (daemon.tick (Job.ofPattern pattern).callback fun _ done => done).world = daemon.world + 1 := by
  rw [tick, if_neg (by simp [h])]
  dsimp only [Job.callback, Job.ofPattern]
  cases pattern daemon.world <;> rfl

/-- A job that follows a pattern is joined as the pattern says, from its next end on. -/
theorem joinedFrom_endings_ofPattern (pattern : Nat → JobEnd) (times : List Nat)
    (changesBefore : Nat → List Change) (daemon : Daemon Nat) :
    joinedFrom daemon.isBroken (endings (.ofPattern pattern) (fun _ done => done)
        (times.flatMap fun time => [.changes (changesBefore time), .tick]) daemon) =
      joinedFrom daemon.isBroken ((List.range' daemon.world times.length).map pattern) := by
  induction times generalizing daemon with
  | nil => rfl
  | cons time times ih =>
    obtain ⟨next, hnext⟩ : ∃ next, next = (daemon.notice (changesBefore time)).tick
      (Job.ofPattern pattern).callback fun _ done => done := ⟨_, rfl⟩
    have hends : endings (.ofPattern pattern) (fun _ done => done)
        ((time :: times).flatMap fun time => [.changes (changesBefore time), .tick]) daemon =
          pattern daemon.world :: endings (.ofPattern pattern) (fun _ done => done)
            (times.flatMap fun time => [.changes (changesBefore time), .tick]) next := by
      rw [hnext]
      rfl
    have hlock : next.isBroken = (daemon.isBroken || (pattern daemon.world).isBreakdown) := by
      have haccounts := (accounts_tick (.ofPattern pattern) (fun _ done => done)
        (daemon.notice (changesBefore time))).isBroken
      rw [List.any_cons, List.any_nil, Bool.or_false, ← hnext] at haccounts
      exact haccounts
    rw [hends, List.length_cons, List.range'_succ, List.map_cons, joinedFrom_cons,
      joinedFrom_cons, ← hlock]
    cases hbroken : next.isBroken with
    | true =>
      rw [joinedFrom_true_congr]
      rw [length_endings, List.length_map, List.length_range']
    | false =>
      have hwhole : (daemon.notice (changesBefore time)).isBroken = false := by
        rw [hlock, Bool.or_eq_false_iff] at hbroken
        exact hbroken.1
      have hworld : next.world = daemon.world + 1 := by
        rw [hnext, world_tick_ofPattern pattern hwhole]
        rfl
      rw [← hworld, ← hbroken, ih next]

/-- A daemon whose calls take no time makes a tick at each time that is due, where the shutdown is
seen before all that comes with it or later. -/
theorem watchFrom_of_instant (callback : Callback World) (teller : Teller World)
    {schedule : Schedule World} (hlasts : ∀ flag world, schedule.lasts flag world = 0)
    (hseen : ∀ wait time, schedule.timer.period ∣ time →
      (schedule.shutdown.isSeen wait time = true ↔ ¬time < schedule.shutdown.time)) (next : Nat) :
    schedule.timer.period ∣ next → ∀ now, now ≤ next → ∀ daemon : Daemon World,
      watchFrom callback teller schedule now next daemon =
        live callback teller ((dueTimes schedule.timer.pos schedule.shutdown.time next).flatMap
          fun time => [.changes (schedule.arrivals time), .tick]) daemon := by
  have htakes (daemon : Daemon World) : daemon.lasting schedule.lasts = 0 := by
    unfold lasting
    rw [hlasts, ite_self]
  fun_induction dueTimes schedule.timer.pos schedule.shutdown.time next with
  | case1 next h ih =>
    intro hdvd now hnow daemon
    have hopen (wait : Nat) : ¬schedule.shutdown.isSeen wait next = true := by
      rw [hseen wait next hdvd, Classical.not_not]
      exact h
    have hrest := ih (Nat.dvd_add hdvd (Nat.dvd_refl _)) next (Nat.le_add_right next _)
      ((daemon.notice (schedule.arrivals next)).tick callback teller)
    rw [watchFrom]
    dsimp only
    rw [Nat.max_eq_right hnow, dif_neg (hopen _), htakes, Nat.add_zero next,
      if_neg (hopen _), Timer.next_self, hrest]
    rfl
  | case2 next h =>
    intro hdvd now hnow daemon
    rw [watchFrom]
    dsimp only
    rw [Nat.max_eq_right hnow, dif_pos ((hseen _ next hdvd).2 h)]
    rfl

/-- A daemon that is shut down between two ticks, and whose calls take no time, makes a tick at each
time that is due. -/
theorem watch_instant (callback : Callback World) (teller : Teller World)
    {interval deadline : Nat} (hpos : 0 < interval) (hdeadline : ¬interval ∣ deadline)
    (grace : Nat) (isFirst : Nat → Bool) (changesBefore : Nat → List Change) (world : World) :
    watch callback teller
        (.instant ⟨interval, hpos, grace⟩ ⟨deadline, isFirst⟩ changesBefore) world =
      live callback teller (momentsUntil hpos deadline changesBefore) (start world) := by
  refine watchFrom_of_instant callback teller (fun _ _ => rfl) (fun wait time hdvd => ?_) 0
    (Nat.dvd_zero interval) 0 (Nat.le_refl 0) (start world)
  have hne : deadline ≠ time := fun heq => hdeadline (heq ▸ hdvd)
  rw [Shutdown.isSeen_iff hne, Nat.not_lt]
  exact ⟨Nat.le_of_lt, fun hle => Nat.lt_of_le_of_ne hle hne⟩

/-- A daemon passes from tick to tick when the folders do not change. -/
theorem live_unchanged (callback : Callback World) (teller : Teller World) (times : List Nat)
    (daemon : Daemon World) :
    live callback teller (times.flatMap fun _ => [.changes [], .tick]) daemon =
      run callback teller (fun _ => false) times.length daemon := by
  induction times generalizing daemon with
  | nil => rfl
  | cons time times ih =>
    have hnotice : daemon.notice [] = daemon := by
      rw [notice, List.any_nil, Bool.or_false]
    calc live callback teller ((time :: times).flatMap fun _ => [.changes [], .tick]) daemon
        = live callback teller (times.flatMap fun _ => [.changes [], .tick])
            ((daemon.notice []).tick callback teller) := rfl
      _ = run callback teller (fun _ => false) times.length (daemon.tick callback teller) := by
          rw [hnotice, ih]

/-- A daemon whose calls take no time, and whose shutdown is seen first, makes as many ticks as are
due before the shutdown. -/
theorem run_ticksBefore (callback : Callback World) (teller : Teller World) (interval : Interval)
    (time : Nat) (world : World) :
    run callback teller (fun _ => false) (interval.ticksBefore time) (start world) =
      watch callback teller
        (.instant interval.timer ⟨time, fun _ => true⟩ fun _ => []) world := by
  have hseen (wait due : Nat) : (⟨time, fun _ => true⟩ : Shutdown).isSeen wait due = true ↔
      ¬due < time := by
    simp only [Shutdown.isSeen, Bool.and_true, Bool.or_eq_true, decide_eq_true_eq]
    omega
  have hlive : watch callback teller (.instant interval.timer ⟨time, fun _ => true⟩ fun _ => [])
      world = live callback teller (momentsUntil interval.timer.pos time fun _ => [])
        (start world) :=
    watchFrom_of_instant callback teller (fun _ _ => rfl) (fun wait due _ => hseen wait due) 0
      (Nat.dvd_zero _) 0 (Nat.le_refl 0) (start world)
  rw [hlive, momentsUntil, live_unchanged, dueTimes_eq_map, List.length_map, List.length_range,
    Nat.sub_zero]
  rfl

/-- Every pattern is met.  The ticks of a job that follows a pattern have the results that the
pattern tells for as many ticks as are due. -/
theorem joinedResults_ofPattern (pattern : Nat → JobEnd) (changesBefore : Nat → List Change)
    {interval deadline : Nat} (hpos : 0 < interval) (hdeadline : ¬interval ∣ deadline) :
    joinedResults (endings (.ofPattern pattern) (fun _ done => done)
        (momentsUntil hpos deadline changesBefore) (start 0)) =
      joinedResults ((List.range (deadline / interval + 1)).map pattern) := by
  have hjoined := joinedFrom_endings_ofPattern pattern (dueTimes hpos deadline 0) changesBefore
    (start 0)
  rw [length_dueTimes hpos hdeadline] at hjoined
  rw [List.range_eq_range']
  exact hjoined

/-- The accounts of a daemon that is shut down between two ticks and whose jobs take no time.  Its
timer is due at the start and at each multiple of its interval before it is shut down.  Jobs end in
any way at these times.  The daemon lives from tick to tick.  All the ticks are completed, and
people are told, in the order of the ticks, of each one whose result is an error, in the words of
its whole chain, and of no other.  That is what becomes of the daemon until its shutdown, and, where
the folders do not change, of one that is run for as many ticks. -/
theorem accounts_until (job : Job World) (teller : Teller World)
    (changesBefore : Nat → List Change) (world : World) {interval deadline : Nat}
    (hpos : 0 < interval) (hdeadline : ¬interval ∣ deadline) :
    dueTimes hpos deadline 0 = (List.range (deadline / interval + 1)).map (· * interval) ∧
      (joinedResults (endings job teller (momentsUntil hpos deadline changesBefore)
        (start world))).length = deadline / interval + 1 ∧
      (live job.callback teller (momentsUntil hpos deadline changesBefore)
        (start world)).completed = deadline / interval + 1 ∧
      (live job.callback teller (momentsUntil hpos deadline changesBefore) (start world)).told =
        (joinedResults (endings job teller (momentsUntil hpos deadline changesBefore)
          (start world))).filterMap complaint? ∧
      (∀ grace isFirst, watch job.callback teller
          (.instant ⟨interval, hpos, grace⟩ ⟨deadline, isFirst⟩ changesBefore) world =
        live job.callback teller (momentsUntil hpos deadline changesBefore) (start world)) ∧
      run job.callback teller (fun _ => false) (deadline / interval + 1) (start world) =
        live job.callback teller (momentsUntil hpos deadline fun _ => []) (start world) := by
  have hlength : (endings job teller (momentsUntil hpos deadline changesBefore)
      (start world)).length = deadline / interval + 1 := by
    rw [momentsUntil, length_endings, length_dueTimes hpos hdeadline]
  have haccounts := accounts_live job teller (momentsUntil hpos deadline changesBefore)
    (start world)
  refine ⟨dueTimes_zero hpos hdeadline, (length_joinedResults _).trans hlength, ?_,
    haccounts.told, fun grace isFirst => ?_, ?_⟩
  · rw [haccounts.completed, hlength]
    exact Nat.zero_add _
  · exact watch_instant job.callback teller hpos hdeadline grace isFirst changesBefore world
  · rw [momentsUntil, live_unchanged, length_dueTimes hpos hdeadline]

/-- A job that fails at first and breaks down the second time. -/
def failsThenBreaksDown : Job Nat :=
  .ofPattern fun
    | 0 => .failed ["Failed to set home wallpaper", "boom 0"]
    | 1 => .brokeDown ["task 3 panicked"]
    | _ => .done

/-- Three ticks are due in 150 seconds, and each of them is told: the first one in the words of its
chain, the second one as broken down, and the third one for the broken lock. -/
theorem accounts_until_breakdown :
    let told := ["Failed to set home wallpaper: boom 0", "Rotation task panicked: task 3 panicked",
      "A previous rotation panicked"]
    ¬60 ∣ 150 ∧
      (live failsThenBreaksDown.callback (fun _ times => times)
        (momentsUntil (by decide : 0 < 60) 150 fun _ => []) (start 0)).completed = 3 ∧
      (live failsThenBreaksDown.callback (fun _ times => times)
        (momentsUntil (by decide : 0 < 60) 150 fun _ => []) (start 0)).told = told ∧
      ∀ grace isFirst, (watch failsThenBreaksDown.callback (fun _ times => times)
        (.instant ⟨60, by decide, grace⟩ ⟨150, isFirst⟩ fun _ => []) 0).told = told := by
  obtain ⟨hdue, -, hcompleted, htold, hwatch, -⟩ := accounts_until failsThenBreaksDown
    (fun _ times => times) (fun _ => []) 0 (by decide : 0 < 60) (by decide : ¬60 ∣ 150)
  have hall : (live failsThenBreaksDown.callback (fun _ times => times)
      (momentsUntil (by decide : 0 < 60) 150 fun _ => []) (start 0)).told =
        ["Failed to set home wallpaper: boom 0", "Rotation task panicked: task 3 panicked",
          "A previous rotation panicked"] := by
    refine htold.trans ?_
    rw [momentsUntil, hdue]
    rfl
  refine ⟨by decide, hcompleted, hall, fun grace isFirst => ?_⟩
  rw [hwatch grace isFirst, hall]

end Daemon

end WallpaperRotation
