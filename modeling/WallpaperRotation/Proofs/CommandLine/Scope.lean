/-
# Changing a scope

A target is restricted anew in two documents: the configuration has the new scope, and the state has
to begin a new cycle.  The configuration is saved before the state is so much as looked at.  So the
change is made as a whole or not at all just when it is refused at once, or the state can be loaded
and saved, or the target had that scope before.
-/
import WallpaperRotation.Proofs.CommandLine.Damaged
import WallpaperRotation.Proofs.Config.Document
import WallpaperRotation.Proofs.Disk.Alike
import WallpaperRotation.Proofs.Rotation.Reachable

namespace WallpaperRotation.CommandLine

/-! ## The steps -/

/-- A scope is refused before anything is changed: that of a tag where the library cannot be loaded,
and that of a folder which is none of the library's. -/
def Desk.Refuses (desk : Desk) (disk : Disk) (setting : ScopeSetting) : Prop :=
  match setting.tag, setting.folder with
  | some _, _ => ∃ failure, Library.load disk desk.files.library = .error failure
  | none, some folder =>
    desk.plan.folders.any (FilePath.expandTilde desk.plan.home folder).same = false
  | none, none => False

variable {desk : Desk} {disk : Disk} {setting : ScopeSetting} {words : Words}

/-- A scope is checked without a change, and the check fails where the scope is refused. -/
theorem alone_checkScope (desk : Desk) (setting : ScopeSetting) (words : Words) (disk : Disk) :
    (∃ failure, (Steps.checkScope desk setting).alone desk.paths words disk =
        (.error failure, words, disk) ∧ desk.Refuses disk setting) ∨
      (Steps.checkScope desk setting).alone desk.paths words disk = (.ok (), words, disk) ∧
        ¬desk.Refuses disk setting := by
  unfold Steps.checkScope Desk.Refuses
  cases setting.tag with
  | some tag =>
    rw [Process.alone_bind, desk.alone_loadLibrary]
    cases Library.load disk desk.files.library with
    | error failure => exact Or.inl ⟨failure, rfl, failure, rfl⟩
    | ok library => exact Or.inr ⟨rfl, by simp⟩
  | none =>
    cases setting.folder with
    | none => exact Or.inr ⟨rfl, id⟩
    | some folder =>
      dsimp only
      cases hknown : desk.plan.folders.any (FilePath.expandTilde desk.plan.home folder).same with
      | false => exact Or.inl ⟨_, rfl, rfl⟩
      | true => exact Or.inr ⟨rfl, by simp⟩

/-- Nothing is changed where the scope is refused. -/
theorem alone_setScope_of_refuses (hrefused : desk.Refuses disk setting) (target : Target)
    (words : Words) : ∃ failure,
      (Steps.setScope desk target setting).alone desk.paths words disk =
        (.error failure, words, disk) := by
  rcases alone_checkScope desk setting words disk with ⟨failure, hcheck, -⟩ | ⟨-, hallowed⟩
  · refine ⟨failure, ?_⟩
    unfold Steps.setScope
    rw [Process.alone_bind, hcheck]
  · exact absurd hrefused hallowed

/-- The configuration is saved, and then the state is loaded and saved. -/
theorem alone_setScope {target : Target} (hallowed : ¬desk.Refuses disk setting) {changed : Disk}
    (hsaved : disk.saveText .config desk.configPath
      (desk.plan.config.setScope target setting).text = (.ok (), changed)) (words : Words) :
    (Steps.setScope desk target setting).alone desk.paths words disk =
      match RotationState.load changed desk.files.state with
      | .error failure => (.error failure, words, changed)
      | .ok state =>
        let (reply, last) := changed.saveText .rotationState desk.files.state
          (state.updateTarget target TargetState.reset).text
        (reply, words, last) := by
  rcases alone_checkScope desk setting words disk with ⟨failure, -, hrefused⟩ | ⟨hcheck, -⟩
  · exact absurd hrefused hallowed
  · unfold Steps.setScope
    rw [Process.alone_bind, hcheck]
    dsimp only
    rw [Process.alone_bind, Process.store, Process.alone_save, Process.alone_ended]
    dsimp only [Desk.paths]
    rw [hsaved]
    dsimp only
    rw [Process.alone_bind, desk.alone_loadState]
    cases RotationState.load changed desk.files.state with
    | error failure => rfl
    | ok state => rfl

/-! ## Both documents -/

/-- The scope of a target in the configuration on a disk. -/
def scopeOn (home path : FilePath) (target : Target) (disk : Disk) : Except Failure ScopeSetting :=
  (Config.load disk home path).1.map fun config => config.scopeOf target

/-- The scope on a disk is the same where the configuration is, if there is one. -/
theorem scopeOn_congr {other : Disk} {path : FilePath} (hthere : disk.holds path = true)
    (hentry : other.entry true path = disk.entry true path) (home : FilePath) (target : Target) :
    scopeOn home path target other = scopeOn home path target disk := by
  have hstored := Disk.documentText?_congr hentry .config
  unfold scopeOn Config.load
  rw [hstored]
  cases hfound : disk.documentText? .config path with
  | error failure => rfl
  | ok text? =>
    cases text? with
    | none =>
      unfold Disk.documentText? at hfound
      rw [if_pos hthere] at hfound
      split at hfound <;> cases hfound
    | some text =>
      have hsame := Config.scopeOf_ofText? (UserFolders.wallpapers other home)
        (UserFolders.wallpapers disk home) text target
      dsimp only
      cases hother : Config.ofText? (UserFolders.wallpapers other home) text <;>
        cases hdisk : Config.ofText? (UserFolders.wallpapers disk home) text <;>
        simp_all [Except.map]

/-- A target is restricted anew and begins a new cycle, and nothing else is different in the two
documents on a later disk. -/
structure IsRestricted (home : FilePath) (paths : Document → FilePath) (target : Target)
    (setting : ScopeSetting) (before after : Disk) : Prop where
  config : ∃ config, (Config.load before home (paths .config)).1 = .ok config ∧
    (Config.load after home (paths .config)).1 = .ok (config.setScope target setting)
  state : ∃ state, RotationState.load before (paths .rotationState) = .ok state ∧
    RotationState.load after (paths .rotationState) =
      .ok (state.updateTarget target TargetState.reset)

/-- A change of a scope that ended as a whole one or as none: it succeeded and the target is
restricted anew, or it failed and the target has the scope that it had. -/
def IsWhole (home : FilePath) (paths : Document → FilePath) (target : Target)
    (setting : ScopeSetting) (before after : Disk) : Option Failure → Prop
  | none => IsRestricted home paths target setting before after
  | some _ => scopeOn home (paths .config) target after = scopeOn home (paths .config) target before

section Outcomes

variable {target : Target} {place : Place} {bytes : ByteArray} {modified : Int}

/-- What can come of restricting a target: it is refused, and nothing is changed; both documents are
changed; or the configuration is changed, and the state cannot be loaded and saved. -/
inductive Desk.ScopeChange (desk : Desk) (target : Target) (setting : ScopeSetting) (disk : Disk) :
    Except Failure Unit → Disk → Prop where
  | refused (failure : Failure) (h : desk.Refuses disk setting) :
    ScopeChange desk target setting disk (.error failure) disk
  | both {after : Disk} {state : RotationState}
    (hconfig : after.Keeps desk.configPath (desk.plan.config.setScope target setting).text)
    (hstate : RotationState.load disk desk.files.state = .ok state)
    (htakes : disk.Takes desk.files.state)
    (hafter : RotationState.load after desk.files.state =
      .ok (state.updateTarget target TargetState.reset)) :
    ScopeChange desk target setting disk (.ok ()) after
  | half (failure : Failure) {after : Disk} (hallowed : ¬desk.Refuses disk setting)
    (hconfig : after.Keeps desk.configPath (desk.plan.config.setScope target setting).text)
    (hstate : ∀ state, RotationState.load disk desk.files.state = .ok state →
      ¬disk.Takes desk.files.state) :
    ScopeChange desk target setting disk (.error failure) after

/-- If the two documents are apart in the end, they were so when the first one was saved: as one file
they would have stayed one. -/
theorem areApart_of_alone (hallowed : ¬desk.Refuses disk setting) {changed : Disk}
    (hsaved : disk.saveText .config desk.configPath
      (desk.plan.config.setScope target setting).text = (.ok (), changed))
    {result : Except Failure Unit} {later : Words} {after : Disk}
    (h : (Steps.setScope desk target setting).alone desk.paths words disk = (result, later, after))
    (hapart : after.areApart desk.configPath desk.files.state = true) :
    changed.areApart desk.configPath desk.files.state = true := by
  refine Bool.of_not_eq_false fun hone => ?_
  rw [alone_setScope hallowed hsaved] at h
  obtain ⟨place', node, hpath, hstate⟩ := Disk.exists_entry_of_not_areApart hone
  obtain ⟨_, _, hfile⟩ := Disk.keeps_saveText hsaved
  obtain ⟨rfl, rfl⟩ : _ ∧ _ := Prod.mk.inj (Except.ok.inj (hpath.symm.trans hfile))
  cases hload : RotationState.load changed desk.files.state with
  | error failure =>
    rw [hload] at h
    cases h
    exact absurd (hone.symm.trans hapart) (by decide)
  | ok state =>
    obtain ⟨last, hlast, halike, -⟩ := Disk.exists_saveText_of_file hstate .rotationState
      (state.updateTarget target TargetState.reset).text
    rw [hload] at h
    simp only [hlast] at h
    cases h
    rw [halike.areApart, hone] at hapart
    cases hapart

/-- What comes of the state is as if the configuration had not been saved before. -/
theorem scopeChange_alone
    (hconfig : disk.entry true desk.configPath = .ok (place, .file bytes modified))
    {result : Except Failure Unit} {later : Words} {after : Disk}
    (h : (Steps.setScope desk target setting).alone desk.paths words disk = (result, later, after))
    (hapart : after.areApart desk.configPath desk.files.state = true) :
    desk.ScopeChange target setting disk result after := by
  by_cases hallowed : desk.Refuses disk setting
  · obtain ⟨failure, halone⟩ := alone_setScope_of_refuses hallowed target words
    rw [halone] at h
    cases h
    exact .refused failure hallowed
  · obtain ⟨changed, hsaved, halike, hothers⟩ := Disk.exists_saveText_of_file hconfig .config
      (desk.plan.config.setScope target setting).text
    have hkeeps := Disk.keeps_saveText hsaved
    have hbefore := areApart_of_alone hallowed hsaved h hapart
    rw [halike.areApart] at hbefore
    have hload : RotationState.load changed desk.files.state =
        RotationState.load disk desk.files.state := by
      rw [RotationState.load_eq_ofStored, RotationState.load_eq_ofStored,
        Disk.documentText?_congr (hothers _ hbefore)]
    rw [alone_setScope hallowed hsaved, hload] at h
    cases hstate : RotationState.load disk desk.files.state with
    | error failure =>
      rw [hstate] at h
      cases h
      refine .half failure hallowed hkeeps fun state hother => ?_
      rw [hstate] at hother
      cases hother
    | ok state =>
      simp only [hstate] at h
      cases hlast : changed.saveText .rotationState desk.files.state
          (state.updateTarget target TargetState.reset).text with
      | mk reply last =>
        rw [hlast] at h
        cases h
        have hkept : last.Keeps desk.configPath
            (desk.plan.config.setScope target setting).text := by
          obtain ⟨place', modified', hentry⟩ := hkeeps
          have hsaves : last = (changed.saveText .rotationState desk.files.state
            (state.updateTarget target TargetState.reset).text).2 := by rw [hlast]
          rw [hsaves] at hapart ⊢
          exact ⟨place', modified', Disk.entry_saveText hentry hapart⟩
        cases reply with
        | error failure =>
          refine .half failure hallowed hkept fun _ _ htakes => ?_
          obtain ⟨saved, hsaves⟩ := ((halike.takes_iff _).2 htakes).exists_saveText .rotationState
            (state.updateTarget target TargetState.reset).text
          rw [hlast] at hsaves
          cases hsaves
        | ok =>
          have hdated := ((RotationState.Reachable.loaded hstate).reset target).dated
          exact .both hkept hstate ((halike.takes_iff _).1 (Disk.takes_of_saveText hlast))
            (RotationState.load_of_keeps hdated (Disk.keeps_saveText hlast))

end Outcomes

/-! ## Whole runs -/

variable {setup : Setup} {request : Request} {target : Target} {console : Console}

/-- The request is to restrict a target, or to let it have every wallpaper. -/
def Request.Restricts (request : Request) (target : Target) (setting : ScopeSetting) : Prop :=
  request.task = .setScope target setting ∨
    request.task = .clearScope target ∧ setting = ScopeSetting.unset

/-- The request goes through the steps of its task, and ends. -/
theorem Request.Restricts.run_perform (h : request.Restricts target setting) {config : Config}
    (hload : Config.load console.disk setup.home (request.paths setup .config) =
      (.ok config, console.disk)) :
    ∃ printed, (request.perform setup).run.run console =
      let (result, words, disk) := (Steps.setScope (request.desk setup config) target setting).alone
        (request.desk setup config).paths console.words console.disk
      (result.map fun _ => none,
        { console with words := words, disk := disk, printed := printed }) := by
  obtain ⟨printed, hrun⟩ := request.run_perform hload
  refine ⟨printed, hrun.trans ?_⟩
  have htask : Steps.ofTask (request.desk setup config) request.task =
      (Steps.setScope (request.desk setup config) target setting >>= fun _ => pure none) := by
    rcases h with htask | ⟨htask, rfl⟩ <;> rw [htask] <;> rfl
  rw [htask, Process.alone_bind, request.paths_desk]
  obtain ⟨result, words, disk⟩ := (Steps.setScope (request.desk setup config) target
    setting).alone (request.paths setup) console.words console.disk
  cases result <;> rfl

/-- A request of which something comes ends as restricting the target does. -/
theorem Request.Restricts.scopeChange (h : request.Restricts target setting) {config : Config}
    (hthere : console.disk.holds (request.paths setup .config) = true)
    (hload : Config.load console.disk setup.home (request.paths setup .config) =
      (.ok config, console.disk))
    (hapart : ((request.perform setup).run.run console).2.disk.areApart
      (request.paths setup .config) (request.paths setup .rotationState) = true) :
    ∃ result words disk printed, (request.perform setup).run.run console =
        (result.map fun _ => none,
          { console with words := words, disk := disk, printed := printed }) ∧
      (request.desk setup config).ScopeChange target setting console.disk result disk := by
  obtain ⟨printed, hrun⟩ := h.run_perform hload
  obtain ⟨place, bytes, modified, hfile⟩ := Config.exists_file_of_load hthere hload
  cases halone : (Steps.setScope (request.desk setup config) target setting).alone
      (request.desk setup config).paths console.words console.disk with
  | mk result rest =>
    obtain ⟨words, disk⟩ := rest
    rw [halone] at hrun
    rw [hrun, ← request.configPath_desk setup config, ← request.state_desk setup config] at hapart
    rw [← request.configPath_desk setup config] at hfile
    exact ⟨result, words, disk, printed, hrun, scopeChange_alone hfile halone hapart⟩

/-- Telling of a failure leaves a configuration that is there. -/
theorem entry_complain (hthere : console.disk.holds (request.paths setup .config) = true)
    (htold : IsToldBeside (request.telling setup console.disk).1
      (request.telling setup console.disk).2 (request.paths setup .config)) (failure : Failure) :
    (request.complain setup failure console).disk.entry true (request.paths setup .config) =
      console.disk.entry true (request.paths setup .config) := by
  refine (htold failure.message).trans ?_
  have hsame : (request.telling setup console.disk).2 = console.disk :=
    Config.load_snd_of_holds hthere setup.home
  rw [hsame]

/-- The run ends, and changes the scope of a target as a whole or not at all. -/
def EndsWhole (setup : Setup) (request : Request) (target : Target) (setting : ScopeSetting)
    (arguments : List String) (console : Console) : Prop :=
  ∃ ending, run setup arguments console = .ended ending ∧
    IsWhole setup.home (request.paths setup) target setting console.disk ending.console.disk
      ending.failure

section Ended

variable {arguments : List String} {after : Console}

/-- Where the request was carried out, the target has to be restricted. -/
theorem endsWhole_iff_of_ok (harguments : Request.ofArguments arguments = .ok request)
    (hrun : (request.perform setup).run.run console = (.ok none, after)) :
    EndsWhole setup request target setting arguments console ↔
      IsRestricted setup.home (request.paths setup) target setting console.disk after.disk := by
  unfold EndsWhole run
  rw [harguments]
  dsimp only
  rw [hrun]
  exact ⟨fun ⟨ending, hending, hwhole⟩ => by cases hending; exact hwhole,
    fun hrestricted => ⟨_, rfl, hrestricted⟩⟩

/-- Where the request failed, the target has to have the scope that it had. -/
theorem endsWhole_iff_of_error (harguments : Request.ofArguments arguments = .ok request)
    {failure : Failure} (hrun : (request.perform setup).run.run console = (.error failure, after))
    (hthere : after.disk.holds (request.paths setup .config) = true)
    (htold : IsToldBeside (request.telling setup after.disk).1 (request.telling setup after.disk).2
      (request.paths setup .config)) :
    EndsWhole setup request target setting arguments console ↔
      scopeOn setup.home (request.paths setup .config) target after.disk =
        scopeOn setup.home (request.paths setup .config) target console.disk := by
  have hscope := scopeOn_congr hthere (entry_complain hthere htold failure) setup.home target
  unfold EndsWhole run
  rw [harguments]
  dsimp only
  rw [hrun]
  constructor
  · rintro ⟨ending, hending, hwhole⟩
    cases hending
    exact hscope.symm.trans hwhole
  · exact fun hsame => ⟨_, rfl, hscope.trans hsame⟩

end Ended

section Loaded

variable {arguments : List String} {config : Config}

/-- A configuration that was loaded and is there tells the scope. -/
theorem scopeOn_of_load {home path : FilePath} {loaded : Disk}
    (h : Config.load disk home path = (.ok config, loaded)) (target : Target) :
    scopeOn home path target disk = .ok (config.scopeOf target) := by
  unfold scopeOn
  rw [h]
  rfl

/-- Where the configuration is loaded, the scope is changed as a whole or not at all just when the
change is refused at once, or the state can be loaded and saved, or the target had the scope. -/
theorem endsWhole_iff_of_load (harguments : Request.ofArguments arguments = .ok request)
    (htask : request.Restricts target setting)
    (hthere : console.disk.holds (request.paths setup .config) = true)
    (hload : Config.load console.disk setup.home (request.paths setup .config) =
      (.ok config, console.disk))
    (hapart : ((request.perform setup).run.run console).2.disk.areApart
      (request.paths setup .config) (request.paths setup .rotationState) = true)
    (htold : IsToldBeside
      (request.telling setup ((request.perform setup).run.run console).2.disk).1
      (request.telling setup ((request.perform setup).run.run console).2.disk).2
      (request.paths setup .config)) :
    EndsWhole setup request target setting arguments console ↔
      (request.desk setup config).Refuses console.disk setting ∨
        (∃ state,
          RotationState.load console.disk (request.paths setup .rotationState) = .ok state ∧
          console.disk.Takes (request.paths setup .rotationState)) ∨
        config.scopeOf target = setting := by
  obtain ⟨result, words, disk, printed, hrun, hchange⟩ := htask.scopeChange hthere hload hapart
  rw [hrun] at htold
  cases hchange with
  | refused failure hrefused =>
    rw [endsWhole_iff_of_error harguments hrun hthere htold]
    exact iff_of_true rfl (Or.inl hrefused)
  | both hconfig hstate htakes hafter =>
    rw [endsWhole_iff_of_ok harguments hrun]
    refine iff_of_true ⟨⟨config, ?_, ?_⟩, _, hstate, hafter⟩ (Or.inr (Or.inl ⟨_, hstate, htakes⟩))
    · rw [hload]
    · exact congrArg Prod.fst (Config.load_of_keeps hconfig setup.home)
  | half failure hallowed hconfig hstate =>
    have hchanged : Config.load disk setup.home (request.paths setup .config) =
      (.ok (config.setScope target setting), disk) := Config.load_of_keeps hconfig setup.home
    obtain ⟨place, modified, hentry⟩ := hconfig
    rw [endsWhole_iff_of_error harguments hrun (Disk.holds_iff.2 ⟨place, _, hentry⟩) htold,
      scopeOn_of_load hchanged, scopeOn_of_load hload, Config.scopeOf_setScope_self]
    constructor
    · intro hsame
      exact Or.inr (Or.inr (Except.ok.inj hsame).symm)
    · rintro (hrefused | ⟨state, hloaded, htakes⟩ | hsame)
      · exact absurd hrefused hallowed
      · exact absurd htakes (hstate state hloaded)
      · rw [hsame]

/-- Nothing happens when it is told that the change failed, where no command is configured. -/
theorem Request.Restricts.isToldBeside (htask : request.Restricts target setting)
    (hthere : console.disk.holds (request.paths setup .config) = true)
    (hload : Config.load console.disk setup.home (request.paths setup .config) =
      (.ok config, console.disk))
    (hapart : ((request.perform setup).run.run console).2.disk.areApart
      (request.paths setup .config) (request.paths setup .rotationState) = true)
    (hcommand : config.notifications.command = []) (path : FilePath) :
    IsToldBeside (request.telling setup ((request.perform setup).run.run console).2.disk).1
      (request.telling setup ((request.perform setup).run.run console).2.disk).2 path := by
  refine isToldBeside_of_no_command ?_ _ path
  obtain ⟨result, words, disk, printed, hrun, hchange⟩ := htask.scopeChange hthere hload hapart
  rw [hrun]
  unfold Request.telling
  dsimp only
  have hchanged (h : disk.Keeps (request.paths setup .config)
      (config.setScope target setting).text) :
      Config.load disk setup.home (request.paths setup .config) =
        (.ok (config.setScope target setting), disk) := Config.load_of_keeps h setup.home
  cases hchange with
  | refused failure hrefused =>
    rw [hload]
    exact hcommand
  | both hconfig hstate htakes hafter =>
    rw [hchanged hconfig]
    cases target <;> exact hcommand
  | half failure hallowed hconfig hstate =>
    rw [hchanged hconfig]
    cases target <;> exact hcommand

end Loaded

/-- The scope of a target is changed as a whole or not at all just when the change is refused at
once, or the state can be loaded and saved, or the target had the scope already; or when there is
nothing to change, since the configuration is none. -/
theorem endsWhole_iff {arguments : List String}
    (harguments : Request.ofArguments arguments = .ok request)
    (htask : request.Restricts target setting)
    (hthere : console.disk.holds (request.paths setup .config) = true)
    (hapart : ((request.perform setup).run.run console).2.disk.areApart
      (request.paths setup .config) (request.paths setup .rotationState) = true)
    (htold : IsToldBeside
      (request.telling setup ((request.perform setup).run.run console).2.disk).1
      (request.telling setup ((request.perform setup).run.run console).2.disk).2
      (request.paths setup .config)) :
    EndsWhole setup request target setting arguments console ↔
      ∀ config, Config.load console.disk setup.home (request.paths setup .config) =
          (.ok config, console.disk) →
        (request.desk setup config).Refuses console.disk setting ∨
          (∃ state,
            RotationState.load console.disk (request.paths setup .rotationState) = .ok state ∧
            console.disk.Takes (request.paths setup .rotationState)) ∨
          config.scopeOf target = setting := by
  have hsnd := Config.load_snd_of_holds hthere setup.home
  cases hload : Config.load console.disk setup.home (request.paths setup .config) with
  | mk result loaded =>
    obtain rfl : loaded = console.disk := by rw [← hsnd, hload]
    cases result with
    | error failure =>
      have hrun := request.run_perform_of_error hload
      rw [hrun] at htold
      rw [endsWhole_iff_of_error harguments hrun hthere htold]
      exact iff_of_true rfl fun config hconfig => by cases hconfig
    | ok config =>
      rw [endsWhole_iff_of_load harguments htask hthere hload hapart htold]
      exact ⟨fun h other hother => by cases hother; exact h, fun h => h config rfl⟩

/-- A disk where the wallpapers of one tag are for home, with a state. -/
def scopedDisk (state : String) : Disk :=
  ⟨[(["config.toml"], .file "[home]\ntag = \"day\"\n".toUTF8 0), (["data"], .folder true),
    (["data", "state.json"], .file state.toUTF8 0)], [], 0⟩

/-- A console with such a disk. -/
def scopedConsole (state : String) : Console :=
  ⟨scopedDisk state, Words.replay [], [], []⟩

/-- The arguments that let home have every wallpaper. -/
def clearArguments : List String :=
  ["--config", "config.toml", "--data-dir", "data", "scope", "clear", "--target", "home"]

/-- The request that they are. -/
def clearRequest : Request :=
  ⟨some ⟨"config.toml"⟩, some ⟨"data"⟩, .clearScope .home⟩

/-- The configuration on such a disk. -/
def scopedConfig : Config :=
  { Config.initial (UserFolders.wallpapers (scopedDisk "") sampleSetup.home) with
    home := ⟨some "day", none⟩ }

/-- That configuration is loaded. -/
theorem load_scopedDisk {state : String}
    (hthere : (scopedDisk state).holds (clearRequest.paths sampleSetup .config) = true)
    (h : (Config.load (scopedDisk state) sampleSetup.home
      (clearRequest.paths sampleSetup .config)).1.toOption = some scopedConfig) :
    Config.load (scopedDisk state) sampleSetup.home (clearRequest.paths sampleSetup .config) =
      (.ok scopedConfig, scopedDisk state) := by
  have hsnd := Config.load_snd_of_holds hthere sampleSetup.home
  cases hload : Config.load (scopedDisk state) sampleSetup.home
      (clearRequest.paths sampleSetup .config) with
  | mk result loaded =>
    rw [hload] at h hsnd
    cases result with
    | error failure => cases h
    | ok config => exact Prod.ext (congrArg Except.ok (Option.some.inj h)) hsnd

/-- The scope is changed as a whole where the state is one. -/
theorem endsWhole_clear :
    EndsWhole sampleSetup clearRequest .home ScopeSetting.unset clearArguments
      (scopedConsole "\x7b\x7d") := by
  have htask : clearRequest.Restricts .home ScopeSetting.unset := Or.inr ⟨rfl, rfl⟩
  have hthere : (scopedConsole "\x7b\x7d").disk.holds (clearRequest.paths sampleSetup .config) =
      true := by decide +kernel
  have hload := load_scopedDisk hthere (by decide +kernel)
  have hapart : ((clearRequest.perform sampleSetup).run.run
      (scopedConsole "\x7b\x7d")).2.disk.areApart (clearRequest.paths sampleSetup .config)
      (clearRequest.paths sampleSetup .rotationState) = true := by decide +kernel
  have hstate : (RotationState.load (scopedDisk "\x7b\x7d")
      (clearRequest.paths sampleSetup .rotationState)).isOk = true := by decide +kernel
  have htakes : (scopedDisk "\x7b\x7d").Takes (clearRequest.paths sampleSetup .rotationState) := by
    unfold Disk.Takes
    decide +kernel
  refine (endsWhole_iff (by decide +kernel) htask hthere hapart
    (htask.isToldBeside hthere hload hapart rfl _)).2 fun _ _ => Or.inr (Or.inl ?_)
  cases hfound : RotationState.load (scopedDisk "\x7b\x7d")
      (clearRequest.paths sampleSetup .rotationState) with
  | error failure =>
    rw [hfound] at hstate
    cases hstate
  | ok state => exact ⟨state, hfound, htakes⟩

/-- Where the state is none, the change fails, and home has every wallpaper nevertheless. -/
theorem not_endsWhole_clear :
    ¬EndsWhole sampleSetup clearRequest .home ScopeSetting.unset clearArguments
      (scopedConsole "\x7b") := by
  have htask : clearRequest.Restricts .home ScopeSetting.unset := Or.inr ⟨rfl, rfl⟩
  have hthere : (scopedConsole "\x7b").disk.holds (clearRequest.paths sampleSetup .config) =
      true := by decide +kernel
  have hload := load_scopedDisk hthere (by decide +kernel)
  have hapart : ((clearRequest.perform sampleSetup).run.run
      (scopedConsole "\x7b")).2.disk.areApart (clearRequest.paths sampleSetup .config)
      (clearRequest.paths sampleSetup .rotationState) = true := by decide +kernel
  have hstate : (RotationState.load (scopedDisk "\x7b")
      (clearRequest.paths sampleSetup .rotationState)).isOk = false := by decide +kernel
  rw [endsWhole_iff_of_load (by decide +kernel) htask hthere hload hapart
    (htask.isToldBeside hthere hload hapart rfl _)]
  rintro (hrefused | ⟨state, hfound, -⟩ | hsame)
  · exact hrefused
  · have hok : RotationState.load (scopedDisk "\x7b")
        (clearRequest.paths sampleSetup .rotationState) = .ok state := hfound
    rw [hok] at hstate
    cases hstate
  · exact absurd hsame (by decide)

end WallpaperRotation.CommandLine
