/-
# Damaged documents

A library or a state that is there but cannot be loaded is never overwritten by a run of the program
or a tick of a daemon, as long as its name and that of a document that can be loaded do not lead to
one file.  Nothing looks at where the names lead: if the state is a link to the library, a library
that cannot be loaded may well be taken for a state.
-/
import WallpaperRotation.Proofs.CommandLine.Spared
import WallpaperRotation.Proofs.Config.Load

namespace WallpaperRotation

/-! ## Documents that cannot be loaded -/

namespace Disk

/-- The data file is there and cannot be loaded. -/
def IsDamaged (disk : Disk) (paths : Document → FilePath) : Document → Prop
  | .config => False
  | .library => ∃ failure, Library.load disk (paths .library) = .error failure
  | .rotationState => ∃ failure, RotationState.load disk (paths .rotationState) = .error failure

variable {disk : Disk} {paths : Document → FilePath} {document : Document}

/-- A damaged data file is there. -/
theorem IsDamaged.exists_entry (h : disk.IsDamaged paths document) :
    ∃ place node, disk.entry true (paths document) = .ok (place, node) := by
  refine holds_iff.1 (Bool.of_not_eq_false fun hmissing => ?_)
  cases document with
  | config => exact h
  | library =>
    obtain ⟨failure, hload⟩ := h
    rw [Library.load_eq_ofStored, documentText?_of_missing hmissing] at hload
    cases hload
  | rotationState =>
    obtain ⟨failure, hload⟩ := h
    rw [RotationState.load_eq_ofStored, documentText?_of_missing hmissing] at hload
    cases hload

/-- One of the two data files is damaged if any document is. -/
theorem IsDamaged.library_or_state (h : disk.IsDamaged paths document) :
    disk.IsDamaged paths .library ∨ disk.IsDamaged paths .rotationState := by
  cases document with
  | config => exact h.elim
  | library => exact Or.inl h
  | rotationState => exact Or.inr h

end Disk

namespace CommandLine

variable {setup : Setup} {request : Request} {document : Document}

/-- The data files have plain names in one folder. -/
theorem Request.isBelow_paths {document other : Document} (hdocument : document ≠ .config)
    (hother : other ≠ .config) {folder : FilePath}
    (h : (request.paths setup other).IsBelow folder) :
    (request.paths setup document).IsBelow folder := by
  have hlibrary : '/' ∉ "library.json".toList := by decide
  have hstate : '/' ∉ "state.json".toList := by decide
  cases document with
  | config => exact absurd rfl hdocument
  | library =>
    cases other with
    | config => exact absurd rfl hother
    | library => exact h
    | rotationState => exact h.sibling hstate hlibrary
  | rotationState =>
    cases other with
    | config => exact absurd rfl hother
    | library => exact h.sibling hlibrary hstate
    | rotationState => exact h

/-- A request rejects the data files that are damaged. -/
theorem Request.rejects {disk : Disk} (h : disk.IsDamaged (request.paths setup) document)
    (config : Config) {may : Document → Prop}
    (hmay : ∀ other, other ≠ .config → ¬disk.IsDamaged (request.paths setup) other → may other) :
    (request.desk setup config).Rejects (disk.IsDamaged (request.paths setup)) may
      fun document => disk.documentText? document (request.paths setup document) where
  library := by
    rintro ⟨failure, hload⟩ library hlibrary
    rw [Library.load_eq_ofStored] at hload
    exact absurd (hload.symm.trans hlibrary) (by simp)
  state := by
    rintro ⟨failure, hload⟩ state hstate
    rw [RotationState.load_eq_ofStored] at hload
    exact absurd (hload.symm.trans hstate) (by simp)
  damaged := h.library_or_state
  mayLibrary := hmay .library (by decide)
  mayState := hmay .rotationState (by decide)

/-- The damaged documents are told apart from the other ones on the disk: the names of a damaged and
of another document do not lead to one file. -/
def Request.TellsApart (request : Request) (setup : Setup) (damaged disk : Disk) : Prop :=
  ∀ document other, damaged.IsDamaged (request.paths setup) document →
    ¬damaged.IsDamaged (request.paths setup) other →
    disk.areApart (request.paths setup document) (request.paths setup other) = true

/-- Where documents are told apart, the damaged ones are guarded against the others. -/
theorem Request.guards {first disk : Disk} {may : Document → Prop}
    (hdamaged : first.IsDamaged (request.paths setup) document)
    (hsame : ∀ other, first.IsDamaged (request.paths setup) other →
      disk.entry true (request.paths setup other) = first.entry true (request.paths setup other))
    (hapart : ∀ document other, first.IsDamaged (request.paths setup) document → may other →
      disk.areApart (request.paths setup document) (request.paths setup other) = true)
    (hconfig : may .config →
      ∃ place node, disk.entry true (request.paths setup .config) = .ok (place, node)) :
    disk.Guards first (first.IsDamaged (request.paths setup)) may (request.paths setup) := by
  have hthere {other : Document} (hother : first.IsDamaged (request.paths setup) other) :
      ∃ place node, disk.entry true (request.paths setup other) = .ok (place, node) := by
    rw [hsame other hother]
    exact hother.exists_entry
  refine ⟨hsame, fun other hother => hthere hother, hapart, fun other hmay => ?_⟩
  by_cases hother : other = .config
  · subst hother
    obtain ⟨place, node, hentry⟩ := hconfig hmay
    exact ⟨_, place, node, hentry, fun folder hbelow => hbelow⟩
  · -- The folder of the other data file is that of the damaged one, and is there.
    obtain ⟨place, node, hentry⟩ := hthere hdamaged
    have hdata : document ≠ .config := by
      rintro rfl
      exact hdamaged
    exact ⟨_, place, node, hentry, fun folder hbelow => Request.isBelow_paths hdata hother hbelow⟩

/-- A request leaves damaged data files as they are. -/
theorem Request.entry_perform {console : Console}
    (hapart : request.TellsApart setup console.disk
      (Config.load console.disk setup.home (request.paths setup .config)).2)
    (hdamaged : console.disk.IsDamaged (request.paths setup) document) :
    ((request.perform setup).run.run console).2.disk.entry true (request.paths setup document) =
      console.disk.entry true (request.paths setup document) := by
  have hloaded {other : Document} (hother : console.disk.IsDamaged (request.paths setup) other) :
      (Config.load console.disk setup.home (request.paths setup .config)).2.entry true
        (request.paths setup other) = console.disk.entry true (request.paths setup other) := by
    obtain ⟨place, node, hentry⟩ := hother.exists_entry
    rw [hentry]
    exact Config.entry_load hentry (hapart other .config hother id)
  cases hload : Config.load console.disk setup.home (request.paths setup .config) with
  | mk result loaded =>
    rw [hload] at hloaded hapart
    cases result with
    | error failure =>
      rw [request.run_perform_of_error hload]
      exact hloaded hdamaged
    | ok config =>
      obtain ⟨printed, hrun⟩ := request.run_perform hload
      have hguards : loaded.Guards console.disk (console.disk.IsDamaged (request.paths setup))
          (fun other => ¬console.disk.IsDamaged (request.paths setup) other)
          (request.paths setup) :=
        Request.guards hdamaged (fun other hother => hloaded hother) hapart
          fun _ => Config.exists_entry_load hload
      have hspares := (Request.rejects hdamaged config fun other _ hother => hother).ofTask id
        request.task
      rw [hrun]
      exact (hguards.alone hspares (fun other _ => rfl) console.words).same document hdamaged

/-! ## Whole runs -/

/-- Telling of a failure on a disk leaves what a path leads to. -/
def IsToldBeside (setting : NotificationSetting) (disk : Disk) (path : FilePath) : Prop :=
  ∀ message, (setting.forward failureTitle message disk).entry true path = disk.entry true path

/-- How it is told that a request failed, and the disk on which that is done. -/
def Request.telling (request : Request) (setup : Setup) (disk : Disk) :
    NotificationSetting × Disk :=
  let (config, disk) := Config.load disk setup.home (request.paths setup .config)
  (match config with
    | .ok config => config.notifications
    | .error _ => NotificationSetting.initial, disk)

/-- Telling that a request failed leaves what a path leads to: the configuration that is loaded for
it is another file, and the command does not touch the path's one. -/
structure Request.TellsBeside (request : Request) (setup : Setup) (path : FilePath) (disk : Disk) :
    Prop where
  apart : (request.telling setup disk).2.areApart path (request.paths setup .config) = true
  told : IsToldBeside (request.telling setup disk).1 (request.telling setup disk).2 path

/-- What is there stays where a failure is told beside it. -/
theorem Request.TellsBeside.entry_complain {path : FilePath} {console : Console} {place : Place}
    {node : Node} (h : request.TellsBeside setup path console.disk)
    (hentry : console.disk.entry true path = .ok (place, node)) (failure : Failure) :
    (request.complain setup failure console).disk.entry true path = .ok (place, node) :=
  (h.told failure.message).trans (Config.entry_load hentry h.apart)

/-- The console that a run leaves, or that a daemon starts from. -/
def Course.console : Course → Console
  | .ended ending => ending.console
  | .watching _ console => console

/-- A run that is not told about as failed leaves the console as its request does. -/
theorem console_run {arguments : List String} (h : Request.ofArguments arguments = .ok request)
    (console : Console) :
    (run setup arguments console).console = ((request.perform setup).run.run console).2 ∨
      ∃ failure, (run setup arguments console).console =
        request.complain setup failure ((request.perform setup).run.run console).2 := by
  unfold run
  rw [h]
  dsimp only
  obtain ⟨result, after⟩ := (request.perform setup).run.run console
  cases result with
  | error failure => exact Or.inr ⟨failure, rfl⟩
  | ok watch =>
    cases watch with
    | none => exact Or.inl rfl
    | some watch => exact Or.inl rfl

/-- The disk on which a tick tells of its failure. -/
def Watch.tellsOn (watch : Watch) (daemon : Daemon Console) : Disk :=
  if daemon.isBroken then daemon.world.disk
  else (watch.call daemon.isDirty daemon.world).2.2.disk

/-- A tick leaves the disk of its call, or that on which it told of a failure. -/
theorem Watch.disk_tick (watch : Watch) (daemon : Daemon Console) :
    (watch.tick daemon).world.disk = watch.tellsOn daemon ∨
      ∃ message, (watch.tick daemon).world.disk =
        watch.desk.plan.config.notifications.forward failureTitle message
          (watch.tellsOn daemon) := by
  unfold tick Daemon.tick tellsOn
  by_cases hbroken : daemon.isBroken = true
  · simp only [if_pos hbroken]
    exact Or.inr ⟨_, rfl⟩
  · simp only [if_neg hbroken]
    obtain ⟨ending, changes, world⟩ := watch.call daemon.isDirty daemon.world
    cases ending with
    | done => exact Or.inl rfl
    | failed message => exact Or.inr ⟨message, rfl⟩
    | brokeDown => exact Or.inr ⟨_, rfl⟩

/-- The call of a tick leaves damaged data files as they are. -/
theorem Watch.entry_tellsOn {config : Config} {watch : Watch} {daemon : Daemon Console}
    (hdesk : watch.desk = request.desk setup config)
    (hdamaged : daemon.world.disk.IsDamaged (request.paths setup) document)
    (hapart : request.TellsApart setup daemon.world.disk daemon.world.disk) :
    (watch.tellsOn daemon).entry true (request.paths setup document) =
      daemon.world.disk.entry true (request.paths setup document) := by
  unfold tellsOn
  by_cases hbroken : daemon.isBroken = true
  · rw [if_pos hbroken]
  · rw [if_neg hbroken, (watch.call_eq daemon.isDirty daemon.world).2, hdesk, request.paths_desk]
    have hguards : daemon.world.disk.Guards daemon.world.disk
        (daemon.world.disk.IsDamaged (request.paths setup))
        (fun other => other ≠ .config ∧ ¬daemon.world.disk.IsDamaged (request.paths setup) other)
        (request.paths setup) :=
      Request.guards hdamaged (fun _ _ => rfl)
        (fun document other hdocument hother => hapart document other hdocument hother.2)
        fun hmay => absurd rfl hmay.1
    have hrejects := Request.rejects hdamaged config fun other hdata hother =>
      (⟨hdata, hother⟩ : other ≠ .config ∧ ¬daemon.world.disk.IsDamaged (request.paths setup) other)
    rw [← hdesk] at hrejects
    exact (hguards.alone (hrejects.ofTick daemon.isDirty) (fun _ _ => rfl)
      daemon.world.words).same document hdamaged

/-- A data file that is there and cannot be loaded is as it was after every run of the program and
after every tick of a daemon, as long as its name and that of a document that can be loaded do not
lead to one file, and telling of a failure leaves it. -/
theorem damaged_documents_stay (setup : Setup) (request : Request) (document : Document) :
    (∀ arguments console, Request.ofArguments arguments = .ok request →
      console.disk.IsDamaged (request.paths setup) document →
      request.TellsApart setup console.disk
        (Config.load console.disk setup.home (request.paths setup .config)).2 →
      request.TellsBeside setup (request.paths setup document)
        ((request.perform setup).run.run console).2.disk →
      (run setup arguments console).console.disk.entry true (request.paths setup document) =
        console.disk.entry true (request.paths setup document)) ∧
    ∀ (config : Config) (watch : Watch) (daemon : Daemon Console),
      watch.desk = request.desk setup config →
      daemon.world.disk.IsDamaged (request.paths setup) document →
      request.TellsApart setup daemon.world.disk daemon.world.disk →
      IsToldBeside config.notifications (watch.tellsOn daemon) (request.paths setup document) →
      (watch.tick daemon).world.disk.entry true (request.paths setup document) =
        daemon.world.disk.entry true (request.paths setup document) := by
  refine ⟨fun arguments console harguments hdamaged hapart hbeside => ?_,
    fun config watch daemon hdesk hdamaged hapart htold => ?_⟩
  · have hperform := Request.entry_perform hapart hdamaged
    obtain ⟨place, node, hentry⟩ := hdamaged.exists_entry
    rcases console_run harguments console with hconsole | ⟨failure, hconsole⟩
    · rw [hconsole, hperform]
    · rw [hconsole, hentry]
      exact hbeside.entry_complain (hperform.trans hentry) failure
  · have hcall := Watch.entry_tellsOn hdesk hdamaged hapart
    rcases watch.disk_tick daemon with htick | ⟨message, htick⟩
    · rw [htick, hcall]
    · rw [htick, hdesk]
      exact (htold message).trans hcall

/-- Nothing happens to the disk where no command is configured. -/
theorem isToldBeside_of_no_command {setting : NotificationSetting} (h : setting.command = [])
    (disk : Disk) (path : FilePath) : IsToldBeside setting disk path := by
  intro message
  unfold NotificationSetting.forward
  rw [if_pos h]

/-- A disk with a configuration where everything is left as it is by itself, and with a library that
is none. -/
def damagedDisk : Disk :=
  ⟨[(["config.toml"], .file "".toUTF8 0), (["data"], .folder true),
    (["data", "library.json"], .file "\x7b\"wallpapers\": 0\x7d".toUTF8 0)], [], 0⟩

/-- Surroundings of a run. -/
def sampleSetup : Setup :=
  ⟨⟨"/home"⟩, .ofEpoch 0 0⟩

/-- A request for a rotation. -/
def rotateRequest : Request :=
  ⟨some ⟨"config.toml"⟩, some ⟨"data"⟩, .rotate none⟩

/-- A watch that rotates once in a minute. -/
def rotateWatch : Watch :=
  ⟨rotateRequest.desk sampleSetup (Config.initial ⟨"walls"⟩), ⟨60, by decide⟩, none,
    ⟨[], false, [], []⟩⟩

/-- The library that is none is damaged, and nothing else is. -/
theorem isDamaged_damagedDisk_iff (document : Document) :
    damagedDisk.IsDamaged (rotateRequest.paths sampleSetup) document ↔ document = .library := by
  cases document with
  | config => exact iff_of_false id (by decide)
  | library =>
    refine iff_of_true ?_ rfl
    have hfails : (Library.load damagedDisk
        (rotateRequest.paths sampleSetup .library)).isOk = false := by decide +kernel
    cases hload : Library.load damagedDisk (rotateRequest.paths sampleSetup .library) with
    | error failure => exact ⟨failure, hload⟩
    | ok library =>
      rw [hload] at hfails
      cases hfails
  | rotationState =>
    refine iff_of_false ?_ (by decide)
    rintro ⟨failure, hload⟩
    have hloads : (RotationState.load damagedDisk
        (rotateRequest.paths sampleSetup .rotationState)).isOk = true := by decide +kernel
    rw [hload] at hloads
    cases hloads

/-- The library that is none stays when a rotation is asked for, at once or by a tick. -/
theorem damaged_library_stays :
    (run sampleSetup ["--config", "config.toml", "--data-dir", "data", "rotate"]
        ⟨damagedDisk, Words.replay [], [], []⟩).console.disk.entry true ⟨"data/library.json"⟩ =
      damagedDisk.entry true ⟨"data/library.json"⟩ ∧
    (rotateWatch.tick (Daemon.start ⟨damagedDisk, Words.replay [], [], []⟩)).world.disk.entry true
        ⟨"data/library.json"⟩ = damagedDisk.entry true ⟨"data/library.json"⟩ := by
  have hpath : rotateRequest.paths sampleSetup .library = ⟨"data/library.json"⟩ := by
    decide +kernel
  obtain ⟨hrun, htick⟩ := damaged_documents_stay sampleSetup rotateRequest .library
  have hdamaged := (isDamaged_damagedDisk_iff .library).2 rfl
  have hapart {disk : Disk}
      (h : ∀ other, other ≠ .library → disk.areApart (rotateRequest.paths sampleSetup .library)
        (rotateRequest.paths sampleSetup other) = true) :
      rotateRequest.TellsApart sampleSetup damagedDisk disk := by
    intro document other hdocument hother
    obtain rfl := (isDamaged_damagedDisk_iff document).1 hdocument
    exact h other fun hlibrary => hother ((isDamaged_damagedDisk_iff other).2 hlibrary)
  have hran := hrun ["--config", "config.toml", "--data-dir", "data", "rotate"]
    ⟨damagedDisk, Words.replay [], [], []⟩ (by decide +kernel) hdamaged
    (hapart fun other hother => by
      cases other with
      | config => decide +kernel
      | library => exact absurd rfl hother
      | rotationState => decide +kernel)
    ⟨by decide +kernel, isToldBeside_of_no_command (by decide +kernel) _ _⟩
  have hticked := htick (Config.initial ⟨"walls"⟩) rotateWatch
    (Daemon.start ⟨damagedDisk, Words.replay [], [], []⟩) rfl hdamaged
    (hapart fun other hother => by
      cases other with
      | config => decide +kernel
      | library => exact absurd rfl hother
      | rotationState => decide +kernel)
    (isToldBeside_of_no_command rfl _ _)
  rw [hpath] at hran hticked
  exact ⟨hran, hticked⟩

/-- A disk where the state is a link to the library that is none. -/
def linkedDisk : Disk :=
  { damagedDisk with
    nodes := damagedDisk.nodes ++ [(["data", "state.json"], .link "library.json")] }

/-- Where the state is a link to the library, a library that is none is taken for a state, and is
overwritten when the history is cleared, although the configuration is another file. -/
theorem damaged_library_overwritten :
    let path : FilePath := ⟨"data/library.json"⟩
    let after := (run sampleSetup
      ["--config", "config.toml", "--data-dir", "data", "history", "clear"]
      ⟨linkedDisk, Words.replay [], [], []⟩).console.disk
    linkedDisk.holds path = true ∧ (Library.load linkedDisk path).isOk = false ∧
      linkedDisk.areApart ⟨"config.toml"⟩ path = true ∧
      linkedDisk.areApart ⟨"config.toml"⟩ ⟨"data/state.json"⟩ = true ∧
      (linkedDisk.read path).toOption ≠ (after.read path).toOption := by
  decide +kernel

end CommandLine

end WallpaperRotation
