/-
# Parts of a run as processes

All that a part of a run does with its documents is to load and to save whole ones, one at a time.
Taken apart into these steps, and the work on the disk in between, it is a process: what comes next
depends on what was loaded and on what the disk and the random words were.  Run alone, a process
does what the part does, apart from printing.
-/
import WallpaperRotation.Proofs.CommandLine.Rotate

namespace WallpaperRotation

/-! ## Stored documents -/

/-- What is found when a document is loaded: its text, nothing, or why there is no text. -/
abbrev Stored := Except Failure (Option String)

/-- The library in what is found at a path. -/
def Library.ofStored (path : FilePath) : Stored → Except Failure Library
  | .error failure => .error failure
  | .ok none => .ok empty
  | .ok (some text) =>
    match ofText text with
    | .ok library => .ok library
    | .error fault => .error (.unparsed .library path (.json fault))

/-- The state in what is found at a path. -/
def RotationState.ofStored (path : FilePath) : Stored → Except Failure RotationState
  | .error failure => .error failure
  | .ok none => .ok fresh
  | .ok (some text) =>
    match ofText text with
    | .ok state => .ok state
    | .error fault => .error (.unparsed .rotationState path (.json fault))

/-- The library is loaded from what is found. -/
theorem Library.load_eq_ofStored (disk : Disk) (path : FilePath) :
    load disk path = ofStored path (disk.documentText? .library path) := by
  unfold load
  cases disk.documentText? .library path with
  | error failure => rfl
  | ok text? =>
    cases text? with
    | none => rfl
    | some text =>
      simp only [bind, Except.bind, ofStored]
      cases ofText text <;> rfl

/-- The state is loaded from what is found. -/
theorem RotationState.load_eq_ofStored (disk : Disk) (path : FilePath) :
    load disk path = ofStored path (disk.documentText? .rotationState path) := by
  unfold load
  cases disk.documentText? .rotationState path with
  | error failure => rfl
  | ok text? =>
    cases text? with
    | none => rfl
    | some text =>
      simp only [bind, Except.bind, ofStored]
      cases ofText text <;> rfl

/-! ## Processes -/

/-- What there is still to do, step by step, until it comes to something or fails. -/
inductive Process (A : Type) where
  | ended (result : Except Failure A)
  /-- A document is loaded. -/
  | load (document : Document) (next : Stored → Process A)
  /-- A text is saved as a document. -/
  | save (document : Document) (text : String) (next : Except Failure Unit → Process A)
  /-- Something is done on the disk; what comes next depends on what was there before. -/
  | work (act : Words → Disk → Words × Disk) (next : Words → Disk → Process A)

namespace Process

variable {A B : Type}

/-- One process and then, if it came to something, another one. -/
def bind : Process A → (A → Process B) → Process B
  | ended (.ok value), others => others value
  | ended (.error failure), _ => ended (.error failure)
  | load document next, others => load document fun stored => (next stored).bind others
  | save document text next, others => save document text fun reply => (next reply).bind others
  | work act next, others => work act fun words disk => (next words disk).bind others

instance : Monad Process where
  pure value := ended (.ok value)
  bind := bind

/-- Coming to what a process came to does no more. -/
theorem bind_ended (process : Process A) :
    (process.bind fun value => ended (.ok value)) = process := by
  induction process with
  | ended result => cases result <;> rfl
  | load document next ih => exact congrArg (load document) (funext ih)
  | save document text next ih => exact congrArg (save document text) (funext ih)
  | work act next ih =>
    exact congrArg (work act) (funext fun words => funext fun disk => ih words disk)

/-- Of three processes one after the other, the last two may be taken together. -/
theorem bind_bind {C : Type} (process : Process A) (others : A → Process B)
    (last : B → Process C) :
    (process.bind others).bind last = process.bind fun value => (others value).bind last := by
  induction process with
  | ended result => cases result <;> rfl
  | load document next ih => exact congrArg (load document) (funext ih)
  | save document text next ih => exact congrArg (save document text) (funext ih)
  | work act next ih =>
    exact congrArg (work act) (funext fun words => funext fun disk => ih words disk)

instance : LawfulMonad Process :=
  LawfulMonad.mk' Process bind_ended (fun _ _ => rfl) bind_bind

/-- Runs a process that nothing else interferes with, with the documents at these paths: what came
of it, and the words and the disk that it leaves. -/
def alone (paths : Document → FilePath) :
    Process A → Words → Disk → Except Failure A × Words × Disk
  | ended result, words, disk => (result, words, disk)
  | load document next, words, disk =>
    (next (disk.documentText? document (paths document))).alone paths words disk
  | save document text next, words, disk =>
    let (reply, disk) := disk.saveText document (paths document) text
    (next reply).alone paths words disk
  | work act next, words, disk =>
    let (after, changed) := act words disk
    (next words disk).alone paths after changed

section Alone

variable (paths : Document → FilePath) (words : Words) (disk : Disk)

/-- A process that has ended leaves everything as it is. -/
@[simp] theorem alone_ended (result : Except Failure A) :
    (ended result).alone paths words disk = (result, words, disk) :=
  rfl

/-- A process goes on with what is found when a document is loaded. -/
@[simp] theorem alone_load (document : Document) (next : Stored → Process A) :
    (load document next).alone paths words disk =
      (next (disk.documentText? document (paths document))).alone paths words disk :=
  rfl

/-- A process goes on with whether a document was saved. -/
@[simp] theorem alone_save (document : Document) (text : String)
    (next : Except Failure Unit → Process A) :
    (save document text next).alone paths words disk =
      (next (disk.saveText document (paths document) text).1).alone paths words
        (disk.saveText document (paths document) text).2 :=
  rfl

/-- A process goes on behind its work. -/
@[simp] theorem alone_work (act : Words → Disk → Words × Disk) (next : Words → Disk → Process A) :
    (work act next).alone paths words disk =
      (next words disk).alone paths (act words disk).1 (act words disk).2 :=
  rfl

end Alone

/-- Behind a process that came to something the next one goes on from where it ended. -/
theorem alone_bind (paths : Document → FilePath) (process : Process A) (others : A → Process B)
    (words : Words) (disk : Disk) :
    (process >>= others).alone paths words disk =
      match process.alone paths words disk with
      | (.ok value, words, disk) => (others value).alone paths words disk
      | (.error failure, words, disk) => (.error failure, words, disk) := by
  change (process.bind others).alone paths words disk = _
  induction process generalizing words disk with
  | ended result => cases result <;> rfl
  | load document next ih => exact ih _ words disk
  | save document text next ih => exact ih _ words _
  | work act next ih => exact ih _ _ _ _

/-! ## Steps -/

/-- Looks at the disk. -/
def look (read : Disk → Except Failure A) : Process A :=
  work (fun words disk => (words, disk)) fun _ disk => ended (read disk)

/-- Saves a text as a document. -/
def store (document : Document) (text : String) : Process Unit :=
  save document text ended

/-- Lets a rotator work on a library and a state. -/
def rotating (library : Library) (state : RotationState)
    (act : Rotator → Except Failure A × Rotator) : Process (A × Rotator) :=
  work
    (fun words disk =>
      let after := (act ⟨library, state, words, disk, []⟩).2
      (after.words, after.disk))
    fun words disk =>
      let (result, rotator) := act ⟨library, state, words, disk, []⟩
      ended (result.map fun value => (value, rotator))

end Process

namespace CommandLine

open Process

/-! ## Parts of a run -/

variable {A B : Type} {paths : Document → FilePath}

/-- The part does on every console what the process does alone, and prints. -/
def Follows (paths : Document → FilePath) (part : ConsoleM A) (process : Process A) : Prop :=
  ∀ console, ∃ printed, part.run.run console =
    let (result, words, disk) := process.alone paths console.words console.disk
    (result, { console with words := words, disk := disk, printed := printed })

/-- Parts one after the other follow processes one after the other. -/
theorem Follows.bind {part : ConsoleM A} {process : Process A} (h : Follows paths part process)
    {others : A → ConsoleM B} {otherProcesses : A → Process B}
    (hothers : ∀ value, Follows paths (others value) (otherProcesses value)) :
    Follows paths (part >>= others) (process >>= otherProcesses) := by
  intro console
  obtain ⟨printed, hpart⟩ := h console
  rw [alone_bind, ExceptT.run_bind, StateT.run_bind, hpart]
  obtain ⟨result, words, disk⟩ := process.alone paths console.words console.disk
  cases result with
  | error failure => exact ⟨printed, rfl⟩
  | ok value =>
    exact hothers value { console with words := words, disk := disk, printed := printed }

/-- Coming to something at once is a process that has ended. -/
theorem follows_pure (value : A) : Follows paths (pure value) (pure value) :=
  fun console => ⟨console.printed, rfl⟩

/-- Failing at once is a process that has ended. -/
theorem follows_throw (failure : Failure) :
    Follows paths (throw failure : ConsoleM A) (ended (.error failure)) :=
  fun console => ⟨console.printed, rfl⟩

/-- Printing is nothing that a process does. -/
theorem follows_sayAll (texts : List String) : Follows paths (sayAll texts) (pure ()) :=
  fun console => run_sayAll texts console

/-- Printing a text is nothing that a process does. -/
theorem follows_say (text : String) : Follows paths (say text) (pure ()) :=
  fun _ => ⟨_, rfl⟩

/-- Looking at the disk is a step. -/
theorem follows_reading (paths : Document → FilePath) (read : Disk → Except Failure A) :
    Follows paths (reading read) (look read) := by
  intro console
  refine ⟨console.printed, ?_⟩
  unfold reading
  rw [run_bind run_get, look, alone_work]
  cases read console.disk <;> rfl

/-- Saving a document is a step. -/
theorem follows_saving (document : Document) (text : String) :
    Follows paths (working fun disk => disk.saveText document (paths document) text)
      (store document text) := by
  intro console
  refine ⟨console.printed, ?_⟩
  unfold working
  rw [run_bind run_get, store, alone_save]
  dsimp only
  obtain ⟨reply, disk⟩ := console.disk.saveText document (paths document) text
  cases reply <;> rfl

/-- A rotator at work is a step. -/
theorem follows_rotating (desk : Desk) (library : Library) (state : RotationState)
    (act : Rotator → Except Failure A × Rotator) :
    Follows paths (desk.rotating library state act) (Process.rotating library state act) :=
  fun console => desk.run_rotating library state act console

end CommandLine

end WallpaperRotation
