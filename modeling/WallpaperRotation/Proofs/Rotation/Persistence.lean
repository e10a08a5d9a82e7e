/-
# Rotations that are kept

What a rotation leaves is kept when both documents can be written, also when the rotation failed: a
process that starts afterwards has the library and the state that the rotator has.  So rotations
that are each made by a process of their own do the same as rotations that one process makes with
the library and the state in memory.
-/
import WallpaperRotation.Proofs.Disk.Written
import WallpaperRotation.Proofs.Epoch
import WallpaperRotation.Proofs.Library.Settled
import WallpaperRotation.Proofs.Rotation.Reachable

namespace WallpaperRotation

/-! ## Processes -/

/-- What a rotation is told, apart from where the documents are. -/
structure Rotation where
  plan : Plan
  selection : Selection
  applier : Applier
  notifier : Notifier

/-- Makes the rotation. -/
def Rotation.make (rotation : Rotation) (rotator : Rotator) :
    Except Failure (List Outcome) × Rotator :=
  rotator.rotate rotation.plan rotation.selection rotation.applier rotation.notifier

/-- Makes the rotation and keeps what was reached. -/
def Rotation.makeAndSave (rotation : Rotation) (files : Rotator.DataFiles) (rotator : Rotator) :
    Except Failure (List Outcome) × Rotator :=
  rotator.rotateAndSave rotation.plan rotation.selection rotation.applier rotation.notifier files

/-- What there is while no process runs: the disk, the random words to come, and what happened up to
now. -/
structure Surroundings where
  words : Words
  disk : Disk
  events : List Event

/-- What is left of a rotator when its process ends. -/
def Rotator.surroundings (rotator : Rotator) : Surroundings :=
  ⟨rotator.words, rotator.disk, rotator.events⟩

namespace Surroundings

/-- The rotator of a process that starts, which loads the library and the state. -/
def start (surroundings : Surroundings) (files : Rotator.DataFiles) : Except Failure Rotator := do
  let library ← Library.load surroundings.disk files.library
  let state ← RotationState.load surroundings.disk files.state
  return ⟨library, state, surroundings.words, surroundings.disk, surroundings.events⟩

/-- Makes each rotation in a process of its own, and keeps what it reached; a process that cannot
load the documents fails and leaves all as it was. -/
def rotateAll (files : Rotator.DataFiles) :
    List Rotation → Surroundings → List (Except Failure (List Outcome)) × Surroundings
  | [], surroundings => ([], surroundings)
  | rotation :: rotations, surroundings =>
    match surroundings.start files with
    | .error failure =>
      let (results, last) := rotateAll files rotations surroundings
      (.error failure :: results, last)
    | .ok rotator =>
      let (result, rotator) := rotation.makeAndSave files rotator
      let (results, last) := rotateAll files rotations rotator.surroundings
      (result :: results, last)

end Surroundings

namespace Rotator

/-- Makes rotations one after the other with the library and the state in memory, and keeps what
each of them reached. -/
def rotateAll (files : DataFiles) :
    List Rotation → Rotator → List (Except Failure (List Outcome)) × Rotator
  | [], rotator => ([], rotator)
  | rotation :: rotations, rotator =>
    let (result, rotator) := rotation.makeAndSave files rotator
    let (results, last) := rotateAll files rotations rotator
    (result :: results, last)

/-- Both documents can be written, each to a file of its own, as documents of different names have
that are no links; one file under both names would hold the state only. -/
structure Saves (rotator : Rotator) (files : DataFiles) : Prop where
  kept : (rotator.save files).1 = .ok ()
  apart : (rotator.save files).2.disk.areApart files.library files.state = true

/-- Both documents can be written after each of the rotations. -/
def SavesAll (files : DataFiles) : List Rotation → Rotator → Prop
  | [], _ => True
  | rotation :: rotations, rotator =>
    (rotation.make rotator).2.Saves files ∧
      SavesAll files rotations (rotation.makeAndSave files rotator).2

/-! ## Keeping the documents -/

section Save

variable {rotator saved : Rotator} {files : DataFiles}

/-- Keeping both documents changes the disk only: the library is kept, and then the state. -/
theorem save_eq_ok (h : rotator.save files = (.ok (), saved)) :
    ∃ kept disk, rotator.library.save rotator.disk files.library = (.ok (), kept) ∧
      rotator.state.save kept files.state = (.ok (), disk) ∧
      saved = { rotator with disk := disk } := by
  unfold save at h
  split at h
  · cases h
  · rename_i kept hlibrary
    obtain ⟨hstate, rfl⟩ := Prod.mk.inj h
    exact ⟨kept, _, hlibrary, Prod.ext hstate rfl, rfl⟩

/-- Keeping the documents leaves the library and the state in memory as they were. -/
theorem Reachable.save (h : rotator.Reachable) (files : DataFiles) :
    (rotator.save files).2.Reachable := by
  unfold Rotator.save
  split
  · exact ⟨h.library, h.state⟩
  · exact ⟨h.library, h.state⟩

/-- A process that starts after both documents were kept has what the rotator has. -/
theorem Reachable.start_save (h : rotator.Reachable) (hsaves : rotator.Saves files) :
    (rotator.save files).2.surroundings.start files = .ok (rotator.save files).2 := by
  have hapart := hsaves.apart
  obtain ⟨saved, hsave⟩ : ∃ saved, rotator.save files = (.ok (), saved) :=
    ⟨_, Prod.ext hsaves.kept rfl⟩
  rw [hsave] at hapart ⊢
  obtain ⟨kept, disk, hlibrary, hstate, rfl⟩ := save_eq_ok hsave
  -- The document of the library is still there after that of the state was written.
  have hkeeps : disk.Keeps files.library rotator.library.text :=
    (Disk.keeps_saveText hlibrary).saveText hstate hapart
  obtain ⟨operations, hreached⟩ := h.library
  have hconsistent : rotator.library.Consistent := by
    rw [hreached]
    exact Library.consistent_empty.run operations
  have hload : Library.load disk files.library = .ok rotator.library := by
    rw [Library.load_of_keeps hkeeps, Library.sorted_eq_self hconsistent.ordered]
  have hloadState : RotationState.load disk files.state = .ok rotator.state :=
    RotationState.load_of_keeps h.state.dated (Disk.keeps_saveText hstate)
  simp only [Surroundings.start, surroundings, hload, hloadState]
  rfl

end Save

/-! ## One rotation -/

section Rotation

variable {rotator : Rotator} {rotation : Rotation} {files : DataFiles}

/-- What a rotation leaves is kept, whatever came of it. -/
theorem makeAndSave_snd (rotation : Rotation) (files : DataFiles) (rotator : Rotator) :
    (rotation.makeAndSave files rotator).2 = ((rotation.make rotator).2.save files).2 := by
  unfold Rotation.makeAndSave rotateAndSave Rotation.make
  dsimp only
  split <;> rfl

/-- A rotation after which both documents can be written tells what came of it. -/
theorem makeAndSave_fst (h : ((rotation.make rotator).2.save files).1 = .ok ()) :
    (rotation.makeAndSave files rotator).1 = (rotation.make rotator).1 := by
  unfold Rotation.makeAndSave rotateAndSave
  unfold Rotation.make at h ⊢
  dsimp only
  rw [h]
  split
  · rename_i hresult _
    exact hresult.symm
  · rename_i hfailed
    cases hfailed
  · rename_i hresult
    exact hresult.symm

/-- A rotation that is kept leaves a reachable rotator. -/
theorem Reachable.makeAndSave (h : rotator.Reachable) (hnow : rotation.plan.now.Valid)
    (files : DataFiles) : (rotation.makeAndSave files rotator).2.Reachable := by
  rw [makeAndSave_snd]
  exact (h.rotate hnow rotation.selection rotation.applier rotation.notifier).save files

/-- A process that starts after a rotation has the library and the state that it left. -/
theorem Reachable.start_makeAndSave (h : rotator.Reachable) (hnow : rotation.plan.now.Valid)
    (hsaves : (rotation.make rotator).2.Saves files) :
    (rotation.makeAndSave files rotator).2.surroundings.start files =
      .ok (rotation.makeAndSave files rotator).2 := by
  rw [makeAndSave_snd]
  exact (h.rotate hnow rotation.selection rotation.applier rotation.notifier).start_save hsaves

end Rotation

/-! ## Many rotations -/

section Rotations

variable {rotator : Rotator} {rotations : List Rotation} {files : DataFiles}
  {surroundings : Surroundings}

/-- A process that starts leaves what it found until it does something. -/
theorem surroundings_of_start (h : surroundings.start files = .ok rotator) :
    rotator.surroundings = surroundings := by
  obtain ⟨library, -, h⟩ := exists_of_bind_ok h
  obtain ⟨state, -, h⟩ := exists_of_bind_ok h
  rw [← Except.ok.inj h]
  rfl

/-- Rotations in processes of their own do the same as with the library and the state in memory, and
a process that starts after them has the library and the state that they left. -/
theorem Reachable.rotateAll_eq (h : rotator.Reachable)
    (hnow : ∀ rotation ∈ rotations, rotation.plan.now.Valid)
    (hstart : surroundings.start files = .ok rotator) (hsaves : SavesAll files rotations rotator) :
    surroundings.rotateAll files rotations =
        ((rotator.rotateAll files rotations).1, (rotator.rotateAll files rotations).2.surroundings) ∧
      (rotator.rotateAll files rotations).2.surroundings.start files =
        .ok (rotator.rotateAll files rotations).2 := by
  induction rotations generalizing rotator surroundings with
  | nil =>
    have hsame := surroundings_of_start hstart
    refine ⟨?_, ?_⟩
    · rw [Surroundings.rotateAll, rotateAll, hsame]
    · rw [rotateAll, hsame]
      exact hstart
  | cons rotation rotations ih =>
    have hfirst : rotation.plan.now.Valid := hnow rotation List.mem_cons_self
    obtain ⟨hsaved, hothers⟩ := hsaves
    obtain ⟨hresults, hlast⟩ := ih (h.makeAndSave hfirst files)
      (fun other hother => hnow other (List.mem_cons_of_mem rotation hother))
      (h.start_makeAndSave hfirst hsaved) hothers
    refine ⟨?_, hlast⟩
    simp only [Surroundings.rotateAll, rotateAll, hstart, hresults]

/-- Progress survives.  When both documents can be written after a rotation, what came of the
rotation is told, be it a failure, and a process that starts afterwards has exactly the library and
the state in memory.  When they can be written after each of many rotations, processes that each
make one of them come to the same as one process that makes them all: to the same results, events,
random words and disk, and to the same library and state. -/
theorem progress_survives (files : DataFiles) (h : rotator.Reachable) :
    (∀ rotation : Rotation, rotation.plan.now.Valid → (rotation.make rotator).2.Saves files →
      (rotation.makeAndSave files rotator).1 = (rotation.make rotator).1 ∧
      (rotation.makeAndSave files rotator).2.surroundings.start files =
        .ok (rotation.makeAndSave files rotator).2) ∧
    (∀ (rotations : List Rotation) (surroundings : Surroundings),
      (∀ rotation ∈ rotations, rotation.plan.now.Valid) →
      surroundings.start files = .ok rotator → SavesAll files rotations rotator →
      surroundings.rotateAll files rotations =
          ((rotator.rotateAll files rotations).1,
            (rotator.rotateAll files rotations).2.surroundings) ∧
        (rotator.rotateAll files rotations).2.surroundings.start files =
          .ok (rotator.rotateAll files rotations).2) := by
  refine ⟨fun rotation hnow hsaves => ⟨?_, ?_⟩, fun rotations surroundings hnow hstart hsaves => ?_⟩
  · exact makeAndSave_fst hsaves.kept
  · exact h.start_makeAndSave hnow hsaves
  · exact h.rotateAll_eq hnow hstart hsaves

end Rotations

/-- Where the documents are kept, in a folder that is made for them. -/
def dataFiles : DataFiles := ⟨⟨"data/library.json"⟩, ⟨"data/state.json"⟩⟩

/-- A rotation of both targets in order through a folder, which fails at the lock screen. -/
def halfRotation : Rotation where
  plan := ⟨{ Config.initial ⟨"walls"⟩ with
      rotation := ⟨.sequential, .both, "30m"⟩
      home := ⟨none, some ⟨"walls"⟩⟩
      lock := ⟨none, some ⟨"walls"⟩⟩ }, ⟨"/home"⟩, Timestamp.ofEpoch 1709164800 0⟩
  selection := .both
  applier := ⟨fun target _ disk =>
      match target with
      | .home => (.ok (), disk)
      | .lock => (.error (.reported "no lock screen"), disk),
    fun _ disk => (.ok (), disk)⟩
  notifier := fun _ _ disk => disk

/-- A rotator with the library of one image, before its first rotation. -/
def imageRotator : Rotator :=
  ⟨Library.imageLibrary Library.imageId "a.png", RotationState.fresh, Words.replay [],
    Library.imageDisk, []⟩

/-- The rotator comes from a scan of the image. -/
theorem reachable_imageRotator : imageRotator.Reachable where
  library := ⟨[.scan Library.imageDisk [⟨"walls"⟩] true .version], by decide +kernel⟩
  state := .fresh

/-- A rotation that fails at the lock screen is kept, and when it is made twice, in two processes or
in one, it fails twice. -/
theorem progress_survives_half :
    (halfRotation.makeAndSave dataFiles imageRotator).1 =
        .error (.reported "no lock screen") ∧
      (halfRotation.makeAndSave dataFiles imageRotator).2.surroundings.start dataFiles =
        .ok (halfRotation.makeAndSave dataFiles imageRotator).2 ∧
      ((imageRotator.save dataFiles).2.surroundings.rotateAll dataFiles
          [halfRotation, halfRotation]).1 =
        [.error (.reported "no lock screen"), .error (.reported "no lock screen")] := by
  have hnow : halfRotation.plan.now.Valid :=
    Timestamp.valid_ofEpoch (by decide) (by decide) (by decide)
  have hfirst : (halfRotation.make imageRotator).2.Saves dataFiles :=
    ⟨by decide +kernel, by decide +kernel⟩
  have hresult : (halfRotation.make imageRotator).1 = .error (.reported "no lock screen") := by
    decide +kernel
  obtain ⟨htold, hkept⟩ := (progress_survives dataFiles reachable_imageRotator).1 _ hnow hfirst
  -- The processes start from documents that were kept.
  have hsaves : imageRotator.Saves dataFiles := ⟨by decide +kernel, by decide +kernel⟩
  have hstart := reachable_imageRotator.start_save hsaves
  have hall : SavesAll dataFiles [halfRotation, halfRotation] (imageRotator.save dataFiles).2 :=
    ⟨⟨by decide +kernel, by decide +kernel⟩, ⟨by decide +kernel, by decide +kernel⟩, trivial⟩
  obtain ⟨hsame, -⟩ := (progress_survives dataFiles (reachable_imageRotator.save dataFiles)).2 _ _
    (fun rotation hrotation => by
      simp only [List.mem_cons, List.not_mem_nil, or_false, or_self] at hrotation
      rw [hrotation]
      exact hnow) hstart hall
  refine ⟨by rw [htold, hresult], hkept, ?_⟩
  rw [hsame]
  decide +kernel

end Rotator

end WallpaperRotation
