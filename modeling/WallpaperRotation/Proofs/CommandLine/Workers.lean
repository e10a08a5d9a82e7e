/-
# Workers that take turns

Processes that run at the same time take turns: at each turn one of them loads a document, saves one
or does some work.  What a worker has seen of a document stood on the disk right after a turn of its
own, what it saves is derived from that, and what it owes is saved before it ends well, whatever the
others do in between.
-/
import WallpaperRotation.Proofs.CommandLine.Derived
import WallpaperRotation.Proofs.Disk.Alike

namespace WallpaperRotation.CommandLine

/-! ## Workers -/

/-- A process on its way, with the places of its documents and with what it last found or saved of
each of them. -/
structure Worker where
  paths : Document → FilePath
  words : Words
  seen : Seen
  process : Process Unit

namespace Worker

/-- The worker after it found or saved a document. -/
def sees (worker : Worker) (document : Document) (stored : Stored) : Worker :=
  { worker with seen := worker.seen.after document stored }

/-- A worker's turn: the next step of its process. -/
def step (worker : Worker) (disk : Disk) : Worker × Disk :=
  match worker.process with
  | .ended _ => (worker, disk)
  | .load document next =>
    let stored := disk.documentText? document (worker.paths document)
    ({ worker.sees document stored with process := next stored }, disk)
  | .save document text next =>
    match disk.saveText document (worker.paths document) text with
    | (.ok (), saved) =>
      ({ worker.sees document (.ok (some text)) with process := next (.ok ()) }, saved)
    | (.error failure, saved) => ({ worker with process := next (.error failure) }, saved)
  | .work act next =>
    let (words, changed) := act worker.words disk
    ({ worker with words := words, process := next worker.words disk }, changed)

variable {worker : Worker} {document : Document} {text : String}

/-- A worker that is done does nothing. -/
theorem step_of_ended {result : Except Failure Unit} (h : worker.process = .ended result)
    (disk : Disk) : worker.step disk = (worker, disk) := by
  unfold step
  rw [h]

/-- A worker sees what it loads. -/
theorem step_of_load {next : Stored → Process Unit} (h : worker.process = .load document next)
    (disk : Disk) : worker.step disk =
      ({ worker.sees document (disk.documentText? document (worker.paths document)) with
        process := next (disk.documentText? document (worker.paths document)) }, disk) := by
  unfold step
  rw [h]

/-- A worker sees what it saved. -/
theorem step_of_saved {next : Except Failure Unit → Process Unit} {disk saved : Disk}
    (h : worker.process = .save document text next)
    (hsaved : disk.saveText document (worker.paths document) text = (.ok (), saved)) :
    worker.step disk =
      ({ worker.sees document (.ok (some text)) with process := next (.ok ()) }, saved) := by
  unfold step
  rw [h]
  dsimp only
  rw [hsaved]

/-- A worker goes on with the failure to save. -/
theorem step_of_not_saved {next : Except Failure Unit → Process Unit} {disk saved : Disk}
    {failure : Failure} (h : worker.process = .save document text next)
    (hsaved : disk.saveText document (worker.paths document) text = (.error failure, saved)) :
    worker.step disk = ({ worker with process := next (.error failure) }, saved) := by
  unfold step
  rw [h]
  dsimp only
  rw [hsaved]

/-- A worker that saves has seen what it saved, or goes on with the failure. -/
theorem step_of_save {next : Except Failure Unit → Process Unit}
    (h : worker.process = .save document text next) (disk : Disk) :
    (∃ saved, disk.saveText document (worker.paths document) text = (.ok (), saved) ∧
      worker.step disk =
        ({ worker.sees document (.ok (some text)) with process := next (.ok ()) }, saved)) ∨
      ∃ failure saved,
        disk.saveText document (worker.paths document) text = (.error failure, saved) ∧
        worker.step disk = ({ worker with process := next (.error failure) }, saved) := by
  cases hsaved : disk.saveText document (worker.paths document) text with
  | mk reply saved =>
    cases reply with
    | error failure => exact Or.inr ⟨failure, saved, rfl, step_of_not_saved h hsaved⟩
    | ok => exact Or.inl ⟨saved, rfl, step_of_saved h hsaved⟩

/-- A worker goes on behind its work. -/
theorem step_of_work {act : Words → Disk → Words × Disk} {next : Words → Disk → Process Unit}
    (h : worker.process = .work act next) (disk : Disk) : worker.step disk =
      let (words, changed) := act worker.words disk
      ({ worker with words := words, process := next worker.words disk }, changed) := by
  unfold step
  rw [h]

/-- The documents of a worker stay at their places. -/
@[simp] theorem paths_step (worker : Worker) (disk : Disk) :
    (worker.step disk).1.paths = worker.paths := by
  cases h : worker.process with
  | ended result => rw [step_of_ended h]
  | load document next => rw [step_of_load h]; rfl
  | save document text next =>
    rcases step_of_save h disk with ⟨saved, -, hstep⟩ | ⟨failure, saved, -, hstep⟩
    · rw [hstep]
      rfl
    · rw [hstep]
  | work act next => rw [step_of_work h]

end Worker

/-! ## Turns -/

/-- Workers on one disk. -/
structure World (ι : Type) where
  disk : Disk
  workers : ι → Worker

namespace World

variable {ι : Type} [DecidableEq ι]

/-- One worker takes its turn. -/
def step (world : World ι) (i : ι) : World ι :=
  let (worker, disk) := (world.workers i).step world.disk
  ⟨disk, fun j => if j = i then worker else world.workers j⟩

/-- Some workers take their turns one after the other. -/
def run (world : World ι) (turns : List ι) : World ι :=
  turns.foldl step world

variable {world : World ι} {i : ι} {turns : List ι}

/-- Nothing happens when no turn is taken. -/
@[simp] theorem run_nil (world : World ι) : world.run [] = world :=
  rfl

/-- The first turn is taken first. -/
@[simp] theorem run_cons (world : World ι) (i : ι) (turns : List ι) :
    world.run (i :: turns) = (world.step i).run turns :=
  rfl

/-- The turn of another worker leaves a worker as it is. -/
theorem workers_step_of_ne {j : ι} (h : j ≠ i) : (world.step i).workers j = world.workers j :=
  if_neg h

/-- The turn of a worker is a step of its own. -/
theorem workers_step_self (world : World ι) (i : ι) :
    (world.step i).workers i = ((world.workers i).step world.disk).1 :=
  if_pos rfl

/-- The turn of a worker leaves the disk of its step. -/
theorem disk_step (world : World ι) (i : ι) :
    (world.step i).disk = ((world.workers i).step world.disk).2 :=
  rfl

/-- The documents of the workers stay at their places. -/
@[simp] theorem paths_step (world : World ι) (i j : ι) :
    ((world.step i).workers j).paths = (world.workers j).paths := by
  by_cases h : j = i
  · rw [h, workers_step_self, Worker.paths_step]
  · rw [workers_step_of_ne h]

/-- A worker that has all the turns comes to what its process comes to alone. -/
theorem exists_run_alone (world : World ι) (i : ι) :
    ∃ turns : List ι, (((world.run turns).workers i).process,
        ((world.run turns).workers i).words, (world.run turns).disk) =
      let (result, words, disk) :=
        (world.workers i).process.alone (world.workers i).paths (world.workers i).words world.disk
      (.ended result, words, disk) := by
  -- Induction on the process: each step of it takes one turn.
  generalize hprocess : (world.workers i).process = process
  induction process generalizing world with
  | ended result => exact ⟨[], by rw [run_nil, hprocess]; rfl⟩
  | load document next ih =>
    have hstep := Worker.step_of_load hprocess world.disk
    obtain ⟨turns, hturns⟩ := ih _ (world.step i) (by rw [workers_step_self, hstep])
    rw [paths_step, disk_step, workers_step_self, hstep] at hturns
    exact ⟨i :: turns, hturns⟩
  | save document text next ih =>
    rcases Worker.step_of_save hprocess world.disk with
      ⟨saved, hsaved, hstep⟩ | ⟨failure, saved, hsaved, hstep⟩
    all_goals
      obtain ⟨turns, hturns⟩ := ih _ (world.step i) (by rw [workers_step_self, hstep])
      rw [paths_step, disk_step, workers_step_self, hstep] at hturns
      rw [Process.alone_save, hsaved]
      exact ⟨i :: turns, hturns⟩
  | work act next ih =>
    have hstep := Worker.step_of_work hprocess world.disk
    obtain ⟨turns, hturns⟩ := ih _ _ (world.step i) (by rw [workers_step_self, hstep])
    rw [paths_step, disk_step, workers_step_self, hstep] at hturns
    exact ⟨i :: turns, hturns⟩

end World

/-! ## What workers see, save and owe -/

namespace Worker

variable {worker : Worker} {document : Document} {stored : Stored}
  {good : Seen → Document → String → Prop} {post : Seen → Unit → Prop}

/-- The worker is about to save a text as the document. -/
def IsSaving (worker : Worker) (document : Document) (text : String) : Prop :=
  ∃ next, worker.process = .save document text next

/-- A worker whose process derives what it saves goes on with one that does. -/
theorem derives_step (h : worker.process.Derives good post worker.seen) (disk : Disk) :
    (worker.step disk).1.process.Derives good post (worker.step disk).1.seen := by
  cases hprocess : worker.process with
  | ended result =>
    rw [step_of_ended hprocess]
    exact h
  | load other next =>
    rw [hprocess] at h
    cases h with
    | load h =>
      rw [step_of_load hprocess]
      exact h _
  | save other text next =>
    rw [hprocess] at h
    cases h with
    | save hgood hsaved hfailed =>
      rcases step_of_save hprocess disk with ⟨saved, -, hstep⟩ | ⟨failure, saved, -, hstep⟩
      · rw [hstep]
        exact hsaved
      · rw [hstep]
        exact hfailed failure
  | work act next =>
    rw [hprocess] at h
    cases h with
    | work h =>
      rw [step_of_work hprocess]
      exact h _ _

/-- A worker whose process derives what it saves is about to save a text that is good for what it
has seen. -/
theorem good_of_isSaving (h : worker.process.Derives good post worker.seen) {text : String}
    (hsaving : worker.IsSaving document text) : good worker.seen document text := by
  obtain ⟨next, hprocess⟩ := hsaving
  rw [hprocess] at h
  cases h with
  | save hgood hsaved hfailed => exact hgood

end Worker

namespace World

variable {ι : Type} [DecidableEq ι] {world : World ι} {i : ι} {turns others : List ι}
  {document : Document} {stored : Stored} {meets : World ι → ι → Prop}
  {good : Seen → Document → String → Prop} {post : Seen → Unit → Prop}

/-- A worker whose process derives what it saves does so whoever takes turns. -/
theorem derives_run (h : (world.workers i).process.Derives good post (world.workers i).seen) :
    ((world.run turns).workers i).process.Derives good post ((world.run turns).workers i).seen := by
  induction turns generalizing world with
  | nil => exact h
  | cons j turns ih =>
    refine ih ?_
    by_cases hturn : i = j
    · subst hturn
      rw [workers_step_self]
      exact Worker.derives_step h world.disk
    · rwa [workers_step_of_ne hturn]

end World

/-! ## Saves over what was seen -/

namespace Worker

variable {worker : Worker} {document : Document} {disk : Disk}

/-- The worker does not save the document over a text that is not the one it saw last, unless it is
the same one. -/
def IsCurrent (worker : Worker) (document : Document) (disk : Disk) : Prop :=
  ∀ text, worker.IsSaving document text →
    worker.seen document = some (disk.documentText? document (worker.paths document)) ∨
      disk.documentText? document (worker.paths document) = .ok (some text)

/-- The worker is about to drop something from the document that it has seen there. -/
def Drops (worker : Worker) (document : Document) (P : String → Prop) : Prop :=
  ∃ text seen, worker.IsSaving document text ∧ worker.seen document = some (.ok (some seen)) ∧
    P seen ∧ ¬P text

end Worker

end WallpaperRotation.CommandLine
