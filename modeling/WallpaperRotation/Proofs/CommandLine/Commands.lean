/-
# Commands

A command is a request, a task under a configuration that was loaded, or a tick of a daemon.  What
the documents tell, a command's save keeps, if the command saw it and does not undo it.
-/
import WallpaperRotation.Proofs.CommandLine.Derived

namespace WallpaperRotation

open Process

namespace CommandLine

/-! ## Commands -/

/-- What the program does between two looks at its arguments or at the clock. -/
inductive Command where
  | request (setup : Setup) (request : Request)
  /-- A task under a configuration that was loaded before. -/
  | task (desk : Desk) (task : Task)
  /-- A tick of a daemon, at which the folders may have changed. -/
  | tick (watch : Watch) (rescan : Bool)

namespace Command

/-- The steps of a command. -/
def process : Command → Process Unit
  | .request setup asked => do let _ ← Steps.ofRequest setup asked
  | .task desk given => do let _ ← Steps.ofTask desk given
  | .tick watch rescan => Steps.ofTick watch rescan

/-- Where a command has its documents. -/
def paths : Command → Document → FilePath
  | .request setup asked => asked.paths setup
  | .task desk _ => desk.paths
  | .tick watch _ => watch.desk.paths

/-- The home folder that a command goes by. -/
def home : Command → FilePath
  | .request setup _ => setup.home
  | .task desk _ => desk.plan.home
  | .tick watch _ => watch.desk.plan.home

/-- The time that a command puts down. -/
def now : Command → Timestamp
  | .request setup _ => setup.now
  | .task desk _ => desk.plan.now
  | .tick watch _ => watch.desk.plan.now

/-- The task of a command; a tick rotates, whether it scans before or not. -/
def toTask : Command → Task
  | .request _ asked => asked.task
  | .task _ given => given
  | .tick watch _ => .rotate watch.selection

/-- The text holds what the command makes of the library that it saw last, by some edits. -/
def Edits (command : Command) (seen : Seen) (edits : List Library.Edit) (text : String) : Prop :=
  command.toTask.Edits command.home command.paths seen edits text

/-- The text is what the command makes of the document that it saw last. -/
def Makes (command : Command) (seen : Seen) (document : Document) (text : String) : Prop :=
  command.toTask.Makes command.home command.paths seen document text

/-- Loading the configuration saves no more than a configuration. -/
theorem derives_loadConfig {good : Seen → Document → String → Prop}
    (hconfig : ∀ seen text, good seen .config text) (home path : FilePath) (seen : Seen) :
    (Steps.loadConfig home path).Derives good (fun _ _ => True) seen := by
  refine Derives.bind (?_ : Process.Derives good (fun _ _ => True) seen _) fun now folder _ => ?_
  · exact derives_look fun _ _ _ => trivial
  · refine .load fun stored => ?_
    cases stored with
    | error failure => exact derives_error failure
    | ok text? =>
      cases text? with
      | none =>
        refine Derives.bind (?_ : Process.Derives good (fun _ _ => True) _ _)
          fun _ _ _ => derives_pure trivial
        exact derives_store (hconfig _ _) trivial
      | some text =>
        dsimp only
        cases Config.ofText? folder text with
        | none => exact derives_error _
        | some config => exact derives_pure trivial

/-- Every command saves what it makes of what it saw. -/
theorem derives_process {command : Command} (hnow : command.now.Valid) (seen : Seen) :
    command.process.Derives command.Makes (fun _ _ => True) seen := by
  cases command with
  | request setup asked =>
    refine Derives.bind (?_ : Process.Derives _ (fun _ _ => True) seen _)
      fun _ _ _ => derives_pure trivial
    refine (derives_loadConfig (fun _ _ => trivial) _ _ seen).bind fun now config _ => ?_
    have htask := (asked.desk setup config).derives_ofTask hnow asked.task now
    rwa [asked.paths_desk setup config] at htask
  | task desk given =>
    exact (desk.derives_ofTask hnow given seen).bind fun _ _ _ => derives_pure trivial
  | tick watch rescan => exact Desk.derives_ofTick hnow rescan seen

end Command

/-! ## What documents tell -/

/-- Something that the library or the state may tell. -/
inductive Fact where
  | library (fact : Library.Fact)
  /-- The state is in a part as another one. -/
  | state (part : RotationState.Part) (like : RotationState)

namespace Fact

/-- The document that may tell so. -/
def document : Fact → Document
  | .library _ => .library
  | .state _ _ => .rotationState

end Fact

namespace Command

variable {command : Command} {seen : Seen} {fact : Fact} {stored text : String}

end Command

end CommandLine

end WallpaperRotation
