/-
# What tasks save

A task saves a library or a state only after it loaded one, and what it saves is what it made of the
one that it last found or saved: tagging puts one tag on, a deletion takes one record away, a scan or
a rotation edits records alone, and only some parts of the state change.  A task that has to keep a
document saves it before it ends well.
-/
import WallpaperRotation.Proofs.CommandLine.Tasks
import WallpaperRotation.Proofs.Rotation.Changes

namespace WallpaperRotation

/-! ## What was seen -/

/-- What was last found or saved of each document, if anything. -/
abbrev Seen := Document → Option Stored

namespace Seen

variable {seen : Seen} {document other : Document} {stored : Stored} {paths : Document → FilePath}
  {library : Library} {state : RotationState}

/-- What was seen after a document was found or saved. -/
def after (seen : Seen) (document : Document) (stored : Stored) : Seen :=
  fun other => if other = document then some stored else seen other

/-- A document that was found or saved was seen last so. -/
theorem after_self (seen : Seen) (document : Document) (stored : Stored) :
    seen.after document stored document = some stored :=
  if_pos rfl

/-- Finding or saving a document leaves what was seen of another one. -/
theorem after_of_ne (h : other ≠ document) : seen.after document stored other = seen other :=
  if_neg h

/-- What was last seen of the library holds one. -/
def HasLibrary (seen : Seen) (paths : Document → FilePath) (library : Library) : Prop :=
  ∃ stored, seen .library = some stored ∧
    Library.ofStored (paths .library) stored = .ok library

/-- What was last seen of the state holds one. -/
def HasState (seen : Seen) (paths : Document → FilePath) (state : RotationState) : Prop :=
  ∃ stored, seen .rotationState = some stored ∧
    RotationState.ofStored (paths .rotationState) stored = .ok state

/-- A library that was found was seen last. -/
theorem hasLibrary_after (h : Library.ofStored (paths .library) stored = .ok library) :
    (seen.after .library stored).HasLibrary paths library :=
  ⟨stored, after_self seen _ stored, h⟩

/-- A library that was saved was seen last, with its records in order. -/
theorem hasLibrary_after_text (library : Library) :
    (seen.after .library (.ok (some library.text))).HasLibrary paths library.sorted :=
  hasLibrary_after (by simp only [Library.ofStored, library.ofText_text])

/-- A state that was found was seen last. -/
theorem hasState_after (h : RotationState.ofStored (paths .rotationState) stored = .ok state) :
    (seen.after .rotationState stored).HasState paths state :=
  ⟨stored, after_self seen _ stored, h⟩

/-- Finding or saving another document leaves the library that was seen last. -/
theorem HasLibrary.after (h : seen.HasLibrary paths library) (hne : document ≠ .library) :
    (seen.after document stored).HasLibrary paths library := by
  rwa [HasLibrary, after_of_ne hne.symm]

/-- Finding or saving another document leaves the state that was seen last. -/
theorem HasState.after (h : seen.HasState paths state) (hne : document ≠ .rotationState) :
    (seen.after document stored).HasState paths state := by
  rwa [HasState, after_of_ne hne.symm]

/-- A state that was seen has valid times. -/
theorem HasState.dated (h : seen.HasState paths state) : state.Dated := by
  obtain ⟨stored, -, hstate⟩ := h
  unfold RotationState.ofStored at hstate
  split at hstate
  · cases hstate
  · obtain rfl := Except.ok.inj hstate
    exact RotationState.dated_fresh
  · split at hstate
    · rename_i text loaded htext
      obtain rfl := Except.ok.inj hstate
      exact RotationState.dated_of_ofText htext
    · cases hstate

end Seen

/-! ## Processes that derive what they save -/

namespace Process

variable {A B : Type} {good : Seen → Document → String → Prop} {post : Seen → A → Prop}
  {last : Seen → B → Prop} {seen : Seen} {document : Document}

/-- Having seen some documents, the process saves only texts that are good for what it has seen by
then, and comes to nothing but what meets a condition. -/
inductive Derives (good : Seen → Document → String → Prop) (post : Seen → A → Prop) :
    Seen → Process A → Prop where
  | ended {seen : Seen} {result : Except Failure A}
      (h : ∀ value, result = .ok value → post seen value) : Derives good post seen (.ended result)
  | load {seen : Seen} {document : Document} {next : Stored → Process A}
      (h : ∀ stored, Derives good post (seen.after document stored) (next stored)) :
      Derives good post seen (.load document next)
  | save {seen : Seen} {document : Document} {text : String}
      {next : Except Failure Unit → Process A} (hgood : good seen document text)
      (hsaved : Derives good post (seen.after document (.ok (some text))) (next (.ok ())))
      (hfailed : ∀ failure, Derives good post seen (next (.error failure))) :
      Derives good post seen (.save document text next)
  | work {seen : Seen} {act : Words → Disk → Words × Disk} {next : Words → Disk → Process A}
      (h : ∀ words disk, Derives good post seen (next words disk)) :
      Derives good post seen (.work act next)

/-- Processes one after the other derive what each of them derives. -/
theorem Derives.bind {process : Process A} {others : A → Process B}
    (h : process.Derives good post seen)
    (hothers : ∀ seen value, post seen value → (others value).Derives good last seen) :
    (process >>= others).Derives good last seen := by
  change (process.bind others).Derives good last seen
  induction h with
  | @ended seen result h =>
    cases result with
    | error failure => exact .ended fun value hvalue => by cases hvalue
    | ok value => exact hothers seen value (h value rfl)
  | load h ih => exact .load ih
  | save hgood hsaved hfailed ih ih' => exact .save hgood ih ih'
  | work h ih => exact .work ih

/-- A process that comes to something at once saves nothing. -/
theorem derives_pure {value : A} (h : post seen value) :
    (pure value : Process A).Derives good post seen := by
  refine .ended fun other hother => ?_
  obtain rfl := Except.ok.inj hother
  exact h

/-- A process that fails at once saves nothing. -/
theorem derives_error (failure : Failure) :
    (ended (.error failure)).Derives good post seen :=
  .ended fun value hvalue => by cases hvalue

/-- Looking saves nothing. -/
theorem derives_look {read : Disk → Except Failure A}
    (h : ∀ disk value, read disk = .ok value → post seen value) :
    (look read).Derives good post seen :=
  .work fun _ disk => .ended (h disk)

/-- Good texts of the library and of the state may be saved, one behind the other. -/
theorem derives_storeBoth {library state : String} (hlibrary : good seen .library library)
    (hstate : good (seen.after .library (.ok (some library))) .rotationState state) :
    (do store .library library; store .rotationState state).Derives good (fun _ _ => True) seen :=
  .save hlibrary (.save hstate (.ended fun _ _ => trivial) fun failure => derives_error failure)
    fun failure => derives_error failure

/-- A good text may be saved. -/
theorem derives_store {text : String} {post : Seen → Unit → Prop} (hgood : good seen document text)
    (h : post (seen.after document (.ok (some text))) ()) :
    (store document text).Derives good post seen :=
  .save hgood (.ended fun _ _ => h) fun failure => derives_error failure

/-! ## Processes that owe a save -/

/-- The process comes to nothing before it saved the document. -/
inductive Owes (document : Document) : Process A → Prop where
  | failed (failure : Failure) : Owes document (.ended (.error failure))
  | load {other : Document} {next : Stored → Process A}
      (h : ∀ stored, Owes document (next stored)) : Owes document (.load other next)
  /-- When the document is saved, nothing is owed any more. -/
  | saved {text : String} {next : Except Failure Unit → Process A}
      (hfailed : ∀ failure, Owes document (next (.error failure))) :
      Owes document (.save document text next)
  | save {other : Document} {text : String} {next : Except Failure Unit → Process A}
      (h : ∀ reply, Owes document (next reply)) : Owes document (.save other text next)
  | work {act : Words → Disk → Words × Disk} {next : Words → Disk → Process A}
      (h : ∀ words disk, Owes document (next words disk)) : Owes document (.work act next)

/-- What a process owes is saved when others follow it. -/
theorem Owes.bind {process : Process A} (h : process.Owes document) (others : A → Process B) :
    (process >>= others).Owes document := by
  change (process.bind others).Owes document
  induction h with
  | failed failure => exact .failed failure
  | load h ih => exact .load ih
  | saved hfailed ih => exact .saved ih
  | save h ih => exact .save ih
  | work h ih => exact .work ih

end Process

namespace CommandLine

open Process

/-! ## What a task makes -/

/-- The part of the state that a ledger is. -/
def LedgerName.part : LedgerName → RotationState.Part
  | .target role => .ledger role
  | .library => .library

namespace Task

/-- The parts of the state that the task may change. -/
def WorksOn (task : Task) (part : RotationState.Part) : Prop :=
  match task with
  | .rotate selection => ∀ given, selection = some given → given.WorksOn part
  | .delete _ _ => ∃ target, part = .current target
  | .setScope target _ | .clearScope target => part = .cursor target ∨ part = .ledger target
  | .clearHistory ledger =>
    ∃ name : LedgerName, part = name.part ∧ ∀ given, ledger = some given → name = given
  | _ => False

/-- The edits that the task may make in a library, where the home folder is as given. -/
def MayMake (task : Task) (home : FilePath) (paths : Document → FilePath) (seen : Seen)
    (library : Library) (edits : List Library.Edit) : Prop :=
  match task with
  | .rotate _ | .scan => ∀ edit ∈ edits, edit.IsOfRecord
  | .delete target _ => edits = [] ∨ ∃ state path w, seen.HasState paths state ∧
      (state.target target).current = some path ∧ library.byPath? path = some w ∧
      edits = [.remove w.id]
  | .addTag query tag => ∃ w, library.find home query = .ok w ∧
      edits = [.tag w.id (normalizeTag tag)]
  | .removeTag query tag => ∃ w, library.find home query = .ok w ∧
      edits = [.untag w.id (normalizeTag tag)]
  | _ => False

/-- The text holds what the task makes of the library that it saw last, by some edits. -/
def Edits (task : Task) (home : FilePath) (paths : Document → FilePath) (seen : Seen)
    (edits : List Library.Edit) (text : String) : Prop :=
  ∃ library next, seen.HasLibrary paths library ∧ Library.ofText text = .ok next ∧
    library.Edited edits next ∧ task.MayMake home paths seen library edits

/-- The text is what the task makes of the document that it saw last. -/
def Makes (task : Task) (home : FilePath) (paths : Document → FilePath) (seen : Seen)
    (document : Document) (text : String) : Prop :=
  match document with
  | .config => True
  | .library => ∃ edits, task.Edits home paths seen edits text
  | .rotationState => ∃ state next, seen.HasState paths state ∧
      RotationState.ofText text = .ok next ∧ ∀ part, ¬task.WorksOn part → next.AgreesIn part state

/-- The documents that the task has saved when it has ended well. -/
def Keeps : Task → Document → Prop
  | .rotate _, .library | .rotate _, .rotationState | .scan, .library | .addTag _ _, .library
  | .setScope _ _, .rotationState | .clearScope _, .rotationState
  | .clearHistory _, .rotationState => True
  | _, _ => False

end Task

namespace Desk

variable {desk : Desk} {task : Task} {seen : Seen} {library next : Library}
  {state after : RotationState}

/-- What comes of edits that a task may make is what it may save. -/
theorem makes_of_edited (hseen : seen.HasLibrary desk.paths library)
    {edits : List Library.Edit} (h : library.Edited edits next)
    (hmay : task.MayMake desk.plan.home desk.paths seen library edits) :
    task.Makes desk.plan.home desk.paths seen .library next.text :=
  ⟨edits, library, next.sorted, hseen, next.ofText_text, h.sorted, hmay⟩

/-- Whatever edits records alone is what a scan or a rotation may save. -/
theorem makes_of_refiled (htask : task = .scan ∨ ∃ selection, task = .rotate selection)
    (hseen : seen.HasLibrary desk.paths library) (h : library.Refiled next) :
    task.Makes desk.plan.home desk.paths seen .library next.text := by
  obtain ⟨edits, hedits, hnext⟩ := h
  refine makes_of_edited hseen hnext ?_
  rcases htask with rfl | ⟨selection, rfl⟩ <;> exact hedits

/-- A state with valid times that is the same in all other parts is what a task may make. -/
theorem makes_of_agreesIn (hseen : seen.HasState desk.paths state) (hdated : after.Dated)
    (h : ∀ part, ¬task.WorksOn part → after.AgreesIn part state) :
    task.Makes desk.plan.home desk.paths seen .rotationState after.text :=
  ⟨state, after, hseen, RotationState.ofText_text hdated, h⟩

/-! ## What the tasks save -/

/-- Loading the library saves nothing. -/
theorem derives_loadLibrary (desk : Desk) {good : Seen → Document → String → Prop} (seen : Seen) :
    (Steps.loadLibrary desk).Derives good (fun now library => now.HasLibrary desk.paths library)
      seen :=
  .load fun _ => .ended fun _ hlibrary => Seen.hasLibrary_after hlibrary

/-- Loading the state saves nothing, and leaves the library that was seen. -/
theorem derives_loadState (desk : Desk) {good : Seen → Document → String → Prop} (seen : Seen) :
    (Steps.loadState desk).Derives good (fun now state => now.HasState desk.paths state ∧
      ∀ library, seen.HasLibrary desk.paths library → now.HasLibrary desk.paths library) seen :=
  .load fun _ => .ended fun _ hstate =>
    ⟨Seen.hasState_after hstate, fun _ hlibrary => hlibrary.after (by decide)⟩

/-- A scan saves what it made of the library. -/
theorem derives_scanInto (htask : task = .scan ∨ ∃ selection, task = .rotate selection)
    (hseen : seen.HasLibrary desk.paths library) :
    (Steps.scanInto desk library).Derives (task.Makes desk.plan.home desk.paths)
      (fun now scanned => now.HasLibrary desk.paths scanned.2.sorted) seen := by
  refine Derives.bind (?_ : Process.Derives _
    (fun now scanned => now = seen ∧ library.Refiled scanned.2) seen _) fun now scanned hscanned => ?_
  · refine derives_look fun disk scanned hscan => ⟨rfl, ?_⟩
    cases hresult : library.scan disk desk.plan.folders desk.plan.config.library.recursive
        desk.plan.config.library.conflict with
    | error fault =>
      rw [hresult] at hscan
      cases hscan
    | ok result =>
      rw [hresult] at hscan
      obtain rfl := Except.ok.inj hscan
      exact Library.refiled_scan hresult
  · obtain ⟨rfl, hrefiled⟩ := hscanned
    exact (derives_store (makes_of_refiled htask hseen hrefiled)
      (Seen.hasLibrary_after_text scanned.2)).bind fun _ _ h => derives_pure h

/-- A library that is loaded or scanned is the one seen last, in some order. -/
theorem derives_loadOrScan (htask : task = .scan ∨ ∃ selection, task = .rotate selection)
    (seen : Seen) :
    (Steps.loadOrScan desk).Derives (task.Makes desk.plan.home desk.paths)
      (fun now library => ∃ old, now.HasLibrary desk.paths old ∧ old.Edited [] library) seen := by
  refine (desk.derives_loadLibrary seen).bind fun now library hlibrary => ?_
  by_cases hrecords : library.wallpapers = []
  · simp only [if_pos hrecords]
    refine (derives_scanInto htask hlibrary).bind fun now scanned hscanned => ?_
    exact derives_pure ⟨_, hscanned, Library.edited_of_sorted scanned.2⟩
  · simp only [if_neg hrecords]
    exact derives_pure ⟨library, hlibrary, .refl library⟩

/-- A rotation saves what it made of the library and of the state. -/
theorem derives_rotateAndSave (hnow : desk.plan.now.Valid) (selection : Option Selection)
    {old : Library} (hlibrary : seen.HasLibrary desk.paths old) (hsame : old.Edited [] library)
    (hstate : seen.HasState desk.paths state) :
    (Steps.rotateAndSave desk selection library state).Derives
      ((Task.rotate selection).Makes desk.plan.home desk.paths) (fun _ _ => True) seen := by
  refine .work fun words disk => ?_
  have hrefiled : library.Refiled
      ((desk.rotation selection).make ⟨library, state, words, disk, []⟩).2.library :=
    Rotator.refiled_rotate ⟨library, state, words, disk, []⟩ _ _ _ _
  have hdated : ((desk.rotation selection).make ⟨library, state, words, disk, []⟩).2.state.Dated :=
    (Rotator.reachable_state_rotate hstate.dated.reachable hnow _ _ _).dated
  have hagrees : ∀ part, ¬(Task.rotate selection).WorksOn part →
      ((desk.rotation selection).make ⟨library, state, words, disk, []⟩).2.state.AgreesIn part
        state := by
    intro part hpart
    unfold Task.WorksOn at hpart
    push Not at hpart
    obtain ⟨given, rfl, hgiven⟩ := hpart
    exact Rotator.agreesIn_rotate hgiven
  refine .save (makes_of_refiled (Or.inr ⟨selection, rfl⟩) hlibrary (hsame.refiled.trans hrefiled))
    (.save (makes_of_agreesIn (hstate.after (by decide)) hdated hagrees) ?_ fun _ => ?_) fun _ => ?_
  all_goals exact .ended fun _ _ => trivial

/-- Rotating saves what it made of the library and of the state. -/
theorem derives_rotate (hnow : desk.plan.now.Valid) (selection : Option Selection) (seen : Seen) :
    (Steps.rotate desk selection).Derives
      ((Task.rotate selection).Makes desk.plan.home desk.paths) (fun _ _ => True) seen := by
  -- The library that is rotated through is the one loaded, or what a first scan saved.
  have honce : (Steps.rotateOnce desk selection).Derives
      ((Task.rotate selection).Makes desk.plan.home desk.paths) (fun _ _ => True) seen := by
    refine (derives_loadOrScan (Or.inr ⟨selection, rfl⟩) seen).bind fun now library hlibrary => ?_
    refine (desk.derives_loadState now).bind fun now' state hstate => ?_
    obtain ⟨old, hold, hsame⟩ := hlibrary
    exact derives_rotateAndSave hnow selection (hstate.2 old hold) hsame hstate.1
  exact honce.bind fun _ _ _ => derives_pure trivial

/-- Scanning saves what it made of the library. -/
theorem derives_scan (seen : Seen) :
    (Steps.scan desk).Derives (Task.scan.Makes desk.plan.home desk.paths) (fun _ _ => True) seen :=
  (desk.derives_loadLibrary seen).bind fun _ _ hlibrary =>
    (derives_scanInto (Or.inl rfl) hlibrary).bind fun _ _ _ => derives_pure trivial

/-- A deletion saves what it made of the library and of the state. -/
theorem derives_delete (target : Target) (isSure : Bool) (seen : Seen) :
    (Steps.delete desk target isSure).Derives
      ((Task.delete target isSure).Makes desk.plan.home desk.paths) (fun _ _ => True) seen := by
  refine (desk.derives_loadLibrary seen).bind fun now library hfound => ?_
  refine (desk.derives_loadState now).bind fun now' state hloaded => ?_
  obtain ⟨hstate, hstill⟩ := hloaded
  have hlibrary := hstill library hfound
  by_cases hnone : (state.target target).current.isNone = true
  · simp only [if_pos hnone]
    exact derives_pure trivial
  · by_cases hsure : (!isSure) = true
    · simp only [if_neg hnone, if_pos hsure]
      exact derives_error _
    · simp only [if_neg hnone, if_neg hsure]
      refine .work fun words disk => ?_
      have hmade := Rotator.library_deleteCurrent ⟨library, state, words, disk, []⟩ target
        desk.plan.config.apply.applier
      have hdated : ((Rotator.mk library state words disk []).deleteCurrent target
          desk.plan.config.apply.applier).2.state.Dated :=
        (Rotator.reachable_state_deleteCurrent hstate.dated.reachable _ _).dated
      have hagrees : ∀ part, ¬(Task.delete target isSure).WorksOn part →
          ((Rotator.mk library state words disk []).deleteCurrent target
            desk.plan.config.apply.applier).2.state.AgreesIn part state := fun part hpart =>
        Rotator.agreesIn_deleteCurrent fun other heq => hpart ⟨other, heq⟩
      dsimp only
      generalize (Rotator.mk library state words disk []).deleteCurrent target
        desk.plan.config.apply.applier = made at hmade hdated hagrees
      obtain ⟨result, rotator⟩ := made
      cases result with
      | error failure => exact derives_error failure
      | ok deleted =>
        refine derives_storeBoth ?_ (makes_of_agreesIn (hstate.after (by decide)) hdated hagrees)
        rcases hmade with hsame | ⟨path, w, hpath, hfound, hedited⟩
        · exact makes_of_edited hlibrary (hsame ▸ .refl library) (Or.inl rfl)
        · exact makes_of_edited hlibrary hedited
            (Or.inr ⟨state, path, w, hstate, hpath, hfound, rfl⟩)

/-- Finding a record gives the one that the query stands for. -/
theorem derives_find {good : Seen → Document → String → Prop} (query : String) :
    (Steps.find desk library query).Derives good
      (fun now w => now = seen ∧ library.find desk.plan.home query = .ok w) seen := by
  refine .ended fun w hw => ⟨rfl, ?_⟩
  cases hfind : library.find desk.plan.home query with
  | error error =>
    rw [hfind] at hw
    cases hw
  | ok found =>
    rw [hfind] at hw
    exact congrArg Except.ok (Except.ok.inj hw)

/-- Tagging saves the library with one tag put on a record. -/
theorem derives_addTag (query tag : String) (seen : Seen) :
    (Steps.addTag desk query tag).Derives
      ((Task.addTag query tag).Makes desk.plan.home desk.paths) (fun _ _ => True) seen := by
  refine (desk.derives_loadLibrary seen).bind fun now library hlibrary => ?_
  refine (derives_find query).bind fun now w hw => ?_
  obtain ⟨rfl, hfind⟩ := hw
  cases htag : library.addTag w.id tag with
  | error error => exact derives_error _
  | ok tagged =>
    refine derives_store (makes_of_edited hlibrary (.tag htag (.refl tagged)) ?_) trivial
    exact ⟨w, hfind, rfl⟩

/-- Untagging saves the library with one tag taken off a record. -/
theorem derives_removeTag (query tag : String) (seen : Seen) :
    (Steps.removeTag desk query tag).Derives
      ((Task.removeTag query tag).Makes desk.plan.home desk.paths) (fun _ _ => True) seen := by
  refine (desk.derives_loadLibrary seen).bind fun now library hlibrary => ?_
  refine (derives_find query).bind fun now w hw => ?_
  obtain ⟨rfl, hfind⟩ := hw
  cases huntag : library.removeTag w.id tag with
  | mk held untagged =>
    cases held with
    | false => exact derives_pure trivial
    | true =>
      have hedited : library.Edited [.untag w.id (normalizeTag tag)] untagged :=
        .untag (congrArg Prod.snd huntag) (.refl untagged)
      exact derives_store (makes_of_edited hlibrary hedited ⟨w, hfind, rfl⟩) trivial

/-- Checking a scope saves nothing. -/
theorem derives_checkScope {good : Seen → Document → String → Prop} (setting : ScopeSetting)
    (seen : Seen) : (Steps.checkScope desk setting).Derives good (fun _ _ => True) seen := by
  unfold Steps.checkScope
  split
  · exact (desk.derives_loadLibrary seen).bind fun _ _ _ => derives_pure trivial
  · dsimp only
    split
    · exact derives_error _
    · exact derives_pure trivial
  · exact derives_pure trivial

/-- A target at the start of a new cycle shows what it showed. -/
theorem agreesIn_reset {part : RotationState.Part} {target : Target} (state : RotationState)
    (h : ¬(part = .cursor target ∨ part = .ledger target)) :
    (state.updateTarget target TargetState.reset).AgreesIn part state :=
  RotationState.agreesIn_updateTarget (fun hcursor => absurd (Or.inl hcursor) h)
    (fun hledger => absurd (Or.inr hledger) h) fun _ => rfl

/-- Restricting a target saves the state with the target at the start of a new cycle. -/
theorem derives_setScope {target : Target}
    (hworks : ∀ part, part = .cursor target ∨ part = .ledger target → task.WorksOn part)
    (setting : ScopeSetting) (seen : Seen) :
    (Steps.setScope desk target setting).Derives (task.Makes desk.plan.home desk.paths)
      (fun _ _ => True) seen := by
  refine (derives_checkScope setting seen).bind fun now _ _ => ?_
  refine Derives.bind (?_ : Process.Derives _ (fun _ _ => True) now _) fun now _ _ => ?_
  · exact derives_store trivial trivial
  · refine (desk.derives_loadState now).bind fun now state hstate => ?_
    refine derives_store (makes_of_agreesIn hstate.1 ?_ fun part hpart => ?_) trivial
    · exact (hstate.1.dated.reachable.reset target).dated
    · exact agreesIn_reset state fun hchanged => hpart (hworks part hchanged)

/-- Forgetting ledgers leaves the other parts of the state. -/
theorem agreesIn_foldl_forgetLedger {part : RotationState.Part} {names : List LedgerName}
    (h : ∀ name ∈ names, part ≠ name.part) (state : RotationState) :
    (names.foldl forgetLedger state).AgreesIn part state := by
  induction names generalizing state with
  | nil => exact .refl state part
  | cons name names ih =>
    rw [List.forall_mem_cons] at h
    refine (ih h.2 (forgetLedger state name)).trans ?_
    cases name with
    | target target =>
      exact RotationState.agreesIn_updateTarget (fun _ => rfl) (fun hledger => absurd hledger h.1)
        fun _ => rfl
    | library =>
      cases part with
      | library => exact absurd rfl h.1
      | cursor other => cases other <;> exact rfl
      | ledger other => cases other <;> exact rfl
      | current other => cases other <;> exact rfl

/-- Forgetting ledgers leaves valid times. -/
theorem dated_foldl_forgetLedger {state : RotationState} (h : state.Dated)
    (names : List LedgerName) : (names.foldl forgetLedger state).Dated := by
  induction names generalizing state with
  | nil => exact h
  | cons name names ih =>
    refine ih ?_
    cases name with
    | target target => exact (h.reachable.cleared target).dated
    | library => exact h.reachable.clearedLibrary.dated

/-- Clearing ledgers saves the state without what they remembered. -/
theorem derives_clearHistory (ledger : Option LedgerName) (seen : Seen) :
    (Steps.clearHistory desk ledger).Derives
      ((Task.clearHistory ledger).Makes desk.plan.home desk.paths) (fun _ _ => True) seen := by
  refine (desk.derives_loadState seen).bind fun now state hstate => ?_
  refine derives_store (makes_of_agreesIn hstate.1
    (dated_foldl_forgetLedger hstate.1.dated _) fun part hpart => ?_) trivial
  refine agreesIn_foldl_forgetLedger (fun name hname hsame => hpart ⟨name, hsame, ?_⟩) state
  rintro given rfl
  exact List.mem_singleton.1 hname

/-- Getting ready to watch saves nothing. -/
theorem derives_prepare {good : Seen → Document → String → Prop} (interval : Option String)
    (selection : Option Selection) (watchFolders : Bool) (seen : Seen) :
    (Steps.prepare desk interval selection watchFolders).Derives good (fun _ _ => True) seen := by
  unfold Steps.prepare
  dsimp only
  split
  · exact derives_error _
  · exact derives_look fun _ _ _ => trivial

/-- Listing wallpapers saves nothing. -/
theorem derives_list {good : Seen → Document → String → Prop} (setting : ScopeSetting)
    (seen : Seen) : (Steps.list desk setting).Derives good (fun _ _ => True) seen := by
  refine (desk.derives_loadLibrary seen).bind fun now library _ => ?_
  cases (setting.scope desk.plan.home).candidates library desk.plan.folders with
  | error error => exact derives_error _
  | ok wallpapers => exact derives_pure trivial

/-- Showing the settings saves nothing. -/
theorem derives_status {good : Seen → Document → String → Prop} (seen : Seen) :
    (Steps.status desk).Derives good (fun _ _ => True) seen :=
  (desk.derives_loadLibrary seen).bind fun now _ _ =>
    (desk.derives_loadState now).bind fun _ _ _ => derives_pure trivial

/-- Every task saves what it made of what it saw. -/
theorem derives_ofTask (hnow : desk.plan.now.Valid) (task : Task) (seen : Seen) :
    (Steps.ofTask desk task).Derives (task.Makes desk.plan.home desk.paths) (fun _ _ => True)
      seen := by
  have hnone {good : Seen → Document → String → Prop} {process : Process Unit}
      (h : process.Derives good (fun _ _ => True) seen) :
      (process >>= fun _ => pure (none : Option Watch)).Derives good (fun _ _ => True) seen :=
    h.bind fun _ _ _ => derives_pure trivial
  cases task with
  | rotate selection => exact hnone (derives_rotate hnow selection seen)
  | scan => exact hnone (derives_scan seen)
  | list setting => exact hnone (derives_list setting seen)
  | status => exact hnone (derives_status seen)
  | delete target isSure => exact hnone (derives_delete target isSure seen)
  | listTags => exact (desk.derives_loadLibrary seen).bind fun _ _ _ => derives_pure trivial
  | addTag query tag => exact hnone (derives_addTag query tag seen)
  | removeTag query tag => exact hnone (derives_removeTag query tag seen)
  | showTag tag => exact (desk.derives_loadLibrary seen).bind fun _ _ _ => derives_pure trivial
  | setScope target setting =>
    have hworks : ∀ part, part = .cursor target ∨ part = .ledger target →
        (Task.setScope target setting).WorksOn part := fun _ h => h
    exact hnone (derives_setScope hworks setting seen)
  | clearScope target =>
    have hworks : ∀ part, part = .cursor target ∨ part = .ledger target →
        (Task.clearScope target).WorksOn part := fun _ h => h
    exact hnone (derives_setScope hworks ScopeSetting.unset seen)
  | clearHistory ledger => exact hnone (derives_clearHistory ledger seen)
  | watch interval selection watchFolders =>
    exact (derives_prepare interval selection watchFolders seen).bind fun _ _ _ =>
      derives_pure trivial

/-- A tick saves what it made of what it saw, as a rotation does. -/
theorem derives_ofTick {watch : Watch} (hnow : watch.desk.plan.now.Valid) (rescan : Bool)
    (seen : Seen) :
    (Steps.ofTick watch rescan).Derives
      ((Task.rotate watch.selection).Makes watch.desk.plan.home watch.desk.paths)
      (fun _ _ => True) seen := by
  cases rescan with
  | false => exact derives_rotate hnow watch.selection seen
  | true =>
    refine (watch.desk.derives_loadLibrary seen).bind fun now library hlibrary => ?_
    exact (derives_scanInto (Or.inr ⟨watch.selection, rfl⟩) hlibrary).bind fun now _ _ =>
      derives_rotate hnow watch.selection now

/-! ## What the tasks owe -/

end Desk

end CommandLine

end WallpaperRotation
