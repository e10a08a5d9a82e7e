/-
# Processes that spare documents

A process spares some documents when, finding them as they are, it saves only other ones.  The
documents that it spares then stay as they are, as long as their names and those of the others do
not lead to one file.  Every task spares the data files that cannot be loaded, since it loads a data
file before it saves it, and ends when that fails.
-/
import WallpaperRotation.Proofs.CommandLine.Tasks
import WallpaperRotation.Proofs.Disk.Above
import WallpaperRotation.Proofs.Disk.Written

namespace WallpaperRotation

/-! ## Processes that spare documents -/

namespace Process

variable {A B : Type} {kept may : Document → Prop} {found : Document → Stored}

/-- Finding the kept documents as they are, the process saves only documents that it may, otherwise
only looks at the disk, and comes to nothing but what meets a condition. -/
inductive Spares (kept may : Document → Prop) (found : Document → Stored) (post : A → Prop) :
    Process A → Prop where
  | ended {result : Except Failure A} (h : ∀ value, result = .ok value → post value) :
    Spares kept may found post (.ended result)
  | load {document : Document} {next : Stored → Process A}
    (h : ∀ stored, (kept document → stored = found document) →
      Spares kept may found post (next stored)) :
    Spares kept may found post (.load document next)
  | save {document : Document} {text : String} {next : Except Failure Unit → Process A}
    (hmay : may document) (h : ∀ reply, Spares kept may found post (next reply)) :
    Spares kept may found post (.save document text next)
  | work {act : Words → Disk → Words × Disk} {next : Words → Disk → Process A}
    (hact : ∀ words disk, (act words disk).2 = disk)
    (h : ∀ words disk, Spares kept may found post (next words disk)) :
    Spares kept may found post (.work act next)

/-- Processes one after the other spare what each of them spares. -/
theorem Spares.bind {process : Process A} {post : A → Prop} {others : A → Process B}
    {last : B → Prop} (h : process.Spares kept may found post)
    (hothers : ∀ value, post value → (others value).Spares kept may found last) :
    (process >>= others).Spares kept may found last := by
  change (process.bind others).Spares kept may found last
  induction h with
  | @ended result h =>
    cases result with
    | error failure => exact .ended fun value hvalue => by cases hvalue
    | ok value => exact hothers value (h value rfl)
  | load h ih => exact .load ih
  | save hmay h ih => exact .save hmay ih
  | work hact h ih => exact .work hact ih

/-- A process that comes to something at once spares everything. -/
theorem spares_pure {post : A → Prop} {value : A} (h : post value) :
    (pure value : Process A).Spares kept may found post := by
  refine .ended fun other hother => ?_
  obtain rfl := Except.ok.inj hother
  exact h

/-- A process that fails at once spares everything. -/
theorem spares_error {post : A → Prop} (failure : Failure) :
    (ended (.error failure)).Spares kept may found post :=
  .ended fun value hvalue => by cases hvalue

/-- Looking spares everything. -/
theorem spares_look (read : Disk → Except Failure A) :
    (look read).Spares kept may found fun _ => True :=
  .work (fun _ _ => rfl) fun _ _ => .ended fun _ _ => trivial

/-- Saving a document that may be saved spares the others. -/
theorem spares_store {document : Document} (h : may document) (text : String) :
    (store document text).Spares kept may found fun _ => True :=
  .save h fun _ => .ended fun _ _ => trivial

end Process

namespace Disk

/-- The kept documents are on the disk as they were on a first one, and the documents that may be
saved are at other places and need no folders. -/
structure Guards (disk first : Disk) (kept may : Document → Prop) (paths : Document → FilePath) :
    Prop where
  same : ∀ document, kept document →
    disk.entry true (paths document) = first.entry true (paths document)
  there : ∀ document, kept document →
    ∃ place node, disk.entry true (paths document) = .ok (place, node)
  apart : ∀ document other, kept document → may other →
    disk.areApart (paths document) (paths other) = true
  above : ∀ other, may other → ∃ path place node, disk.entry true path = .ok (place, node) ∧
    ∀ folder, (paths other).IsBelow folder → path.IsBelow folder

variable {disk first : Disk} {kept may : Document → Prop} {paths : Document → FilePath}

/-- Saving a document that may be saved leaves the kept ones as they are. -/
theorem Guards.saveText (h : disk.Guards first kept may paths) {document : Document}
    (hmay : may document) (text : String) :
    (disk.saveText document (paths document) text).2.Guards first kept may paths := by
  obtain ⟨anchor, found, node, hanchor, hbelow⟩ := h.above document hmay
  have hparents := makeParents_eq_self (land_of_entry hanchor) hbelow
  rcases saveText_cases hparents document text with ⟨failure, hsave⟩ |
    ⟨landing, hland, hwritable, hsave⟩
  · rw [hsave]
    exact h
  · rw [hsave]
    have hbeside {other : Document} (hkept : kept other) :
        ∃ place node, disk.entry true (paths other) = .ok (place, node) ∧
          place ≠ landing.place := by
      obtain ⟨place, node, hentry⟩ := h.there other hkept
      exact ⟨place, node, hentry, ne_place_of_areApart hentry hland (h.apart _ _ hkept hmay)⟩
    refine ⟨fun other hkept => ?_, fun other hkept => ?_, fun other third hkept hthird => ?_,
      fun other hother => ?_⟩
    · obtain ⟨place, node, hentry, hne⟩ := hbeside hkept
      rw [hwritable.entry_set _ _ hentry hne, ← h.same other hkept, hentry]
    · obtain ⟨place, node, hentry, hne⟩ := hbeside hkept
      exact ⟨place, node, hwritable.entry_set _ _ hentry hne⟩
    · obtain ⟨place, node, hentry, hne⟩ := hbeside hkept
      exact hwritable.areApart_set _ _ hentry hne (h.apart other third hkept hthird)
    · obtain ⟨path, place, node, hentry, habove⟩ := h.above other hother
      obtain ⟨place', node', hstill⟩ := hwritable.exists_entry_set text.toUTF8 disk.clock hentry
      exact ⟨path, place', node', hstill, habove⟩

/-- A process that spares documents leaves them as they are. -/
theorem Guards.alone {A : Type} {process : Process A} {post : A → Prop}
    {found : Document → Stored} (h : disk.Guards first kept may paths)
    (hspares : process.Spares kept may found post)
    (hfound : ∀ document, kept document →
      found document = first.documentText? document (paths document)) (words : Words) :
    (process.alone paths words disk).2.2.Guards first kept may paths := by
  induction hspares generalizing words disk with
  | ended => exact h
  | @load document next hnext ih =>
    refine ih _ (fun hkept => ?_) h words
    rw [hfound document hkept, documentText?_congr (h.same document hkept)]
  | @save document text next hmay hnext ih => exact ih _ (h.saveText hmay text) words
  | @work act next hact hnext ih =>
    rw [Process.alone_work, hact]
    exact ih words disk h _

end Disk

/-! ## Tasks that spare damaged documents -/

namespace CommandLine

open Process

/-- Getting ready to watch saves nothing. -/
theorem spares_prepare {kept may : Document → Prop} {found : Document → Stored} (desk : Desk)
    (interval : Option String) (selection : Option Selection) (watchFolders : Bool) :
    (Steps.prepare desk interval selection watchFolders).Spares kept may found fun _ => True := by
  unfold Steps.prepare
  dsimp only
  cases Interval.ofText? (interval.getD desk.plan.config.rotation.interval) with
  | none => exact spares_error _
  | some parsed => exact spares_look _

/-- One of the data files at least is kept because it cannot be loaded, and those that can be loaded
may be saved. -/
structure Desk.Rejects (desk : Desk) (kept may : Document → Prop) (found : Document → Stored) :
    Prop where
  library : kept .library → ∀ library,
    Library.ofStored desk.files.library (found .library) ≠ .ok library
  state : kept .rotationState → ∀ state,
    RotationState.ofStored desk.files.state (found .rotationState) ≠ .ok state
  damaged : kept .library ∨ kept .rotationState
  mayLibrary : ¬kept .library → may .library
  mayState : ¬kept .rotationState → may .rotationState

namespace Desk.Rejects

variable {desk : Desk} {kept may : Document → Prop} {found : Document → Stored}

/-- A library that was loaded is not damaged. -/
theorem loadLibrary (h : desk.Rejects kept may found) :
    (Steps.loadLibrary desk).Spares kept may found fun _ => ¬kept .library := by
  refine .load fun stored hstored => .ended fun library hlibrary hkept => ?_
  rw [hstored hkept] at hlibrary
  exact h.library hkept library hlibrary

/-- A state that was loaded is not damaged. -/
theorem loadState (h : desk.Rejects kept may found) :
    (Steps.loadState desk).Spares kept may found fun _ => ¬kept .rotationState := by
  refine .load fun stored hstored => .ended fun state hstate hkept => ?_
  rw [hstored hkept] at hstate
  exact h.state hkept state hstate

/-- Scanning saves the library only. -/
theorem scanInto (h : desk.Rejects kept may found) (hlibrary : ¬kept .library)
    (library : Library) : (Steps.scanInto desk library).Spares kept may found fun _ => True := by
  refine (spares_look _).bind fun scanned _ => ?_
  exact (spares_store (h.mayLibrary hlibrary) _).bind fun _ _ => spares_pure trivial

/-- A library that was loaded or scanned is not damaged. -/
theorem loadOrScan (h : desk.Rejects kept may found) :
    (Steps.loadOrScan desk).Spares kept may found fun _ => ¬kept .library := by
  refine h.loadLibrary.bind fun library hlibrary => ?_
  by_cases hrecords : library.wallpapers = []
  · simp only [if_pos hrecords]
    exact (h.scanInto hlibrary library).bind fun _ _ => spares_pure hlibrary
  · simp only [if_neg hrecords]
    exact spares_pure hlibrary

/-- No rotation is made, and the state of none is saved, where a data file is damaged. -/
theorem rotate (h : desk.Rejects kept may found) (selection : Option Selection) :
    (Steps.rotate desk selection).Spares kept may found fun _ => True := by
  have honce : (Steps.rotateOnce desk selection).Spares kept may found fun _ => True := by
    refine h.loadOrScan.bind fun library hlibrary => ?_
    refine h.loadState.bind fun state hstate => ?_
    exact absurd h.damaged (not_or.2 ⟨hlibrary, hstate⟩)
  exact honce.bind fun _ _ => spares_pure trivial

/-- Scanning saves a library that it loaded. -/
theorem scan (h : desk.Rejects kept may found) :
    (Steps.scan desk).Spares kept may found fun _ => True := by
  refine h.loadLibrary.bind fun library hlibrary => ?_
  exact (h.scanInto hlibrary library).bind fun _ _ => spares_pure trivial

/-- Nothing is deleted where a data file is damaged. -/
theorem delete (h : desk.Rejects kept may found) (target : Target) (isSure : Bool) :
    (Steps.delete desk target isSure).Spares kept may found fun _ => True := by
  refine h.loadLibrary.bind fun library hlibrary => ?_
  refine h.loadState.bind fun state hstate => ?_
  exact absurd h.damaged (not_or.2 ⟨hlibrary, hstate⟩)

/-- Tagging saves a library that it loaded. -/
theorem addTag (h : desk.Rejects kept may found) (query tag : String) :
    (Steps.addTag desk query tag).Spares kept may found fun _ => True := by
  refine h.loadLibrary.bind fun library hlibrary => ?_
  have hfind : (Steps.find desk library query).Spares kept may found fun _ => True :=
    .ended fun _ _ => trivial
  refine hfind.bind fun w _ => ?_
  cases library.addTag w.id tag with
  | error error => exact spares_error _
  | ok tagged => exact spares_store (h.mayLibrary hlibrary) _

/-- Untagging saves a library that it loaded. -/
theorem removeTag (h : desk.Rejects kept may found) (query tag : String) :
    (Steps.removeTag desk query tag).Spares kept may found fun _ => True := by
  refine h.loadLibrary.bind fun library hlibrary => ?_
  have hfind : (Steps.find desk library query).Spares kept may found fun _ => True :=
    .ended fun _ _ => trivial
  refine hfind.bind fun w _ => ?_
  obtain ⟨held, untagged⟩ := library.removeTag w.id tag
  cases held with
  | true => exact spares_store (h.mayLibrary hlibrary) _
  | false => exact spares_pure trivial

/-- Restricting a target saves the configuration, and a state that it loaded. -/
theorem setScope (h : desk.Rejects kept may found) (hconfig : may .config) (target : Target)
    (setting : ScopeSetting) :
    (Steps.setScope desk target setting).Spares kept may found fun _ => True := by
  have hcheck : (Steps.checkScope desk setting).Spares kept may found fun _ => True := by
    unfold Steps.checkScope
    split
    · exact h.loadLibrary.bind fun _ _ => spares_pure trivial
    · dsimp only
      split
      · exact spares_error _
      · exact spares_pure trivial
    · exact spares_pure trivial
  refine hcheck.bind fun _ _ => ?_
  refine (spares_store hconfig _).bind fun _ _ => ?_
  exact h.loadState.bind fun state hstate => spares_store (h.mayState hstate) _

/-- Clearing ledgers saves a state that it loaded. -/
theorem clearHistory (h : desk.Rejects kept may found) (ledger : Option LedgerName) :
    (Steps.clearHistory desk ledger).Spares kept may found fun _ => True :=
  h.loadState.bind fun _ hstate => spares_store (h.mayState hstate) _

/-- Listing wallpapers saves nothing. -/
theorem list (h : desk.Rejects kept may found) (setting : ScopeSetting) :
    (Steps.list desk setting).Spares kept may found fun _ => True := by
  refine h.loadLibrary.bind fun library _ => ?_
  cases (setting.scope desk.plan.home).candidates library desk.plan.folders with
  | error error => exact spares_error _
  | ok wallpapers => exact spares_pure trivial

/-- Showing the settings saves nothing. -/
theorem status (h : desk.Rejects kept may found) :
    (Steps.status desk).Spares kept may found fun _ => True :=
  h.loadLibrary.bind fun _ _ => h.loadState.bind fun _ _ => spares_pure trivial

/-- Every task spares damaged data files. -/
theorem ofTask (h : desk.Rejects kept may found) (hconfig : may .config) (task : Task) :
    (Steps.ofTask desk task).Spares kept may found fun _ => True := by
  have hnone {process : Process Unit} (h : process.Spares kept may found fun _ => True) :
      (process >>= fun _ => pure (none : Option Watch)).Spares kept may found fun _ => True :=
    h.bind fun _ _ => spares_pure trivial
  cases task with
  | rotate selection => exact hnone (h.rotate selection)
  | scan => exact hnone h.scan
  | list setting => exact hnone (h.list setting)
  | status => exact hnone h.status
  | delete target isSure => exact hnone (h.delete target isSure)
  | listTags => exact h.loadLibrary.bind fun _ _ => spares_pure trivial
  | addTag query tag => exact hnone (h.addTag query tag)
  | removeTag query tag => exact hnone (h.removeTag query tag)
  | showTag tag => exact h.loadLibrary.bind fun _ _ => spares_pure trivial
  | setScope target setting => exact hnone (h.setScope hconfig target setting)
  | clearScope target => exact hnone (h.setScope hconfig target ScopeSetting.unset)
  | clearHistory ledger => exact hnone (h.clearHistory ledger)
  | watch interval selection watchFolders =>
    exact (spares_prepare desk interval selection watchFolders).bind fun _ _ => spares_pure trivial

/-- A tick spares damaged data files. -/
theorem ofTick {watch : Watch} (h : watch.desk.Rejects kept may found) (rescan : Bool) :
    (Steps.ofTick watch rescan).Spares kept may found fun _ => True := by
  cases rescan with
  | false => exact h.rotate watch.selection
  | true =>
    refine h.loadLibrary.bind fun library hlibrary => ?_
    exact (h.scanInto hlibrary library).bind fun _ _ => h.rotate watch.selection

end Desk.Rejects

end CommandLine

end WallpaperRotation
