/-
# Operations in place

In the program a library is changed in place, one step after the other, and an operation that stops
with an error leaves behind what its steps did until then.  Inserting, tagging and scanning are told
here as such courses of steps.  Each of them comes to the same as the operation that gives a library
back: all that can go wrong is found out before the first step that changes anything, so an
operation that fails leaves the library exactly as it was.
-/
import WallpaperRotation.Proofs.Library.Run

namespace WallpaperRotation

namespace Library

/-! ## Courses of steps -/

/-- A course of steps on a library.  It may stop with an error; the library then stays as the steps
until there have left it. -/
abbrev Course (ε α : Type) := ExceptT ε (StateM Library) α

/-- What a course comes to on a library, and the library after it. -/
def Course.on {ε α : Type} (course : Course ε α) (library : Library) : Except ε α × Library :=
  course.run.run library

/-- What an operation that gives a library back comes to in place: the library that it gives back
takes the stead of the old one, which stays when there is none. -/
def settle {ε α : Type} (library : Library) : Except ε (α × Library) → Except ε α × Library
  | .ok (value, changed) => (.ok value, changed)
  | .error error => (.error error, library)

section Courses

variable {ε α β : Type} {library after : Library}

/-- A course that looks at the library goes on by what it sees. -/
theorem Course.on_get_bind (next : Library → Course ε α) :
    (get >>= next).on library = (next library).on library :=
  rfl

/-- A course goes on with the library that its first part has left, unless that part stopped. -/
theorem Course.on_bind (course : Course ε α) (next : α → Course ε β) :
    (course >>= next).on library =
      match course.on library with
      | (.ok value, changed) => (next value).on changed
      | (.error error, changed) => (.error error, changed) := by
  unfold Course.on
  rw [ExceptT.run_bind, StateT.run_bind]
  rcases course.run.run library with ⟨error | value, changed⟩ <;> rfl

/-- In place an operation succeeds when it gives a library back, which is then there. -/
theorem settle_eq_ok_iff {result : Except ε (α × Library)} {value : α} :
    library.settle result = (.ok value, after) ↔ result = .ok (value, after) := by
  rcases result with error | ⟨other, changed⟩ <;> simp [settle]

/-- In place an operation fails when it gives no library back, and the old one is still there. -/
theorem settle_eq_error_iff {result : Except ε (α × Library)} {error : ε} :
    library.settle result = (.error error, after) ↔ after = library ∧ result = .error error := by
  rcases result with other | ⟨value, changed⟩
  · simp only [settle, Prod.mk.injEq, Except.error.injEq]
    exact ⟨fun ⟨herror, hsame⟩ => ⟨hsame.symm, herror⟩, fun ⟨hsame, herror⟩ => ⟨herror, hsame.symm⟩⟩
  · simp [settle]

/-- What is made of a result fails when the result does. -/
theorem map_eq_error_iff {result : Except ε α} {make : α → β} {error : ε} :
    result.map make = .error error ↔ result = .error error := by
  cases result <;> simp [Except.map]

end Courses

/-! ## Inserting -/

/-- Finds a place for a record and puts it there, the records that are in the way being dropped. -/
def placeCourse (w : Wallpaper) (policy : Policy) : Course StoreError Inserted := do
  match (← get).get? w.id with
  | none =>
    modify fun library => library.dropStale w
    modify fun library => library.append w
    return .new w.id
  | some existing =>
    if existing.path.same w.path then
      modify fun library => library.overwrite w
      return .updated w.id
    else
      match policy with
      | .reject => throw (.duplicateId w.id existing.path)
      | .replace =>
        modify fun library => library.dropStale w
        modify fun library => library.overwrite w
        return .updated w.id
      | .version =>
        let w := { w with id := versionId w.id ((← get).openVersion w.path w.id) }
        match (← get).get? w.id with
        | none =>
          modify fun library => library.dropStale w
          modify fun library => library.append w
          return .versioned w.id
        | some _ =>
          modify fun library => library.overwrite w
          return .updated w.id

/-- Puts a record into the library, and the records in order. -/
def insertCourse (w : Wallpaper) (policy : Policy) : Course StoreError Inserted := do
  let outcome ← placeCourse w policy
  modify sorted
  return outcome

/-- Inserting in place does what inserting does. -/
theorem on_insertCourse (library : Library) (w : Wallpaper) (policy : Policy) :
    (insertCourse w policy).on library = library.settle (library.insert w policy) := by
  unfold insert
  rw [insertCourse, Course.on_bind, placeCourse, Course.on_get_bind]
  cases library.get? w.id with
  | none => rfl
  | some existing =>
    dsimp only
    cases existing.path.same w.path with
    | true => rfl
    | false =>
      cases policy with
      | reject => rfl
      | replace => rfl
      | version =>
        simp only [insertVersion, Bool.false_eq_true, if_false, Course.on_get_bind]
        cases library.get? (versionId w.id (library.openVersion w.path w.id)) <;> rfl

/-- An insert fails where duplicates are refused and a file at another path has the identifier. -/
theorem insert_eq_error_iff {library : Library} {w : Wallpaper} {policy : Policy}
    {error : StoreError} :
    library.insert w policy = .error error ↔
      policy = .reject ∧ ∃ existing, library.get? w.id = some existing ∧
        existing.path.same w.path = false ∧ error = .duplicateId w.id existing.path := by
  unfold insert
  cases library.get? w.id with
  | none => simp
  | some existing =>
    simp only [Option.some.injEq, exists_eq_left']
    cases existing.path.same w.path with
    | true => simp
    | false => cases policy <;> simp [eq_comm (a := error)]

/-! ## Tagging -/

/-- Puts a wallpaper into a tag, which is made where it is missing. -/
def addTagCourse (id name : String) : Course StoreError Unit := do
  let name := normalizeTag name
  if name = "" then throw .emptyTag
  if ((← get).get? id).isNone then throw (.notFound id)
  match (← get).tags.find? fun tag => tag.name = name with
  | some _ =>
    modify fun library => { library with
      tags := updateFirst (fun tag => tag.name = name)
        (fun tag => { tag with ids := tag.ids.insert id }) library.tags }
  | none =>
    modify fun library => { library with tags := library.tags ++ [⟨name, IdSet.empty.insert id⟩] }
    modify fun library => { library with tags := sortTags library.tags }

/-- Tagging in place does what tagging does. -/
theorem on_addTagCourse (library : Library) (id name : String) :
    (addTagCourse id name).on library =
      library.settle ((library.addTag id name).map fun tagged => ((), tagged)) := by
  unfold addTag
  rw [addTagCourse]
  by_cases hname : normalizeTag name = ""
  · simp only [hname, if_true]
    rfl
  · simp only [hname, if_false, Course.on_get_bind]
    cases (library.get? id).isNone with
    | true => rfl
    | false =>
      simp only [Bool.false_eq_true, if_false, Course.on_get_bind]
      cases library.tags.find? fun tag => tag.name = normalizeTag name <;> rfl

/-- Tagging fails for a blank name and for an identifier that the library does not have. -/
theorem addTag_eq_error_iff {library : Library} {id name : String} {error : StoreError} :
    library.addTag id name = .error error ↔
      normalizeTag name = "" ∧ error = .emptyTag ∨
        normalizeTag name ≠ "" ∧ id ∉ library.ids ∧ error = .notFound id := by
  rw [← get?_eq_none_iff]
  unfold addTag
  by_cases hname : normalizeTag name = ""
  · simp [hname, eq_comm]
  · cases library.get? id with
    | none => simp [hname, eq_comm]
    | some w =>
      simp only [hname, if_false, Option.isNone_some, Bool.false_eq_true, reduceCtorEq]
      split <;> simp

/-! ## Scanning -/

/-- Looks for the files under the folders, one folder after the other. -/
def findCourse (disk : Disk) (recursive : Bool) :
    List FilePath → Course (FilePath × DiskFault) (List FoundFile)
  | [] => return []
  | folder :: folders => do
    let files ←
      match disk.foundIn recursive folder with
      | .ok files => pure files
      | .error reason => throw (folder, reason)
    return files ++ (← findCourse disk recursive folders)

/-- Puts records in, one after the other, and counts what becomes of them.  One that is refused is
counted too, and does not stop the course. -/
def insertAllCourse {ε : Type} (policy : Policy) :
    ScanReport → List Wallpaper → Course ε ScanReport
  | report, [] => return report
  | report, w :: records => do
    let outcome ← ((insertCourse w policy).run : StateM Library (Except StoreError Inserted))
    insertAllCourse policy (report.count outcome) records

/-- Scans the folders, and drops the records that have no file any more. -/
def scanCourse (disk : Disk) (folders : List FilePath) (recursive : Bool) (policy : Policy) :
    Course (FilePath × DiskFault) ScanReport := do
  let files ← findCourse disk recursive folders
  let report ← insertAllCourse policy (reportFound disk files) (scanOrder (disk.records files))
  let removed ← modifyGet fun library => library.purge disk folders
  return { report with removed := removed.length }

/-- Looking for files leaves the library. -/
theorem on_findCourse (library : Library) (disk : Disk) (recursive : Bool)
    (folders : List FilePath) :
    (findCourse disk recursive folders).on library =
      (disk.foundInAll recursive folders, library) := by
  induction folders with
  | nil => rfl
  | cons folder folders ih =>
    rw [findCourse, Disk.foundInAll]
    cases disk.foundIn recursive folder with
    | error reason => rfl
    | ok files =>
      simp only [pure_bind, Course.on_bind, ih]
      cases disk.foundInAll recursive folders <;> rfl

/-- Inserting records in place does what inserting them does: a record that is refused leaves the
library to the next one as it was. -/
theorem on_insertAllCourse {ε : Type} (library : Library) (policy : Policy) (report : ScanReport)
    (records : List Wallpaper) :
    (insertAllCourse policy report records : Course ε ScanReport).on library =
      (.ok (library.insertAll policy report records).1,
        (library.insertAll policy report records).2) := by
  induction records generalizing library report with
  | nil => rfl
  | cons w records ih =>
    have hfirst : (liftM ((insertCourse w policy).run : StateM Library _) : Course ε _).on library =
        (.ok ((insertCourse w policy).on library).1, ((insertCourse w policy).on library).2) := rfl
    rw [insertAllCourse, insertAll, Course.on_bind, hfirst, on_insertCourse]
    cases library.insert w policy with
    | error error => exact ih library _
    | ok result => exact ih result.2 _

/-- Scanning in place does what scanning does. -/
theorem on_scanCourse (library : Library) (disk : Disk) (folders : List FilePath)
    (recursive : Bool) (policy : Policy) :
    (scanCourse disk folders recursive policy).on library =
      library.settle (library.scan disk folders recursive policy) := by
  rw [scanCourse, scan, Course.on_bind, on_findCourse]
  cases disk.foundInAll recursive folders with
  | error failure => rfl
  | ok files =>
    simp only [Course.on_bind, on_insertAllCourse]
    rfl

/-- Only a folder that is there, cannot be listed and is not searched to the bottom makes looking
for files fail. -/
theorem foundIn_eq_error_iff {disk : Disk} {recursive : Bool} {folder : FilePath}
    {reason : DiskFault} :
    disk.foundIn recursive folder = .error reason ↔
      recursive = false ∧ disk.isFolder folder = true ∧ disk.list folder = .error reason := by
  unfold Disk.foundIn
  cases hfolder : disk.isFolder folder with
  | false => simp
  | true =>
    cases recursive with
    | true =>
      rw [if_pos rfl, map_eq_error_iff, Disk.findImages, if_pos rfl]
      split <;> simp
    | false =>
      rw [if_pos rfl, map_eq_error_iff, Disk.findImages, if_neg Bool.false_ne_true, Disk.imagesIn]
      cases disk.list folder <;> simp [bind, Except.bind, pure, Except.pure]

/-- Looking for files under a folder goes well when the folder can be listed, or is not there. -/
theorem exists_foundIn_iff {disk : Disk} {folder : FilePath} :
    (∃ files, disk.foundIn false folder = .ok files) ↔
      (disk.isFolder folder = true → ∃ names, disk.list folder = .ok names) := by
  have hok {ε α : Type} (result : Except ε α) :
      (∃ value, result = .ok value) ↔ ∀ error, result ≠ .error error := by
    cases result <;> simp
  simp only [hok, ne_eq, foundIn_eq_error_iff, true_and, not_and]
  exact forall_comm

/-- Looking for files under some folders fails at the first one where that fails. -/
theorem foundInAll_eq_error_iff {disk : Disk} {recursive : Bool} {folders : List FilePath}
    {failure : FilePath × DiskFault} :
    disk.foundInAll recursive folders = .error failure ↔
      ∃ readable folder rest reason, folders = readable ++ folder :: rest ∧
        (∀ other ∈ readable, ∃ files, disk.foundIn recursive other = .ok files) ∧
        disk.foundIn recursive folder = .error reason ∧ failure = (folder, reason) := by
  induction folders with
  | nil => simp [Disk.foundInAll]
  | cons first folders ih =>
    rw [Disk.foundInAll]
    simp only [List.cons_eq_append_iff]
    cases hfirst : disk.foundIn recursive first with
    | error reason =>
      constructor
      · intro h
        cases h
        exact ⟨[], first, folders, reason, Or.inl ⟨rfl, rfl⟩, nofun, hfirst, rfl⟩
      · rintro ⟨readable, folder, rest, other, ⟨rfl, h⟩ | ⟨others, rfl, -⟩, hreadable, hfails, rfl⟩
        · obtain ⟨rfl, -⟩ := List.cons.inj h
          rw [hfirst] at hfails
          rw [Except.error.inj hfails]
        · obtain ⟨files, hfiles⟩ := hreadable first List.mem_cons_self
          rw [hfirst] at hfiles
          cases hfiles
    | ok files =>
      dsimp only
      rw [map_eq_error_iff, ih]
      constructor
      · rintro ⟨readable, folder, rest, reason, rfl, hreadable, hfails⟩
        refine ⟨first :: readable, folder, rest, reason, Or.inr ⟨readable, rfl, rfl⟩,
          fun other hother => ?_, hfails⟩
        rcases List.mem_cons.1 hother with rfl | hother
        · exact ⟨files, hfirst⟩
        · exact hreadable other hother
      · rintro ⟨readable, folder, rest, reason, ⟨rfl, h⟩ | ⟨others, rfl, rfl⟩, hreadable, hfails⟩
        · obtain ⟨rfl, -⟩ := List.cons.inj h
          rw [hfirst] at hfails
          cases hfails.1
        · exact ⟨others, folder, rest, reason, rfl,
            fun other hother => hreadable other (List.mem_cons_of_mem _ hother), hfails⟩

/-- A scan fails where it does not search folders to the bottom, at the first folder that is there
and cannot be listed. -/
theorem scan_eq_error_iff {library : Library} {disk : Disk} {folders : List FilePath}
    {recursive : Bool} {policy : Policy} {failure : FilePath × DiskFault} :
    library.scan disk folders recursive policy = .error failure ↔
      recursive = false ∧ ∃ readable folder rest reason, folders = readable ++ folder :: rest ∧
        (∀ other ∈ readable, disk.isFolder other = true → ∃ names, disk.list other = .ok names) ∧
        disk.isFolder folder = true ∧ disk.list folder = .error reason ∧
        failure = (folder, reason) := by
  rw [scan, map_eq_error_iff, foundInAll_eq_error_iff]
  simp only [foundIn_eq_error_iff]
  constructor
  · rintro ⟨readable, folder, rest, reason, hfolders, hreadable, ⟨rfl, hfolder, hlist⟩, hfailure⟩
    exact ⟨rfl, readable, folder, rest, reason, hfolders,
      fun other hother => exists_foundIn_iff.1 (hreadable other hother), hfolder, hlist, hfailure⟩
  · rintro ⟨rfl, readable, folder, rest, reason, hfolders, hreadable, hfolder, hlist, hfailure⟩
    exact ⟨readable, folder, rest, reason, hfolders,
      fun other hother => exists_foundIn_iff.2 (hreadable other hother), ⟨rfl, hfolder, hlist⟩,
      hfailure⟩

/-! ## Failures -/

/-- Inserting, tagging and scanning in place, on a library that operations make from the empty one.
Each of them ends well with the same outcome and the same library as the operation that gives a
library back.  When it fails, the library is the one from before, with its records, their order and
their tags.  An insert fails where duplicates are refused and a file at another path has the
identifier; tagging fails for a name that is blank and for an identifier that no record has; a scan
that does not search folders to the bottom fails at the first folder that is there and cannot be
listed, wherever it stands among the folders. -/
theorem course_fails_iff_run_empty (operations : List Operation) (after : Library) :
    (∀ (w : Wallpaper) (policy : Policy),
      (∀ outcome, (insertCourse w policy).on (empty.run operations) = (.ok outcome, after) ↔
        (empty.run operations).insert w policy = .ok (outcome, after)) ∧
      ∀ error, (insertCourse w policy).on (empty.run operations) = (.error error, after) ↔
        after = empty.run operations ∧ policy = .reject ∧
          ∃ existing ∈ (empty.run operations).wallpapers, existing.id = w.id ∧
            existing.path.same w.path = false ∧ error = .duplicateId w.id existing.path) ∧
    (∀ id name : String,
      ((addTagCourse id name).on (empty.run operations) = (.ok (), after) ↔
        (empty.run operations).addTag id name = .ok after) ∧
      ∀ error, (addTagCourse id name).on (empty.run operations) = (.error error, after) ↔
        after = empty.run operations ∧
          (normalizeTag name = "" ∧ error = .emptyTag ∨
            normalizeTag name ≠ "" ∧ id ∉ (empty.run operations).ids ∧ error = .notFound id)) ∧
    ∀ (disk : Disk) (folders : List FilePath) (recursive : Bool) (policy : Policy),
      (∀ report, (scanCourse disk folders recursive policy).on (empty.run operations) =
          (.ok report, after) ↔
        (empty.run operations).scan disk folders recursive policy = .ok (report, after)) ∧
      ∀ failure, (scanCourse disk folders recursive policy).on (empty.run operations) =
          (.error failure, after) ↔
        after = empty.run operations ∧ recursive = false ∧
          ∃ readable folder rest reason, folders = readable ++ folder :: rest ∧
            (∀ other ∈ readable, disk.isFolder other = true →
              ∃ names, disk.list other = .ok names) ∧
            disk.isFolder folder = true ∧ disk.list folder = .error reason ∧
            failure = (folder, reason) := by
  have h := consistent_empty.run operations
  generalize empty.run operations = library at h
  refine ⟨fun w policy => ⟨fun outcome => ?_, fun error => ?_⟩,
    fun id name => ⟨?_, fun error => ?_⟩,
    fun disk folders recursive policy => ⟨fun report => ?_, fun failure => ?_⟩⟩
  · rw [on_insertCourse, settle_eq_ok_iff]
  · rw [on_insertCourse, settle_eq_error_iff, insert_eq_error_iff]
    simp only [get?_eq_some_iff h.idsDistinct, and_assoc]
  · rw [on_addTagCourse, settle_eq_ok_iff]
    cases library.addTag id name <;> simp [Except.map]
  · rw [on_addTagCourse, settle_eq_error_iff, map_eq_error_iff, addTag_eq_error_iff]
  · rw [on_scanCourse, settle_eq_ok_iff]
  · rw [on_scanCourse, settle_eq_error_iff, scan_eq_error_iff]

end Library

end WallpaperRotation
