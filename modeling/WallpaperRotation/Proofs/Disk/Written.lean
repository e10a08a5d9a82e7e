/-
# Other paths when a file is written

A file that is written, new or in the stead of another one, is where some paths lead now.  Every
other path leads where it did before, or nowhere as before.
-/
import WallpaperRotation.Proofs.Disk.Spelling
import WallpaperRotation.Proofs.Disk.WriteRead
import WallpaperRotation.Proofs.Storage

namespace WallpaperRotation.Disk

/-! ## Before and after -/

/-- How moves stop before and after a file is put at a place: alike and not at the place, at two
refusals, or at the file where the place was found before or the moves were refused. -/
inductive StopsBeside (target : Place) (file : Node) : Stop → Stop → Prop where
  | same {stop : Stop} (h : ∀ landing : Landing, stop = landing.stop → landing.place ≠ target) :
    StopsBeside target file stop stop
  | refused (reason other : DiskFault) : StopsBeside target file (.refused reason) (.refused other)
  | found {landing : Landing} (h : landing.place = target) :
    StopsBeside target file landing.stop (.entry target file)
  | appeared (reason : DiskFault) : StopsBeside target file (.refused reason) (.entry target file)

/-- How walks end before and after a file is put at a place. -/
inductive EndsBeside (target : Place) (file : Node) :
    Except DiskFault Landing → Except DiskFault Landing → Prop where
  | same {landing : Landing} (h : landing.place ≠ target) :
    EndsBeside target file (.ok landing) (.ok landing)
  | refused (reason other : DiskFault) : EndsBeside target file (.error reason) (.error other)
  | found {landing : Landing} (h : landing.place = target) :
    EndsBeside target file (.ok landing) (.ok (.entry target file))
  | appeared (reason : DiskFault) :
    EndsBeside target file (.error reason) (.ok (.entry target file))

variable {disk : Disk} {target : Place}

/-- Moves go the same way, or stop at the file, when it is put at a place. -/
theorem IsWritable.descend (h : disk.IsWritable target) (bytes : ByteArray) (modified : Int)
    (place : Place) (hops : List Hop) :
    StopsBeside target (.file bytes modified) (disk.descend true place hops)
      ((disk.set target (.file bytes modified)).descend true place hops) := by
  have hself := node?_set_self disk (.file bytes modified) h.ne_nil
  have hother {place : Place} (hne : place ≠ target) :=
    node?_set_of_ne disk (.file bytes modified) hne
  induction hops generalizing place with
  | nil =>
    unfold Disk.descend
    by_cases hplace : place = target
    · rw [hplace, hself]
      rcases h with hnone | ⟨old, age, hold⟩
      · rw [hnone]
        exact .appeared .noEntry
      · rw [hold]
        have hplace : (Landing.entry target (.file old age)).place = target := rfl
        exact .found hplace
    · rw [hother hplace]
      cases disk.node? place with
      | none => exact .refused .noEntry .noEntry
      | some node =>
        refine .same fun landing hlanding => ?_
        cases landing with
        | entry found node' =>
          obtain ⟨rfl, -⟩ := Stop.entry.inj hlanding
          exact hplace
        | vacancy folder name => cases hlanding
  | cons hop hops ih =>
    unfold Disk.descend
    by_cases hplace : place = target
    · rw [hplace, hself]
      rcases h with hnone | ⟨old, age, hold⟩
      · rw [hnone]
        exact .refused .noEntry .notFolder
      · rw [hold]
        exact .refused .notFolder .notFolder
    · rw [hother hplace]
      cases disk.node? place with
      | none => exact .refused .noEntry .noEntry
      | some node =>
        cases node with
        | file old age => exact .refused .notFolder .notFolder
        | link text => exact .refused .notFolder .notFolder
        | folder listable =>
          cases hop with
          | stay => exact ih place
          | up => exact ih place.dropLast
          | into name =>
            by_cases hlength : name.utf8ByteSize > longestName
            · simp only [if_pos hlength]
              exact .refused .nameTooLong .nameTooLong
            · simp only [if_neg hlength]
              by_cases hnext : place ++ [name] = target
              · -- The name is that of the file, behind which one can go no further.
                rw [hnext, hself]
                rcases h with hnone | ⟨old, age, hold⟩
                · rw [hnone]
                  cases hops with
                  | nil =>
                    have hplace : (Landing.vacancy place name).place = target := hnext
                    have hstop : StopsBeside target (.file bytes modified) (.vacancy place name)
                        (.entry target (.file bytes modified)) := .found hplace
                    simpa [Disk.descend, hself] using hstop
                  | cons hop hops =>
                    simpa [Disk.descend, hself] using StopsBeside.refused .noEntry .notFolder
                · rw [hold]
                  exact ih target
              · rw [hother hnext]
                cases disk.node? (place ++ [name]) with
                | none =>
                  by_cases hlast : hops = []
                  · simp only [if_pos hlast]
                    refine .same fun landing hlanding => ?_
                    cases landing with
                    | entry found node => cases hlanding
                    | vacancy folder last =>
                      obtain ⟨rfl, rfl⟩ := Stop.vacancy.inj hlanding
                      exact hnext
                  · simp only [if_neg hlast]
                    exact .refused .noEntry .noEntry
                | some next =>
                  cases next with
                  | folder listable => exact ih _
                  | file old age => exact ih _
                  | link text =>
                    simp only [Bool.not_true, Bool.false_eq_true, and_false, if_false]
                    exact .same fun landing hlanding =>
                      absurd hlanding.symm (landing.stop_ne_link place text hops)

/-- Walks go the same way, or end at the file, when it is put at a place. -/
theorem IsWritable.walk (h : disk.IsWritable target) (bytes : ByteArray) (modified : Int)
    (fuel : Nat) (place : Place) (hops : List Hop) :
    EndsBeside target (.file bytes modified) (disk.walk true fuel place hops)
      ((disk.set target (.file bytes modified)).walk true fuel place hops) := by
  induction fuel using Nat.strongRecOn generalizing place hops with
  | ind fuel ih =>
    have hstops := h.descend bytes modified place hops
    rw [walk.eq_def disk, walk.eq_def (disk.set target (.file bytes modified))]
    dsimp only
    generalize disk.descend true place hops = stop at hstops ⊢
    generalize (disk.set target (.file bytes modified)).descend true place hops = stop' at hstops ⊢
    cases hstops with
    | refused reason other => exact .refused reason other
    | appeared reason => exact .appeared reason
    | @found landing hlanding =>
      cases landing with
      | entry found node => exact .found hlanding
      | vacancy folder name => exact .found hlanding
    | same hbeside =>
      cases stop with
      | entry found node => exact .same (hbeside (.entry found node) rfl)
      | vacancy folder name => exact .same (hbeside (.vacancy folder name) rfl)
      | refused reason => exact .refused reason reason
      | link folder text rest =>
        cases fuel with
        | zero => exact .refused .tooManyLinks .tooManyLinks
        | succ fuel => exact ih fuel (Nat.lt_succ_self fuel) _ _

/-- Paths lead the same way, or to the file, when it is put at a place. -/
theorem IsWritable.land (h : disk.IsWritable target) (bytes : ByteArray) (modified : Int)
    (path : FilePath) :
    EndsBeside target (.file bytes modified) (disk.land true path)
      ((disk.set target (.file bytes modified)).land true path) := by
  unfold Disk.land
  split
  · exact .refused .nulInPath .nulInPath
  · split
    · exact .refused .noEntry .noEntry
    · split
      · exact .refused .nameTooLong .nameTooLong
      · exact h.walk bytes modified linkLimit _ path.hops

/-! ## Paths to other places -/

/-- An entry is still there when a file was put elsewhere. -/
theorem IsWritable.entry_set (h : disk.IsWritable target) (bytes : ByteArray) (modified : Int)
    {path : FilePath} {place : Place} {node : Node}
    (hentry : disk.entry true path = .ok (place, node)) (hne : place ≠ target) :
    (disk.set target (.file bytes modified)).entry true path = .ok (place, node) := by
  have hends := h.land bytes modified path
  rw [land_of_entry hentry] at hends
  unfold entry
  generalize (disk.set target (.file bytes modified)).land true path = result at hends
  cases hends with
  | same => rfl
  | found hplace => exact absurd hplace hne

/-- A path that leads to an entry still does so when a file was put somewhere. -/
theorem IsWritable.exists_entry_set (h : disk.IsWritable target) (bytes : ByteArray)
    (modified : Int) {path : FilePath} {place : Place} {node : Node}
    (hentry : disk.entry true path = .ok (place, node)) :
    ∃ place' node', (disk.set target (.file bytes modified)).entry true path =
      .ok (place', node') := by
  have hends := h.land bytes modified path
  rw [land_of_entry hentry] at hends
  unfold entry
  generalize (disk.set target (.file bytes modified)).land true path = result at hends
  cases hends with
  | same => exact ⟨_, _, rfl⟩
  | found => exact ⟨_, _, rfl⟩

/-- A path that leads to another place than the file's did so before the file was put there. -/
theorem IsWritable.entry_of_set (h : disk.IsWritable target) {bytes : ByteArray} {modified : Int}
    {path : FilePath} {place : Place} {node : Node}
    (hentry : (disk.set target (.file bytes modified)).entry true path = .ok (place, node))
    (hne : place ≠ target) : disk.entry true path = .ok (place, node) := by
  have hends := h.land bytes modified path
  rw [land_of_entry hentry] at hends
  unfold entry
  generalize disk.land true path = result at hends
  cases hends with
  | same => rfl
  | found hplace => exact absurd rfl hne
  | appeared reason => exact absurd rfl hne

/-- Two paths are apart when a file was put where the first one does not lead, if they were
before. -/
theorem IsWritable.areApart_set (h : disk.IsWritable target) (bytes : ByteArray) (modified : Int)
    {path other : FilePath} {place : Place} {node : Node}
    (hentry : disk.entry true path = .ok (place, node)) (hne : place ≠ target)
    (hapart : disk.areApart path other = true) :
    (disk.set target (.file bytes modified)).areApart path other = true := by
  unfold areApart
  rw [h.entry_set bytes modified hentry hne]
  cases hother : (disk.set target (.file bytes modified)).entry true other with
  | error reason => rfl
  | ok found =>
    obtain ⟨place', node'⟩ := found
    by_cases htarget : place' = target
    · simpa [htarget] using hne
    · have hbefore := h.entry_of_set hother htarget
      simpa [areApart, hentry, hbefore] using hapart

/-! ## Documents saved -/

variable {document : Document} {path : FilePath} {text : String} {saved : Disk}

/-- Where no folder has to be made, saving a document that fails changes nothing, and else a file is
put where the path leads. -/
theorem saveText_cases (hparents : disk.makeParents path = .ok disk) (document : Document)
    (text : String) :
    (∃ failure, disk.saveText document path text = (.error failure, disk)) ∨
      ∃ landing, disk.land true path = .ok landing ∧ disk.IsWritable landing.place ∧
        disk.saveText document path text =
          (.ok (), disk.set landing.place (.file text.toUTF8 disk.clock)) := by
  unfold saveText
  simp only [hparents]
  cases hwrite : disk.writeText path text with
  | error reason => exact Or.inl ⟨_, rfl⟩
  | ok written =>
    refine Or.inr ?_
    unfold writeText write at hwrite
    cases hland : disk.land true path.withoutTrail with
    | error reason =>
      rw [hland] at hwrite
      cases hwrite
    | ok landing =>
      simp only [hland] at hwrite
      split at hwrite
      · cases hwrite
      · rename_i htrail
        rw [FilePath.withoutTrail_eq_self (by simpa using htrail)] at hland
        have hnode := node?_of_land hland
        cases landing with
        | vacancy folder name =>
          obtain rfl := Except.ok.inj hwrite
          exact ⟨_, hland, Or.inl hnode, rfl⟩
        | entry place node =>
          cases node with
          | file old age =>
            obtain rfl := Except.ok.inj hwrite
            exact ⟨_, hland, Or.inr ⟨old, age, hnode⟩, rfl⟩
          | folder listable => cases hwrite
          | link target => cases hwrite

/-- A path that leads to an entry, apart from a path that leads somewhere, does not lead to the
place where that one leads. -/
theorem ne_place_of_areApart {other : FilePath} {place : Place} {node : Node} {landing : Landing}
    (hentry : disk.entry true path = .ok (place, node)) (hland : disk.land true other = .ok landing)
    (hapart : disk.areApart path other = true) : place ≠ landing.place := by
  rintro rfl
  cases landing with
  | vacancy folder name =>
    have hnode := node?_of_entry hentry
    rw [node?_of_land hland] at hnode
    cases hnode
  | entry found node' =>
    have hother : disk.entry true other = .ok (found, node') := by rw [entry, hland]
    simp [areApart, hentry, hother, Landing.place] at hapart

/-- An entry is still there after a document was saved, or was not, at a place of its own. -/
theorem entry_saveText {other : FilePath} {place : Place} {node : Node}
    (hentry : disk.entry true other = .ok (place, node))
    (hapart : (disk.saveText document path text).2.areApart other path = true) :
    (disk.saveText document path text).2.entry true other = .ok (place, node) := by
  unfold saveText at hapart ⊢
  cases hparents : disk.makeParents path with
  | error fault => exact (grows_makeParents_of_error hparents).entry hentry
  | ok grown =>
    have hgrown := (grows_makeParents hparents).entry hentry
    simp only [hparents] at hapart ⊢
    cases hwrite : grown.writeText path text with
    | error reason => exact hgrown
    | ok written =>
      simp only [hwrite] at hapart ⊢
      obtain ⟨target, hwritable, rfl, hpath⟩ := write_eq_ok hwrite
      by_cases hsame : place = target
      · -- At one place with the document, the path would lead there.
        have hother := entry_of_extends (hwritable.extends_set (.file text.toUTF8 grown.clock))
          (node?_set_self grown _ hwritable.ne_nil) (land_of_entry hgrown) hsame
        rw [areApart, hother, hpath] at hapart
        simp at hapart
      · exact hwritable.entry_set _ _ hgrown hsame

/-- A document is still there after another one was saved at a place of its own. -/
theorem Keeps.saveText {other : FilePath} {otherText : String} (hkeeps : disk.Keeps path text)
    (h : disk.saveText document other otherText = (.ok (), saved))
    (hapart : saved.areApart path other = true) : saved.Keeps path text := by
  obtain ⟨place, modified, hentry⟩ := hkeeps
  obtain rfl : (disk.saveText document other otherText).2 = saved := congrArg Prod.snd h
  exact ⟨place, modified, entry_saveText hentry hapart⟩

end WallpaperRotation.Disk
