/-
# What is in files does not matter

A walk looks at folders and links, and at a file only for it being one.  So on disks that differ in
nothing but what is in their files, paths lead to the same places, the same folders are made, and
the same documents can be saved.
-/
import WallpaperRotation.Proofs.Disk.Above
import WallpaperRotation.Proofs.Disk.Written

namespace WallpaperRotation

/-- The node without what is in it, when it is a file. -/
def Node.shape : Node → Node
  | .file _ _ => .file ByteArray.empty 0
  | node => node

namespace Disk

/-- The stop without what is in the file at it. -/
def Stop.shape : Stop → Stop
  | .entry place node => .entry place node.shape
  | stop => stop

/-- The end of a walk without what is in the file at it. -/
def Landing.shape : Landing → Landing
  | .entry place node => .entry place node.shape
  | landing => landing

/-- The disks differ in nothing but what is in their files. -/
structure Alike (disk other : Disk) : Prop where
  here : other.here = disk.here
  node : ∀ place, (other.node? place).map Node.shape = (disk.node? place).map Node.shape

variable {disk other : Disk}

/-- At each place both disks have nothing, or the same folder or link, or a file. -/
theorem Alike.node_cases (h : disk.Alike other) (place : Place) :
    (disk.node? place = none ∧ other.node? place = none) ∨
      (∃ listable, disk.node? place = some (.folder listable) ∧
        other.node? place = some (.folder listable)) ∨
      (∃ text, disk.node? place = some (.link text) ∧ other.node? place = some (.link text)) ∨
      ∃ bytes modified bytes' modified', disk.node? place = some (.file bytes modified) ∧
        other.node? place = some (.file bytes' modified') := by
  have hshape := h.node place
  cases hnode : disk.node? place with
  | none =>
    cases hother : other.node? place <;> simp_all
  | some node =>
    cases hother : other.node? place with
    | none => simp_all
    | some node' => cases node <;> cases node' <;> simp_all [Node.shape]

/-! ## Walks -/

/-- Moves stop alike. -/
theorem Alike.descend (h : disk.Alike other) (follow : Bool) (place : Place) (hops : List Hop) :
    (other.descend follow place hops).shape = (disk.descend follow place hops).shape := by
  induction hops generalizing place with
  | nil =>
    unfold Disk.descend
    rcases h.node_cases place with ⟨hnode, hother⟩ | ⟨listable, hnode, hother⟩ |
      ⟨text, hnode, hother⟩ | ⟨bytes, modified, bytes', modified', hnode, hother⟩ <;>
      simp [hnode, hother, Stop.shape, Node.shape]
  | cons hop hops ih =>
    unfold Disk.descend
    rcases h.node_cases place with ⟨hnode, hother⟩ | ⟨listable, hnode, hother⟩ |
      ⟨text, hnode, hother⟩ | ⟨bytes, modified, bytes', modified', hnode, hother⟩
    · simp [hnode, hother]
    · simp only [hnode, hother]
      cases hop with
      | stay => exact ih place
      | up => exact ih place.dropLast
      | into name =>
        by_cases hlength : name.utf8ByteSize > longestName
        · simp only [if_pos hlength]
        · simp only [if_neg hlength]
          rcases h.node_cases (place ++ [name]) with ⟨hnext, hother⟩ | ⟨listable, hnext, hother⟩ |
            ⟨text, hnext, hother⟩ | ⟨bytes, modified, bytes', modified', hnext, hother⟩
          · simp only [hnext, hother]
          · simp only [hnext, hother]
            exact ih _
          · simp only [hnext, hother]
          · simp only [hnext, hother]
            exact ih _
    · simp [hnode, hother]
    · simp [hnode, hother]

/-- Walks end alike. -/
theorem Alike.walk (h : disk.Alike other) (follow : Bool) (fuel : Nat) (place : Place)
    (hops : List Hop) :
    (other.walk follow fuel place hops).map Landing.shape =
      (disk.walk follow fuel place hops).map Landing.shape := by
  induction fuel generalizing place hops with
  | zero =>
    have hstop := h.descend follow place hops
    rw [walk.eq_def, walk.eq_def disk]
    cases hdisk : disk.descend follow place hops <;>
      cases hother : other.descend follow place hops <;>
      simp_all [Stop.shape, Except.map, Landing.shape]
  | succ fuel ih =>
    have hstop := h.descend follow place hops
    rw [walk.eq_def, walk.eq_def disk]
    cases hdisk : disk.descend follow place hops <;>
      cases hother : other.descend follow place hops <;>
      simp_all [Stop.shape, Except.map, Landing.shape]

/-- Paths lead alike. -/
theorem Alike.land (h : disk.Alike other) (follow : Bool) (path : FilePath) :
    (other.land follow path).map Landing.shape = (disk.land follow path).map Landing.shape := by
  unfold Disk.land
  rw [h.here]
  split
  · rfl
  · split
    · rfl
    · split
      · rfl
      · exact h.walk follow linkLimit _ path.hops

/-- The ends of two walks are alike: both walks are refused for the same reason, end at an entry of
the same place, or end at the same vacancy. -/
theorem Alike.land_cases (h : disk.Alike other) (follow : Bool) (path : FilePath) :
    (∃ reason, disk.land follow path = .error reason ∧ other.land follow path = .error reason) ∨
      (∃ place node node', disk.land follow path = .ok (.entry place node) ∧
        other.land follow path = .ok (.entry place node') ∧ node'.shape = node.shape) ∨
      ∃ folder name, disk.land follow path = .ok (.vacancy folder name) ∧
        other.land follow path = .ok (.vacancy folder name) := by
  have hshape := h.land follow path
  cases hland : disk.land follow path with
  | error reason =>
    cases hother : other.land follow path <;> simp_all [Except.map]
  | ok landing =>
    cases hother : other.land follow path with
    | error reason => simp_all [Except.map]
    | ok landing' =>
      rw [hland, hother] at hshape
      have hends : landing'.shape = landing.shape := Except.ok.inj hshape
      cases landing with
      | entry place node =>
        cases landing' with
        | entry place' node' =>
          obtain ⟨rfl, hnode⟩ := Landing.entry.inj hends
          exact Or.inr (Or.inl ⟨_, node, node', rfl, rfl, hnode⟩)
        | vacancy folder name => cases hends
      | vacancy folder name =>
        cases landing' with
        | entry place' node' => cases hends
        | vacancy folder' name' =>
          obtain ⟨rfl, rfl⟩ := Landing.vacancy.inj hends
          exact Or.inr (Or.inr ⟨_, _, rfl, rfl⟩)

/-- Paths lead to the same place on both disks, or to none on either. -/
theorem Alike.areApart (h : disk.Alike other) (path second : FilePath) :
    other.areApart path second = disk.areApart path second := by
  unfold Disk.areApart entry
  rcases h.land_cases true path with ⟨reason, hdisk, hother⟩ |
      ⟨place, node, node', hdisk, hother, -⟩ | ⟨folder, name, hdisk, hother⟩ <;>
    rcases h.land_cases true second with ⟨reason', hdisk', hother'⟩ |
      ⟨place', node₂, node₂', hdisk', hother', -⟩ | ⟨folder', name', hdisk', hother'⟩ <;>
    simp [hdisk, hother, hdisk', hother']

/-- Paths lead to folders alike. -/
theorem Alike.isFolder (h : disk.Alike other) (path : FilePath) :
    other.isFolder path = disk.isFolder path := by
  unfold Disk.isFolder entry
  rcases h.land_cases true path with ⟨reason, hdisk, hother⟩ |
    ⟨place, node, node', hdisk, hother, hshape⟩ | ⟨folder, name, hdisk, hother⟩
  · simp [hdisk, hother]
  · cases node <;> cases node' <;> simp_all [Node.shape]
  · simp [hdisk, hother]

/-! ## Files and folders -/

/-- An entry of the same shape is put at one place of both disks. -/
theorem Alike.set (h : disk.Alike other) {place : Place} (hplace : place ≠ []) {node node' : Node}
    (hshape : node'.shape = node.shape) : (disk.set place node).Alike (other.set place node') := by
  refine ⟨h.here, fun target => ?_⟩
  by_cases htarget : target = place
  · rw [htarget, node?_set_self disk node hplace, node?_set_self other node' hplace,
      Option.map_some, Option.map_some, hshape]
  · rw [node?_set_of_ne disk node htarget, node?_set_of_ne other node' htarget]
    exact h.node target

/-- A file in the stead of another one makes no difference. -/
theorem alike_set_file {place : Place} {bytes : ByteArray} {modified : Int}
    (h : disk.node? place = some (.file bytes modified)) (bytes' : ByteArray) (modified' : Int) :
    disk.Alike (disk.set place (.file bytes' modified')) := by
  have hplace : place ≠ [] := by
    rintro rfl
    cases h
  refine ⟨rfl, fun target => ?_⟩
  by_cases htarget : target = place
  · rw [htarget, node?_set_self disk _ hplace, h]
    rfl
  · rw [node?_set_of_ne disk _ htarget]

/-- What comes of making something on either disk: like disks, or the same refusal. -/
inductive CameAlike : Except DiskFault Disk → Except DiskFault Disk → Prop where
  | made {disk other : Disk} (h : disk.Alike other) : CameAlike (.ok disk) (.ok other)
  | refused (reason : DiskFault) : CameAlike (.error reason) (.error reason)

/-- A folder is made on both disks or on neither. -/
theorem Alike.makeFolder (h : disk.Alike other) (path : FilePath) :
    CameAlike (disk.makeFolder path) (other.makeFolder path) := by
  unfold Disk.makeFolder
  rcases h.land_cases false path.withoutTrail with ⟨reason, hdisk, hother⟩ |
    ⟨place, node, node', hdisk, hother, -⟩ | ⟨folder, name, hdisk, hother⟩
  · simp only [hdisk, hother]
    exact .refused reason
  · simp only [hdisk, hother]
    exact .refused .taken
  · simp only [hdisk, hother]
    exact .made (h.set (by simp) rfl)

/-- A folder is there in the end on both disks or on neither. -/
theorem Alike.ensureFolder (h : disk.Alike other) (path : FilePath) :
    CameAlike (disk.ensureFolder path) (other.ensureFolder path) := by
  have hmake := h.makeFolder path
  unfold Disk.ensureFolder
  rw [h.isFolder]
  generalize disk.makeFolder path = made at hmake ⊢
  generalize other.makeFolder path = made' at hmake ⊢
  cases hmake with
  | made hmade => exact .made hmade
  | refused reason =>
    dsimp only
    split
    · exact .made h
    · exact .refused reason

/-- Folders are made on both disks or on neither. -/
theorem Alike.makeFoldersUpTo (h : disk.Alike other) (levels : Nat) (path : FilePath) :
    CameAlike ((disk.makeFoldersUpTo levels path).mapError Prod.fst)
      ((other.makeFoldersUpTo levels path).mapError Prod.fst) := by
  induction levels generalizing path with
  | zero => exact .made h
  | succ levels ih =>
    have hensure := h.ensureFolder path
    unfold Disk.makeFoldersUpTo
    by_cases hnone : path.components = []
    · rw [if_pos hnone, if_pos hnone]
      exact .made h
    · rw [if_neg hnone, if_neg hnone]
      generalize disk.ensureFolder path = made at hensure ⊢
      generalize other.ensureFolder path = made' at hensure ⊢
      cases hensure with
      | made hmade => exact .made hmade
      | refused reason =>
        cases reason with
        | noEntry =>
          cases path.parent? with
          | none => exact .refused .noEntry
          | some parent =>
            -- The folders above are made alike, and then the folder.
            have habove := ih parent
            dsimp only
            generalize disk.makeFoldersUpTo levels parent = above at habove ⊢
            generalize other.makeFoldersUpTo levels parent = above' at habove ⊢
            cases above with
            | error fault =>
              cases above' with
              | error fault' => exact habove
              | ok other => cases habove
            | ok disk =>
              cases above' with
              | error fault' => cases habove
              | ok other =>
                have hlike : disk.Alike other := by
                  cases habove with
                  | made hlike => exact hlike
                have hlast := hlike.ensureFolder path
                dsimp only
                generalize disk.ensureFolder path = made at hlast ⊢
                generalize other.ensureFolder path = made' at hlast ⊢
                cases hlast with
                | made hmade => exact .made hmade
                | refused reason => exact .refused reason
        | _ => exact .refused _

/-- The folders above a path are made on both disks or on neither. -/
theorem Alike.makeParents (h : disk.Alike other) (path : FilePath) :
    CameAlike ((disk.makeParents path).mapError Prod.fst)
      ((other.makeParents path).mapError Prod.fst) := by
  unfold Disk.makeParents makeFolders
  cases path.parent? with
  | none => exact .made h
  | some parent => exact h.makeFoldersUpTo _ parent

/-- A file is written on both disks or on neither. -/
theorem Alike.write (h : disk.Alike other) (path : FilePath) (bytes : ByteArray) :
    CameAlike (disk.write path bytes) (other.write path bytes) := by
  unfold Disk.write
  rcases h.land_cases true path.withoutTrail with ⟨reason, hdisk, hother⟩ |
    ⟨place, node, node', hdisk, hother, hshape⟩ | ⟨folder, name, hdisk, hother⟩
  · simp only [hdisk, hother]
    exact .refused reason
  · have hnode := node?_of_land hdisk
    simp only [hdisk, hother]
    split
    · exact .refused .isFolder
    · cases node with
      | folder listable => cases node' <;> first | exact .refused .isFolder | cases hshape
      | link text => cases node' <;> first | exact .refused .isFolder | cases hshape
      | file old age =>
        cases node' with
        | folder listable => cases hshape
        | link text => cases hshape
        | file old' age' =>
          refine .made (h.set ?_ rfl)
          rintro rfl
          cases hnode
  · simp only [hdisk, hother]
    split
    · exact .refused .isFolder
    · exact .made (h.set (by simp) rfl)

/-- A document can be saved on both disks or on neither. -/
theorem Alike.takes_iff (h : disk.Alike other) (path : FilePath) :
    other.Takes path ↔ disk.Takes path := by
  have hparents := h.makeParents path
  unfold Takes saveText
  generalize disk.makeParents path = made at hparents ⊢
  generalize other.makeParents path = made' at hparents ⊢
  cases made with
  | error fault =>
    cases made' with
    | error fault' => exact ⟨fun hok => (by cases hok), fun hok => (by cases hok)⟩
    | ok other => cases hparents
  | ok disk =>
    cases made' with
    | error fault' => cases hparents
    | ok other =>
      have hlike : disk.Alike other := by
        cases hparents with
        | made hlike => exact hlike
      have hwrite : CameAlike (disk.writeText path "") (other.writeText path "") :=
        hlike.write path _
      dsimp only
      generalize disk.writeText path "" = written at hwrite ⊢
      generalize other.writeText path "" = written' at hwrite ⊢
      cases hwrite with
      | made => exact Iff.rfl
      | refused reason => exact Iff.rfl

/-! ## Documents overwritten -/

/-- A path that ends with a separator leads to folders only. -/
theorem hasTrail_eq_false {path : FilePath} {place : Place} {bytes : ByteArray} {modified : Int}
    (h : disk.entry true path = .ok (place, .file bytes modified)) : path.hasTrail = false := by
  refine decide_eq_false fun htrail => ?_
  obtain ⟨text, htext⟩ := List.getLast?_eq_some_iff.1 htrail
  have hhops : path.hops = (FilePath.pieces text).map Hop.ofPiece ++ [.stay] := by
    rw [FilePath.hops, htext, FilePath.pieces_append_separator, List.map_append]
    rfl
  have hwalk := walk_of_entry h
  rw [hhops] at hwalk
  -- Before the separator the walk is at a folder, and the separator does not lead away from it.
  obtain ⟨found, listable, hfolder⟩ := exists_folder_of_walk_append hwalk
  have htrims : Trims ((FilePath.pieces text).map Hop.ofPiece ++ [.stay])
      ((FilePath.pieces text).map Hop.ofPiece ++ []) := (Trims.drop .nil).append_left _
  rw [List.append_nil] at htrims
  rw [walk_trims htrims hwalk] at hfolder
  cases hfolder

/-- A document that is saved where there is a file takes the stead of the file. -/
theorem saveText_of_file {path : FilePath} {place : Place} {bytes : ByteArray} {modified : Int}
    (h : disk.entry true path = .ok (place, .file bytes modified)) (document : Document)
    (text : String) :
    disk.saveText document path text = (.ok (), disk.set place (.file text.toUTF8 disk.clock)) := by
  have hland := land_of_entry h
  have htrail := hasTrail_eq_false h
  unfold saveText writeText write
  rw [makeParents_eq_self hland fun _ hbelow => hbelow]
  simp only [FilePath.withoutTrail_eq_self htrail, hland, htrail]
  rfl

/-- What another path leads to is as it was when a file is overwritten. -/
theorem entry_set_file {path second : FilePath} {place : Place} {bytes : ByteArray} {modified : Int}
    (h : disk.entry true path = .ok (place, .file bytes modified))
    (hapart : disk.areApart path second = true) (bytes' : ByteArray) (modified' : Int) :
    (disk.set place (.file bytes' modified')).entry true second = disk.entry true second := by
  have hnode := node?_of_entry h
  cases hsecond : disk.entry true second with
  | ok found =>
    obtain ⟨place', node⟩ := found
    have hne : place' ≠ place := by
      rintro rfl
      simp [Disk.areApart, h, hsecond] at hapart
    exact IsWritable.entry_set (Or.inr ⟨bytes, modified, hnode⟩) bytes' modified' hsecond hne
  | error reason =>
    unfold entry at hsecond ⊢
    rcases (alike_set_file hnode bytes' modified').land_cases true second with
      ⟨reason', hland, hland'⟩ | ⟨place', node, node', hland, -, -⟩ |
      ⟨folder, name, hland, hland'⟩
    · rw [hland']
      rwa [hland] at hsecond
    · rw [hland] at hsecond
      cases hsecond
    · rw [hland']
      rwa [hland] at hsecond

/-- Where there is a file a document is saved, only what is in files is different then, and other
paths lead to what they led to. -/
theorem exists_saveText_of_file {path : FilePath} {place : Place} {bytes : ByteArray}
    {modified : Int} (h : disk.entry true path = .ok (place, .file bytes modified))
    (document : Document) (text : String) :
    ∃ saved, disk.saveText document path text = (.ok (), saved) ∧ disk.Alike saved ∧
      ∀ second, disk.areApart path second = true →
        saved.entry true second = disk.entry true second :=
  ⟨_, saveText_of_file h document text, alike_set_file (node?_of_entry h) _ _,
    fun _ hapart => entry_set_file h hapart _ _⟩

/-- Two paths that are not apart lead to one entry. -/
theorem exists_entry_of_not_areApart {path second : FilePath}
    (h : disk.areApart path second = false) :
    ∃ place node, disk.entry true path = .ok (place, node) ∧
      disk.entry true second = .ok (place, node) := by
  unfold Disk.areApart at h
  split at h
  · rename_i place node place' node' hpath hsecond
    obtain rfl : place = place' := by simpa using h
    have hnode := (node?_of_entry hpath).symm.trans (node?_of_entry hsecond)
    exact ⟨place, node, hpath, by rw [hsecond, Option.some.inj hnode]⟩
  · cases h

end Disk

end WallpaperRotation
