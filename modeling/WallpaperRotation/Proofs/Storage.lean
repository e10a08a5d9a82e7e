/-
# Documents read back

A document that was saved is read back.  Whether one can be saved depends on the path and not on the
text, and two of them are kept apart unless their paths lead to one file.
-/
import WallpaperRotation.Proofs.Disk.Grow
import WallpaperRotation.Storage

namespace WallpaperRotation.Disk

variable {disk saved : Disk} {document : Document} {path : FilePath} {text : String}

/-- The document at the path is a file with the text in it. -/
def Keeps (disk : Disk) (path : FilePath) (text : String) : Prop :=
  ∃ place modified, disk.entry true path = .ok (place, .file text.toUTF8 modified)

/-- The text of a document that is there is read. -/
theorem Keeps.documentText? (h : disk.Keeps path text) (document : Document) :
    disk.documentText? document path = .ok (some text) := by
  obtain ⟨place, modified, hentry⟩ := h
  obtain ⟨hholds, hread⟩ := readText_of_entry hentry
  unfold Disk.documentText?
  rw [if_pos hholds, hread]

/-! ## Documents found -/

/-- A path that leads to an entry holds something, and no other one does. -/
theorem holds_iff :
    disk.holds path = true ↔ ∃ place node, disk.entry true path = .ok (place, node) := by
  unfold holds
  cases disk.entry true path with
  | error reason => simp [Except.isOk, Except.toBool]
  | ok found => simp [Except.isOk, Except.toBool, Prod.ext_iff]

/-- Nothing is found of a document where its path leads nowhere. -/
theorem documentText?_of_missing (h : disk.holds path = false) :
    disk.documentText? document path = .ok none := by
  unfold documentText?
  rw [h]
  rfl

/-- A document with a text is a file. -/
theorem exists_file_of_documentText? (h : disk.documentText? document path = .ok (some text)) :
    ∃ place bytes modified, disk.entry true path = .ok (place, .file bytes modified) := by
  unfold documentText? at h
  split at h
  · cases hread : disk.readText path with
    | error reason =>
      rw [hread] at h
      cases h
    | ok found =>
      unfold readText read at hread
      split at hread
      · exact ⟨_, _, _, by assumption⟩
      · cases hread
      · cases hread
  · cases h

/-- What is found of a document depends on where its path leads only. -/
theorem documentText?_congr {other : Disk} (h : disk.entry true path = other.entry true path)
    (document : Document) :
    disk.documentText? document path = other.documentText? document path := by
  unfold documentText? holds readText read
  rw [h]

/-! ## Documents saved -/

/-- Saving makes folders and then writes. -/
theorem saveText_eq_ok (h : disk.saveText document path text = (.ok (), saved)) :
    ∃ grown, disk.Grows grown ∧ grown.writeText path text = .ok saved := by
  unfold saveText at h
  split at h
  · cases h
  · rename_i grown hgrown
    split at h
    · cases h
    · rename_i written hwrite
      obtain ⟨-, rfl⟩ := Prod.mk.inj h
      exact ⟨grown, grows_makeParents hgrown, hwrite⟩

/-- A document that was saved is there. -/
theorem keeps_saveText (h : disk.saveText document path text = (.ok (), saved)) :
    saved.Keeps path text := by
  obtain ⟨grown, -, hwrite⟩ := saveText_eq_ok h
  obtain ⟨place, -, -, hentry⟩ := write_eq_ok hwrite
  exact ⟨place, _, hentry⟩

/-- Whether a file can be written depends on where it is, and not on what is put into it. -/
theorem exists_write {bytes : ByteArray} (h : disk.write path bytes = .ok saved)
    (others : ByteArray) : ∃ written, disk.write path others = .ok written := by
  unfold write at h ⊢
  split at h
  · cases h
  · split at h
    · cases h
    · rename_i htrail
      rw [if_neg htrail]
      split at h
      · exact ⟨_, rfl⟩
      · exact ⟨_, rfl⟩
      · cases h

/-- Where one document was saved, any other one can be. -/
theorem exists_saveText (h : disk.saveText document path text = (.ok (), saved))
    (others : Document) (other : String) :
    ∃ written, disk.saveText others path other = (.ok (), written) := by
  unfold saveText at h ⊢
  split at h
  · cases h
  · split at h
    · cases h
    · rename_i written hwrite
      obtain ⟨changed, hchanged⟩ := exists_write hwrite other.toUTF8
      rw [writeText, hchanged]
      exact ⟨changed, rfl⟩

/-- A document can be saved at the path, if it is only an empty one. -/
def Takes (disk : Disk) (path : FilePath) : Prop :=
  (disk.saveText .config path "").1 = .ok ()

/-- Where one document can be saved, any other one can be. -/
theorem Takes.exists_saveText (h : disk.Takes path) (document : Document) (text : String) :
    ∃ saved, disk.saveText document path text = (.ok (), saved) :=
  Disk.exists_saveText (Prod.ext h rfl) document text

/-- A document can be saved where one was saved. -/
theorem takes_of_saveText (h : disk.saveText document path text = (.ok (), saved)) :
    disk.Takes path := by
  obtain ⟨written, hwritten⟩ := exists_saveText h .config ""
  rw [Takes, hwritten]

/-- The two paths lead to different places, or one of them leads nowhere. -/
def areApart (disk : Disk) (path other : FilePath) : Bool :=
  match disk.entry true path, disk.entry true other with
  | .ok (place, _), .ok (otherPlace, _) => place ≠ otherPlace
  | _, _ => true

end WallpaperRotation.Disk
