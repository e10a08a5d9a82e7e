/-
# Folders made

Making a folder, with or without those above it, puts folders where nothing stood before and leaves
everything else as it was.
-/
import WallpaperRotation.Proofs.Disk.WriteRead

namespace WallpaperRotation.Disk

/-- The other disk has all that this one has, and relative paths start from the same folder. -/
structure Grows (disk other : Disk) : Prop where
  here : other.here = disk.here
  node : ∀ {place node}, disk.node? place = some node → other.node? place = some node

section Grows

variable {disk other made : Disk} {path : FilePath}

/-- A disk has all that it has. -/
theorem Grows.refl (disk : Disk) : disk.Grows disk :=
  ⟨rfl, fun h => h⟩

/-- What is there after some growth is there after some more. -/
theorem Grows.trans {last : Disk} (h : disk.Grows other) (hmore : other.Grows last) :
    disk.Grows last :=
  ⟨hmore.here.trans h.here, fun hnode => hmore.node (h.node hnode)⟩

/-- A disk that has everything has the folders and the links. -/
theorem Grows.extends (h : disk.Grows other) : disk.Extends other :=
  ⟨h.here, h.node, h.node⟩

/-- Making a folder only adds it. -/
theorem grows_makeFolder (h : disk.makeFolder path = .ok made) : disk.Grows made := by
  unfold makeFolder at h
  cases hland : disk.land false path.withoutTrail with
  | error reason =>
    rw [hland] at h
    cases h
  | ok landing =>
    rw [hland] at h
    cases landing with
    | entry place node => cases h
    | vacancy folder name =>
      obtain rfl := Except.ok.inj h
      have hfree : disk.node? (folder ++ [name]) = none := node?_of_land hland
      refine ⟨rfl, fun {place node} hnode => ?_⟩
      rw [node?_set_of_ne, hnode]
      rintro rfl
      rw [hfree] at hnode
      cases hnode

/-- Being content with a folder adds nothing. -/
theorem grows_ensureFolder (h : disk.ensureFolder path = .ok made) : disk.Grows made := by
  unfold ensureFolder at h
  cases hmake : disk.makeFolder path with
  | ok grown =>
    rw [hmake] at h
    obtain rfl := Except.ok.inj h
    exact grows_makeFolder hmake
  | error reason =>
    rw [hmake] at h
    dsimp only at h
    split at h
    · obtain rfl := Except.ok.inj h
      exact Grows.refl disk
    · cases h

/-- Making a folder and those above it only adds folders. -/
theorem grows_makeFoldersUpTo {levels : Nat} (h : disk.makeFoldersUpTo levels path = .ok made) :
    disk.Grows made := by
  induction levels generalizing path made with
  | zero =>
    obtain rfl := Except.ok.inj h
    exact Grows.refl disk
  | succ levels ih =>
    unfold makeFoldersUpTo at h
    split at h
    · obtain rfl := Except.ok.inj h
      exact Grows.refl disk
    · split at h
      · rename_i hensure
        obtain rfl := Except.ok.inj h
        exact grows_ensureFolder hensure
      · split at h
        · cases h
        · split at h
          · cases h
          · -- The folders above are made first, and then the folder.
            rename_i above habove
            split at h
            · rename_i hensure
              obtain rfl := Except.ok.inj h
              exact (ih habove).trans (grows_ensureFolder hensure)
            · cases h
      · cases h

/-- Making the folders above a path only adds folders. -/
theorem grows_makeParents (h : disk.makeParents path = .ok made) : disk.Grows made := by
  unfold makeParents at h
  split at h
  · exact grows_makeFoldersUpTo h
  · obtain rfl := Except.ok.inj h
    exact Grows.refl disk

/-- Also when not all of the folders could be made, they were only added. -/
theorem grows_makeFoldersUpTo_of_error {levels : Nat} {reason : DiskFault}
    (h : disk.makeFoldersUpTo levels path = .error (reason, made)) : disk.Grows made := by
  induction levels generalizing path with
  | zero => cases h
  | succ levels ih =>
    unfold makeFoldersUpTo at h
    split at h
    · cases h
    · split at h
      · cases h
      · split at h
        · cases h
          exact Grows.refl disk
        · split at h
          · rename_i habove
            cases h
            exact ih habove
          · rename_i habove
            split at h
            · cases h
            · cases h
              exact grows_makeFoldersUpTo habove
      · cases h
        exact Grows.refl disk

/-- Also when not all folders above a path could be made, they were only added. -/
theorem grows_makeParents_of_error {reason : DiskFault}
    (h : disk.makeParents path = .error (reason, made)) : disk.Grows made := by
  unfold makeParents at h
  split at h
  · exact grows_makeFoldersUpTo_of_error h
  · cases h

/-! ## Paths over what was added -/

/-- Moves that stop at an entry stop there still. -/
theorem Grows.descend (h : disk.Grows other) {place found : Place} {hops : List Hop} {node : Node}
    (hdescend : disk.descend true place hops = .entry found node) :
    other.descend true place hops = .entry found node := by
  induction hops generalizing place with
  | nil =>
    unfold Disk.descend at hdescend ⊢
    cases hnode : disk.node? place with
    | none =>
      rw [hnode] at hdescend
      cases hdescend
    | some here =>
      rw [hnode] at hdescend
      rw [h.node hnode]
      exact hdescend
  | cons hop hops ih =>
    unfold Disk.descend at hdescend ⊢
    cases hnode : disk.node? place with
    | none =>
      rw [hnode] at hdescend
      cases hdescend
    | some here =>
      rw [hnode] at hdescend
      rw [h.node hnode]
      cases here with
      | file bytes modified => cases hdescend
      | link text => cases hdescend
      | folder listable =>
        cases hop with
        | stay => exact ih hdescend
        | up => exact ih hdescend
        | into name =>
          by_cases hlength : name.utf8ByteSize > longestName
          · simp only [if_pos hlength] at hdescend
            cases hdescend
          · simp only [if_neg hlength] at hdescend ⊢
            cases hnext : disk.node? (place ++ [name]) with
            | none =>
              rw [hnext] at hdescend
              dsimp only at hdescend
              split at hdescend <;> cases hdescend
            | some next =>
              rw [hnext] at hdescend
              rw [h.node hnext]
              cases next with
              | folder listable => exact ih hdescend
              | file bytes modified => exact ih hdescend
              | link text => simp at hdescend

/-- Walks that end at an entry end there still. -/
theorem Grows.walk (h : disk.Grows other) {fuel : Nat} {place found : Place} {hops : List Hop}
    {node : Node} (hwalk : disk.walk true fuel place hops = .ok (.entry found node)) :
    other.walk true fuel place hops = .ok (.entry found node) := by
  induction fuel using Nat.strongRecOn generalizing place hops with
  | ind fuel ih =>
    rcases walk_eq_ok_iff.1 hwalk with hstop | ⟨fewer, folder, text, rest, rfl, hlink, hrest⟩
    · exact walk_eq_ok_iff.2 (Or.inl (h.descend hstop))
    · exact walk_eq_ok_iff.2 (Or.inr ⟨fewer, folder, text, rest, rfl,
        descend_link_of_extends h.extends hlink, ih fewer (Nat.lt_succ_self fewer) hrest⟩)

/-- Paths that lead to an entry lead there still. -/
theorem Grows.entry (h : disk.Grows other) {place : Place} {node : Node}
    (hentry : disk.entry true path = .ok (place, node)) :
    other.entry true path = .ok (place, node) := by
  have hland := land_of_entry hentry
  have hwalk := walk_of_land hland disk
  rw [hland] at hwalk
  rw [Disk.entry, walk_of_land hland other, h.here, h.walk hwalk.symm]

end Grows

end WallpaperRotation.Disk
