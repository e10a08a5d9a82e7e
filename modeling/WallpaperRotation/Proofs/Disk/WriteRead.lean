/-
# Files read back

A walk over a disk passes folders and links only, so it goes the same way over a disk that has all
of these and more.  A file is written where a walk ends, in the stead of nothing or of a file, so the
same walk leads to the file that was written.
-/
import WallpaperRotation.Disk.Write

namespace WallpaperRotation

/-! ## Separators at the end -/

/-- A path without a separator at its end keeps its text. -/
theorem FilePath.withoutTrail_eq_self {path : FilePath} (h : path.hasTrail = false) :
    path.withoutTrail = path := by
  have hhead : path.text.toList.reverse.head? ≠ some '/' := by
    rw [List.head?_reverse]
    exact of_decide_eq_false h
  have hdrop : path.text.toList.reverse.dropWhile (· = '/') = path.text.toList.reverse := by
    cases hreverse : path.text.toList.reverse with
    | nil => rfl
    | cons c rest =>
      have hc : c ≠ '/' := fun hc => hhead (by rw [hreverse, hc, List.head?_cons])
      rw [List.dropWhile_cons_of_neg (by simpa using hc)]
  unfold withoutTrail
  rw [hdrop]
  split
  · rename_i hnil
    have hempty : path.text = "" := by
      rw [← String.toList_eq_nil_iff]
      exact List.reverse_eq_nil_iff.1 hnil
    rw [if_pos hempty]
  · rename_i hreversed
    rw [List.reverse_reverse, String.ofList_toList]

namespace Disk

/-! ## Steps of a walk -/

/-- The stop at which a walk ends. -/
def Landing.stop : Landing → Stop
  | .entry place node => .entry place node
  | .vacancy folder name => .vacancy folder name

/-- What stands where a walk ends. -/
def Landing.node? : Landing → Option Node
  | .entry _ node => some node
  | .vacancy _ _ => none

/-- A walk ends where its moves stop, or goes on behind a link. -/
theorem walk_eq_ok_iff {disk : Disk} {follow : Bool} {fuel : Nat} {place : Place}
    {hops : List Hop} {landing : Landing} :
    disk.walk follow fuel place hops = .ok landing ↔
      disk.descend follow place hops = landing.stop ∨
        ∃ fewer folder text rest, fuel = fewer + 1 ∧
          disk.descend follow place hops = .link folder text rest ∧
          disk.walk follow fewer (startOf folder ⟨text⟩) (FilePath.hops ⟨text⟩ ++ rest) =
            .ok landing := by
  rw [walk.eq_def]
  dsimp only
  cases disk.descend follow place hops with
  | entry found node => cases landing <;> simp [Landing.stop]
  | vacancy folder name => cases landing <;> simp [Landing.stop]
  | refused reason => cases landing <;> simp [Landing.stop]
  | link folder text rest =>
    have hstop : Stop.link folder text rest ≠ landing.stop := by
      cases landing <;> simp [Landing.stop]
    cases fuel with
    | zero => simp [hstop]
    | succ fuel =>
      constructor
      · intro h
        exact Or.inr ⟨fuel, folder, text, rest, rfl, rfl, h⟩
      · rintro (h | ⟨fewer, folder', text', rest', hfuel, hlink, h⟩)
        · exact absurd h hstop
        · cases hfuel
          cases hlink
          exact h

/-- Where moves end, there stands what they found, and nothing where they found nothing. -/
theorem node?_of_descend {disk : Disk} {follow : Bool} {place : Place} {hops : List Hop}
    {landing : Landing} (h : disk.descend follow place hops = landing.stop) :
    disk.node? landing.place = landing.node? := by
  fun_induction descend disk follow place hops <;> cases landing <;>
    simp_all [Landing.stop, Landing.place, Landing.node?]

/-- Where a walk ends, there stands what it found, and nothing where it found nothing. -/
theorem node?_of_walk {disk : Disk} {follow : Bool} {fuel : Nat} {place : Place} {hops : List Hop}
    {landing : Landing} (h : disk.walk follow fuel place hops = .ok landing) :
    disk.node? landing.place = landing.node? := by
  induction fuel generalizing place hops with
  | zero =>
    rcases walk_eq_ok_iff.1 h with hstop | ⟨fuel, folder, text, rest, hfuel, -, -⟩
    · exact node?_of_descend hstop
    · cases hfuel
  | succ fuel ih =>
    rcases walk_eq_ok_iff.1 h with hstop | ⟨fuel', folder, text, rest, hfuel, -, hwalk⟩
    · exact node?_of_descend hstop
    · obtain rfl := Nat.succ.inj hfuel
      exact ih hwalk

/-- A path that leads somewhere on one disk is walked on every disk. -/
theorem walk_of_land {disk : Disk} {follow : Bool} {path : FilePath} {landing : Landing}
    (h : disk.land follow path = .ok landing) (other : Disk) :
    other.land follow path =
      other.walk follow linkLimit (startOf other.here path) path.hops := by
  unfold land at h ⊢
  split at h
  · cases h
  · rename_i hnul
    rw [if_neg hnul]
    split at h
    · cases h
    · rename_i hempty
      rw [if_neg hempty]
      split at h
      · cases h
      · rename_i hlong
        rw [if_neg hlong]

/-- Where a path leads, there stands what it leads to, and nothing where it leads to nothing. -/
theorem node?_of_land {disk : Disk} {follow : Bool} {path : FilePath} {landing : Landing}
    (h : disk.land follow path = .ok landing) : disk.node? landing.place = landing.node? := by
  rw [walk_of_land h] at h
  exact node?_of_walk h

/-! ## Walks over a disk with more on it -/

/-- A walk does not end at a refusal. -/
theorem Landing.stop_ne_refused (landing : Landing) (reason : DiskFault) :
    landing.stop ≠ .refused reason := by
  cases landing <;> simp [stop]

/-- A walk does not end at a link that has to be followed. -/
theorem Landing.stop_ne_link (landing : Landing) (folder : Place) (text : String)
    (rest : List Hop) : landing.stop ≠ .link folder text rest := by
  cases landing <;> simp [stop]

/-- The other disk has all folders and links of this one, and relative paths start from the same
folder. -/
structure Extends (disk other : Disk) : Prop where
  here : other.here = disk.here
  folder : ∀ {place listable}, disk.node? place = some (.folder listable) →
    other.node? place = some (.folder listable)
  link : ∀ {place text}, disk.node? place = some (.link text) →
    other.node? place = some (.link text)

section Extended

variable {disk other : Disk} {target : Place} {bytes : ByteArray} {modified : Int}

/-- Moves that end where the other disk has a file lead to the file there. -/
theorem descend_of_extends (h : disk.Extends other)
    (hfile : other.node? target = some (.file bytes modified)) {place : Place} {hops : List Hop}
    {landing : Landing} (hdescend : disk.descend true place hops = landing.stop)
    (hplace : landing.place = target) :
    other.descend true place hops = .entry target (.file bytes modified) := by
  -- Induction along the moves: every place that is passed is a folder, on the other disk too.
  induction hops generalizing place with
  | nil =>
    cases hnode : disk.node? place with
    | none => exact absurd (by simp [← hdescend, descend, hnode]) (landing.stop_ne_refused .noEntry)
    | some node =>
      have hhere : place = target := by
        cases landing <;> simp_all [descend, Landing.stop, Landing.place]
      simp [descend, hhere, hfile]
  | cons hop hops ih =>
    cases hnode : disk.node? place with
    | none => exact absurd (by simp [← hdescend, descend, hnode]) (landing.stop_ne_refused .noEntry)
    | some node =>
      cases node with
      | file old age =>
        exact absurd (by simp [← hdescend, descend, hnode]) (landing.stop_ne_refused .notFolder)
      | link text =>
        exact absurd (by simp [← hdescend, descend, hnode]) (landing.stop_ne_refused .notFolder)
      | folder listable =>
        have hfolder := h.folder hnode
        cases hop with
        | stay =>
          simp only [descend, hnode, hfolder] at hdescend ⊢
          exact ih hdescend
        | up =>
          simp only [descend, hnode, hfolder] at hdescend ⊢
          exact ih hdescend
        | into name =>
          by_cases hlength : name.utf8ByteSize > longestName
          · exact absurd (by simp [← hdescend, descend, hnode, hlength])
              (landing.stop_ne_refused .nameTooLong)
          simp only [descend, hnode, hfolder, hlength, if_false] at hdescend ⊢
          cases hnext : disk.node? (place ++ [name]) with
          | none =>
            -- The name was free, so nothing may follow it.
            simp only [hnext] at hdescend
            by_cases hlast : hops = []
            · have hhere : place ++ [name] = target := by
                cases landing <;> simp_all [Landing.stop, Landing.place]
              simp [hhere, hfile, hlast, descend]
            · exact absurd (by simp [← hdescend, hlast]) (landing.stop_ne_refused .noEntry)
          | some next =>
            cases next with
            | link text =>
              simp only [hnext] at hdescend
              exact absurd (by simpa using hdescend.symm) (landing.stop_ne_link place text hops)
            | folder listable =>
              simp only [hnext] at hdescend
              simp only [h.folder hnext]
              exact ih hdescend
            | file old age =>
              simp only [hnext] at hdescend
              cases hops with
              | nil =>
                have hhere : place ++ [name] = target := by
                  cases landing <;> simp_all [descend, Landing.stop, Landing.place]
                simp [hhere, hfile, descend]
              | cons hop hops =>
                exact absurd (by simp [← hdescend, descend, hnext])
                  (landing.stop_ne_refused .notFolder)

/-- Moves lead to the same link on the other disk. -/
theorem descend_link_of_extends (h : disk.Extends other) {place folder : Place}
    {hops rest : List Hop} {text : String}
    (hdescend : disk.descend true place hops = .link folder text rest) :
    other.descend true place hops = .link folder text rest := by
  induction hops generalizing place with
  | nil =>
    cases hnode : disk.node? place <;> simp [descend, hnode] at hdescend
  | cons hop hops ih =>
    cases hnode : disk.node? place with
    | none => simp [descend, hnode] at hdescend
    | some node =>
      cases node with
      | file old age => simp [descend, hnode] at hdescend
      | link text => simp [descend, hnode] at hdescend
      | folder listable =>
        have hfolder := h.folder hnode
        cases hop with
        | stay =>
          simp only [descend, hnode, hfolder] at hdescend ⊢
          exact ih hdescend
        | up =>
          simp only [descend, hnode, hfolder] at hdescend ⊢
          exact ih hdescend
        | into name =>
          by_cases hlength : name.utf8ByteSize > longestName
          · simp [descend, hnode, hlength] at hdescend
          simp only [descend, hnode, hfolder, hlength, if_false] at hdescend ⊢
          cases hnext : disk.node? (place ++ [name]) with
          | none =>
            simp only [hnext] at hdescend
            split at hdescend <;> cases hdescend
          | some next =>
            cases next with
            | link text =>
              simp only [hnext] at hdescend
              simpa [h.link hnext] using hdescend
            | folder listable =>
              simp only [hnext] at hdescend
              simp only [h.folder hnext]
              exact ih hdescend
            | file old age =>
              simp only [hnext] at hdescend
              cases hops <;> simp [descend, hnext] at hdescend

/-- A walk that ends where the other disk has a file leads to the file there. -/
theorem walk_of_extends (h : disk.Extends other)
    (hfile : other.node? target = some (.file bytes modified)) {fuel : Nat} {place : Place}
    {hops : List Hop} {landing : Landing} (hwalk : disk.walk true fuel place hops = .ok landing)
    (hplace : landing.place = target) :
    other.walk true fuel place hops = .ok (.entry target (.file bytes modified)) := by
  induction fuel generalizing place hops with
  | zero =>
    rcases walk_eq_ok_iff.1 hwalk with hstop | ⟨fuel, folder, text, rest, hfuel, -, -⟩
    · exact walk_eq_ok_iff.2 (Or.inl (descend_of_extends h hfile hstop hplace))
    · cases hfuel
  | succ fuel ih =>
    rcases walk_eq_ok_iff.1 hwalk with hstop | ⟨fuel', folder, text, rest, hfuel, hstop, hrest⟩
    · exact walk_eq_ok_iff.2 (Or.inl (descend_of_extends h hfile hstop hplace))
    · obtain rfl := Nat.succ.inj hfuel
      exact walk_eq_ok_iff.2 (Or.inr
        ⟨fuel, folder, text, rest, rfl, descend_link_of_extends h hstop, ih hrest⟩)

/-- A path that leads to where the other disk has a file leads to the file there. -/
theorem entry_of_extends (h : disk.Extends other)
    (hfile : other.node? target = some (.file bytes modified)) {path : FilePath}
    {landing : Landing} (hland : disk.land true path = .ok landing)
    (hplace : landing.place = target) :
    other.entry true path = .ok (target, .file bytes modified) := by
  have hwalk := walk_of_land hland disk
  rw [hland] at hwalk
  have hagain : other.land true path = .ok (.entry target (.file bytes modified)) := by
    rw [walk_of_land hland, h.here]
    exact walk_of_extends h hfile hwalk.symm hplace
  rw [entry, hagain]

/-- A path that leads to an entry lands there. -/
theorem land_of_entry {follow : Bool} {path : FilePath} {node : Node}
    (h : disk.entry follow path = .ok (target, node)) :
    disk.land follow path = .ok (.entry target node) := by
  unfold entry at h
  split at h
  · rename_i hland
    obtain ⟨rfl, rfl⟩ := Prod.mk.inj (Except.ok.inj h)
    exact hland
  · cases h
  · cases h

/-- What a path leads to stands at its place. -/
theorem node?_of_entry {follow : Bool} {path : FilePath} {node : Node}
    (h : disk.entry follow path = .ok (target, node)) : disk.node? target = some node :=
  node?_of_land (land_of_entry h)

end Extended

/-! ## Files -/

/-- An entry can be put at the place without a folder or a link being lost. -/
def IsWritable (disk : Disk) (place : Place) : Prop :=
  disk.node? place = none ∨ ∃ bytes modified, disk.node? place = some (.file bytes modified)

/-- Nothing is written in the stead of the root. -/
theorem IsWritable.ne_nil {disk : Disk} {place : Place} (h : disk.IsWritable place) :
    place ≠ [] := by
  rintro rfl
  rcases h with h | ⟨bytes, modified, h⟩ <;> cases h

/-- Putting an entry at such a place loses no folder and no link. -/
theorem IsWritable.extends_set {disk : Disk} {target : Place} (h : disk.IsWritable target)
    (node : Node) : disk.Extends (disk.set target node) := by
  refine ⟨rfl, fun {place listable} hfolder => ?_, fun {place text} hlink => ?_⟩
  · rw [node?_set_of_ne, hfolder]
    rintro rfl
    rcases h with hnone | ⟨bytes, modified, hfile⟩ <;> simp_all
  · rw [node?_set_of_ne, hlink]
    rintro rfl
    rcases h with hnone | ⟨bytes, modified, hfile⟩ <;> simp_all

/-- Writing puts a file at a place where there was a file or nothing, and the path leads to it. -/
theorem write_eq_ok {disk written : Disk} {path : FilePath} {bytes : ByteArray}
    (h : disk.write path bytes = .ok written) :
    ∃ place, disk.IsWritable place ∧ written = disk.set place (.file bytes disk.clock) ∧
      written.entry true path = .ok (place, .file bytes disk.clock) := by
  have hset {landing : Landing} (hland : disk.land true path = .ok landing)
      (hplace : disk.IsWritable landing.place) :
      (disk.set landing.place (.file bytes disk.clock)).entry true path =
        .ok (landing.place, .file bytes disk.clock) :=
    entry_of_extends (hplace.extends_set _) (node?_set_self disk _ hplace.ne_nil) hland rfl
  unfold write at h
  cases hland : disk.land true path.withoutTrail with
  | error reason =>
    rw [hland] at h
    cases h
  | ok landing =>
    simp only [hland] at h
    split at h
    · cases h
    · rename_i htrail
      rw [FilePath.withoutTrail_eq_self (by simpa using htrail)] at hland
      have hnode := node?_of_land hland
      cases landing with
      | vacancy folder name =>
        obtain rfl := Except.ok.inj h
        exact ⟨_, Or.inl hnode, rfl, hset hland (Or.inl hnode)⟩
      | entry place node =>
        cases node with
        | file old age =>
          obtain rfl := Except.ok.inj h
          exact ⟨_, Or.inr ⟨old, age, hnode⟩, rfl, hset hland (Or.inr ⟨old, age, hnode⟩)⟩
        | folder listable => cases h
        | link text => cases h

/-- The text of a file is read where a path leads to the file. -/
theorem readText_of_entry {disk : Disk} {path : FilePath} {place : Place} {text : String}
    {modified : Int} (h : disk.entry true path = .ok (place, .file text.toUTF8 modified)) :
    disk.holds path = true ∧ disk.readText path = .ok text := by
  have hdecode : String.fromUTF8? text.toUTF8 = some text := dif_pos text.isValidUTF8
  refine ⟨by rw [holds, h]; rfl, ?_⟩
  simp only [readText, read, h, bind, Except.bind, hdecode]

end Disk

end WallpaperRotation
