/-
# Folders above an entry

A walk that leads to an entry passes the folder above it.  So where something stands at a path, or
at another name in the same folder, no folder has to be made for it.
-/
import WallpaperRotation.Proofs.Disk.WriteRead
import WallpaperRotation.Proofs.FilePath.Parent

namespace WallpaperRotation

namespace FilePath

/-- A path below a folder asks for the folder's moves, and for more. -/
theorem IsBelow.exists_hops {path folder : FilePath} (h : path.IsBelow folder) :
    ∃ hop hops, path.hops = folder.hops ++ hop :: hops := by
  obtain ⟨rest, hrest⟩ := h
  unfold hops
  rw [hrest, pieces_append_separator, List.map_append]
  cases hpieces : pieces rest with
  | nil => exact absurd hpieces (pieces_ne_nil rest)
  | cons piece others => exact ⟨_, _, rfl⟩

/-- A path starts where the folder does that it is below. -/
theorem IsBelow.isAbsolute_eq {path folder : FilePath} (h : path.IsBelow folder)
    (hne : folder.text ≠ "") : path.isAbsolute = folder.isAbsolute := by
  obtain ⟨rest, hrest⟩ := h
  unfold isAbsolute
  rw [hrest]
  cases htext : folder.text.toList with
  | nil => exact absurd (String.toList_eq_nil_iff.1 htext) hne
  | cons c text => rfl

end FilePath

namespace Disk

variable {disk : Disk}

/-! ## Moves after moves -/

/-- Where one stops who makes more moves from a stop. -/
def Stop.goOn (disk : Disk) (more : List Hop) : Stop → Stop
  | .entry place _ => disk.descend true place more
  | .vacancy _ _ => .refused .noEntry
  | .refused reason => .refused reason
  | .link folder text rest => .link folder text (rest ++ more)

/-- More moves are made from where the first ones stop. -/
theorem descend_append (disk : Disk) (place : Place) (hops : List Hop) {more : List Hop}
    (hmore : more ≠ []) :
    disk.descend true place (hops ++ more) = (disk.descend true place hops).goOn disk more := by
  induction hops generalizing place with
  | nil =>
    cases hnode : disk.node? place with
    | none =>
      cases more with
      | nil => exact absurd rfl hmore
      | cons hop more => simp [descend, hnode, Stop.goOn]
    | some node => simp [descend, hnode, Stop.goOn]
  | cons hop hops ih =>
    rw [List.cons_append]
    unfold descend
    cases disk.node? place with
    | none => rfl
    | some node =>
      cases node with
      | file bytes modified => rfl
      | link text => rfl
      | folder listable =>
        cases hop with
        | stay => exact ih place
        | up => exact ih place.dropLast
        | into name =>
          by_cases hlength : name.utf8ByteSize > longestName
          · simp only [if_pos hlength]
            rfl
          · simp only [if_neg hlength]
            cases hnext : disk.node? (place ++ [name]) with
            | none =>
              have hlast : hops ++ more ≠ [] := List.append_ne_nil_of_right_ne_nil hops hmore
              by_cases hhops : hops = []
              · simp only [if_neg hlast, if_pos hhops, Stop.goOn]
              · simp only [if_neg hlast, if_neg hhops, Stop.goOn]
            | some next =>
              cases next with
              | folder listable => exact ih _
              | file bytes modified => exact ih _
              | link text => simp [Stop.goOn]

/-- Moves that are made from a place stop at a refusal, unless a folder is there. -/
theorem descend_of_not_folder {place : Place} (hplace : ∀ listable, disk.node? place ≠
    some (.folder listable)) (hop : Hop) (hops : List Hop) :
    ∃ reason, disk.descend true place (hop :: hops) = .refused reason := by
  unfold descend
  cases hnode : disk.node? place with
  | none => exact ⟨_, rfl⟩
  | some node =>
    cases node with
    | folder listable => exact absurd hnode (hplace listable)
    | file bytes modified => exact ⟨_, rfl⟩
    | link text => exact ⟨_, rfl⟩

/-- A walk whose moves stop at a refusal is refused. -/
theorem walk_of_refused {fuel : Nat} {place : Place} {hops : List Hop} {reason : DiskFault}
    (h : disk.descend true place hops = .refused reason) :
    disk.walk true fuel place hops = .error reason := by
  rw [walk.eq_def]
  simp only [h]

/-- A walk with more moves behind it passes a folder. -/
theorem exists_folder_of_walk_append {fuel : Nat} {place : Place} {hops more : List Hop} {hop : Hop}
    {landing : Landing} (h : disk.walk true fuel place (hops ++ hop :: more) = .ok landing) :
    ∃ found listable, disk.walk true fuel place hops = .ok (.entry found (.folder listable)) := by
  induction fuel using Nat.strongRecOn generalizing place hops with
  | ind fuel ih =>
    have hdescend := descend_append disk place hops (List.cons_ne_nil hop more)
    cases hstop : disk.descend true place hops with
    | entry found node =>
      rw [hstop] at hdescend
      by_cases hfolder : ∃ listable, disk.node? found = some (.folder listable)
      · obtain ⟨listable, hfolder⟩ := hfolder
        have hend : disk.descend true place hops = (Landing.entry found node).stop := hstop
        have hnode : disk.node? found = some node := node?_of_descend hend
        obtain rfl := Option.some.inj (hnode.symm.trans hfolder)
        exact ⟨found, listable, walk_eq_ok_iff.2 (Or.inl hstop)⟩
      · obtain ⟨reason, hrefused⟩ := descend_of_not_folder (not_exists.1 hfolder) hop more
        rw [walk_of_refused (hdescend.trans hrefused)] at h
        cases h
    | vacancy folder name =>
      rw [hstop] at hdescend
      rw [walk_of_refused hdescend] at h
      cases h
    | refused reason =>
      rw [hstop] at hdescend
      rw [walk_of_refused hdescend] at h
      cases h
    | link folder text rest =>
      rw [hstop] at hdescend
      -- Behind the link the walk still has the further moves at its end.
      rcases walk_eq_ok_iff.1 h with hlast | ⟨fewer, folder', text', rest', rfl, hlink, hwalk⟩
      · rw [hdescend] at hlast
        exact absurd hlast.symm (landing.stop_ne_link _ _ _)
      · rw [hdescend] at hlink
        obtain ⟨rfl, rfl, rfl⟩ := Stop.link.inj hlink
        rw [← List.append_assoc] at hwalk
        obtain ⟨found, listable, hfound⟩ := ih fewer (Nat.lt_succ_self fewer) hwalk
        exact ⟨found, listable,
          walk_eq_ok_iff.2 (Or.inr ⟨fewer, folder, text, rest, rfl, hstop, hfound⟩)⟩

/-! ## Links at the end -/

/-- Whether a link at the very end is followed matters only where there is one. -/
theorem descend_false_cases (disk : Disk) (place : Place) (hops : List Hop) :
    disk.descend true place hops = disk.descend false place hops ∨
      ∃ found text, disk.descend false place hops = .entry found (.link text) := by
  induction hops generalizing place with
  | nil => exact Or.inl rfl
  | cons hop hops ih =>
    unfold descend
    cases disk.node? place with
    | none => exact Or.inl rfl
    | some node =>
      cases node with
      | file bytes modified => exact Or.inl rfl
      | link text => exact Or.inl rfl
      | folder listable =>
        cases hop with
        | stay => exact ih place
        | up => exact ih place.dropLast
        | into name =>
          by_cases hlength : name.utf8ByteSize > longestName
          · exact Or.inl (by simp only [if_pos hlength])
          · simp only [if_neg hlength]
            cases disk.node? (place ++ [name]) with
            | none => exact Or.inl rfl
            | some next =>
              cases next with
              | folder listable => exact ih _
              | file bytes modified => exact ih _
              | link text =>
                by_cases hlast : hops = []
                · exact Or.inr ⟨place ++ [name], text, by simp [hlast]⟩
                · exact Or.inl (by simp [hlast])

/-- A walk that ends where nothing stands ends there also when a link at the end is followed. -/
theorem walk_of_vacancy {fuel : Nat} {place folder : Place} {hops : List Hop} {name : String}
    (h : disk.walk false fuel place hops = .ok (.vacancy folder name)) :
    disk.walk true fuel place hops = .ok (.vacancy folder name) := by
  induction fuel using Nat.strongRecOn generalizing place hops with
  | ind fuel ih =>
    rcases walk_eq_ok_iff.1 h with hstop | ⟨fewer, target, text, rest, rfl, hlink, hwalk⟩
    · rcases descend_false_cases disk place hops with hsame | ⟨found, text, hentry⟩
      · exact walk_eq_ok_iff.2 (Or.inl (hsame.trans hstop))
      · rw [hentry] at hstop
        cases hstop
    · rcases descend_false_cases disk place hops with hsame | ⟨found, text', hentry⟩
      · exact walk_eq_ok_iff.2 (Or.inr ⟨fewer, target, text, rest, rfl, hsame.trans hlink,
          ih fewer (Nat.lt_succ_self fewer) hwalk⟩)
      · rw [hentry] at hlink
        cases hlink

end Disk

/-! ## Separators at the end -/

namespace FilePath

/-- Separators at the end start with one. -/
theorem exists_trail {text : List Char} (h : text.getLast? = some '/') :
    ∃ rest, (text.reverse.takeWhile (· = '/')).reverse = '/' :: rest := by
  cases hreverse : text.reverse with
  | nil =>
    rw [← List.head?_reverse, hreverse] at h
    cases h
  | cons c others =>
    rw [← List.head?_reverse, hreverse] at h
    obtain rfl := Option.some.inj h
    rw [List.takeWhile_cons_of_pos (by simp), List.reverse_cons]
    cases hothers : (others.takeWhile (· = '/')).reverse with
    | nil => exact ⟨[], rfl⟩
    | cons d more =>
      have hmem : d ∈ others.takeWhile (· = '/') := by
        rw [← List.mem_reverse, hothers]
        exact List.mem_cons_self
      have hd : d = '/' := by simpa using List.all_eq_true.1 List.all_takeWhile d hmem
      exact ⟨more ++ ['/'], by rw [hd, List.cons_append]⟩

/-- Without the separators at its end, a path is the root, or it stays as it is, or it is what the
path is below. -/
theorem withoutTrail_cases (path : FilePath) :
    path.withoutTrail = ⟨"/"⟩ ∨ path.withoutTrail = path ∨
      path.IsBelow path.withoutTrail ∧ path.withoutTrail.text ≠ "" := by
  by_cases htrail : path.hasTrail = true
  · have hsplit := List.takeWhile_append_dropWhile (p := (· = '/')) (l := path.text.toList.reverse)
    have htext := congrArg List.reverse hsplit
    rw [List.reverse_append, List.reverse_reverse] at htext
    obtain ⟨rest, hrest⟩ := exists_trail (of_decide_eq_true htrail)
    unfold withoutTrail
    split
    · split
      · exact Or.inr (Or.inl rfl)
      · exact Or.inl rfl
    · rename_i hreversed
      refine Or.inr (Or.inr ⟨⟨rest, ?_⟩, fun hempty => hreversed ?_⟩)
      · rw [String.toList_ofList, ← hrest, htext]
      · rw [← String.toList_eq_nil_iff, String.toList_ofList] at hempty
        exact List.reverse_eq_nil_iff.1 hempty
  · exact Or.inr (Or.inl (withoutTrail_eq_self (by simpa using htrail)))

end FilePath

namespace Disk

variable {disk : Disk}

/-! ## Folders that are there -/

/-- The root is a folder. -/
theorem isFolder_root (disk : Disk) : disk.isFolder ⟨"/"⟩ = true := by
  rfl

/-- A folder above a path that leads somewhere is walked. -/
theorem land_of_isBelow {path folder : FilePath} (hbelow : path.IsBelow folder)
    (hne : folder.text ≠ "") {landing : Landing} (h : disk.land true path = .ok landing) :
    disk.land true folder = disk.walk true linkLimit (startOf disk.here folder) folder.hops := by
  obtain ⟨rest, hrest⟩ := hbelow
  have htext : path.text = folder.text ++ String.ofList ('/' :: rest) := by
    rw [← String.toList_inj, hrest, String.toList_append, String.toList_ofList]
  unfold land at h ⊢
  split at h
  · cases h
  · rename_i hnul
    split at h
    · cases h
    · split at h
      · cases h
      · rename_i hlong
        rw [if_neg, if_neg hne, if_neg]
        · rw [htext, String.utf8ByteSize_append] at hlong
          omega
        · rw [hrest] at hnul
          simp_all

/-- A path that leads somewhere leads through the folder that it is below. -/
theorem isFolder_of_isBelow {path folder : FilePath} (hbelow : path.IsBelow folder)
    (hne : folder.text ≠ "") {landing : Landing} (h : disk.land true path = .ok landing) :
    disk.isFolder folder = true := by
  obtain ⟨hop, hops, hhops⟩ := hbelow.exists_hops
  have hland := land_of_isBelow hbelow hne h
  have hstart : startOf disk.here path = startOf disk.here folder := by
    rw [startOf, startOf, hbelow.isAbsolute_eq hne]
  rw [walk_of_land h, hhops, hstart] at h
  obtain ⟨found, listable, hfound⟩ := exists_folder_of_walk_append h
  rw [isFolder, entry, hland, hfound]

/-- A path to a folder leads somewhere. -/
theorem exists_land_of_isFolder {path : FilePath} (h : disk.isFolder path = true) :
    ∃ found listable, disk.land true path = .ok (.entry found (.folder listable)) := by
  unfold isFolder at h
  split at h
  · rename_i found listable hentry
    exact ⟨found, listable, land_of_entry hentry⟩
  · cases h

/-- A folder that is there is not made again. -/
theorem ensureFolder_eq_self {path : FilePath} (h : disk.isFolder path = true) :
    disk.ensureFolder path = .ok disk := by
  have hfolder : disk.isFolder path.withoutTrail = true := by
    obtain ⟨found, listable, hland⟩ := exists_land_of_isFolder h
    rcases path.withoutTrail_cases with hroot | hsame | ⟨hbelow, hne⟩
    · rw [hroot]
      exact disk.isFolder_root
    · rw [hsame]
      exact h
    · exact isFolder_of_isBelow hbelow hne hland
  obtain ⟨found, listable, hland⟩ := exists_land_of_isFolder hfolder
  unfold ensureFolder makeFolder
  cases hfree : disk.land false path.withoutTrail with
  | error reason => simp only [if_pos h]
  | ok landing =>
    cases landing with
    | entry place node => simp only [if_pos h]
    | vacancy folder name =>
      -- A walk that follows links would end at the free name too.
      rw [walk_of_land hfree] at hfree
      rw [walk_of_land hland, walk_of_vacancy hfree] at hland
      cases hland

/-- Folders that are there, or that have no name, are not made again. -/
theorem makeFolders_eq_self {path : FilePath} (h : path.text ≠ "" → disk.isFolder path = true) :
    disk.makeFolders path = .ok disk := by
  unfold makeFolders makeFoldersUpTo
  by_cases hnone : path.components = []
  · rw [if_pos hnone]
  · have hne : path.text ≠ "" := by
      intro hempty
      refine hnone ?_
      rw [FilePath.components, hempty]
      rfl
    rw [if_neg hnone, ensureFolder_eq_self (h hne)]

/-- Where a path leads somewhere, no folder has to be made for another one that is below the same
folders. -/
theorem makeParents_eq_self {path other : FilePath} {landing : Landing}
    (h : disk.land true path = .ok landing)
    (hbelow : ∀ folder, other.IsBelow folder → path.IsBelow folder) :
    disk.makeParents other = .ok disk := by
  unfold makeParents
  cases hparent : other.parent? with
  | none => rfl
  | some parent =>
    refine makeFolders_eq_self fun hne => ?_
    rcases FilePath.isBelow_parent? hparent with hempty | hroot | habove
    · exact absurd hempty hne
    · have hparent : parent = ⟨"/"⟩ := by rw [← hroot]
      rw [hparent]
      exact disk.isFolder_root
    · exact isFolder_of_isBelow (hbelow parent habove) hne h

end Disk

end WallpaperRotation
