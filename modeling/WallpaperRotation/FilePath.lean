/-
# Paths of files

A path keeps its text as it was given, but two paths are the same, and are ordered, by their
components: repeated separators, trailing ones and inner single dots do not count, a leading single
dot does, and double dots are kept.  The main facts say that the order is total and that it is the
order of the components.
-/

namespace WallpaperRotation

/-- A path of the file system, as written. -/
structure FilePath where
  text : String
  deriving DecidableEq, Repr, Inhabited

namespace FilePath

/-! ## Components -/

/-- One step of a path. -/
inductive Component where
  /-- The root of the file system. -/
  | root
  /-- A leading single dot. -/
  | here
  /-- A double dot. -/
  | up
  | name (text : String)
  deriving DecidableEq, Repr

/-- The pieces of a text between separators; one more than there are separators. -/
def pieces : List Char → List (List Char)
  | [] => [[]]
  | c :: rest =>
    if c = '/' then [] :: pieces rest
    else
      match pieces rest with
      | [] => [[c]]
      | piece :: others => (c :: piece) :: others

/-- The text with a separator between each two pieces. -/
def joinPieces : List (List Char) → List Char
  | [] => []
  | [piece] => piece
  | piece :: others => piece ++ '/' :: joinPieces others

/-- The piece is no step of its own. -/
def isIdle (piece : List Char) : Bool :=
  piece = [] || piece = ['.']

/-- The step that a piece stands for. -/
def componentOf? (piece : List Char) : Option Component :=
  if isIdle piece then none
  else if piece = ['.', '.'] then some .up
  else some (.name (String.ofList piece))

/-- What a path starts with, and the text behind it. -/
def splitLead : List Char → Option Component × List Char
  | '/' :: body => (some .root, body)
  | ['.'] => (some .here, [])
  | '.' :: '/' :: body => (some .here, '/' :: body)
  | text => (none, text)

/-- The characters that a path starts with. -/
def leadText : Option Component → List Char
  | some .root => ['/']
  | some .here => ['.']
  | _ => []

/-- The components of a path, from its start. -/
def components (path : FilePath) : List Component :=
  let (lead, body) := splitLead path.text.toList
  lead.toList ++ (pieces body).filterMap componentOf?

/-- The two paths are the same. -/
def same (a b : FilePath) : Bool :=
  a.components = b.components

/-- The path starts at the root. -/
def isAbsolute (path : FilePath) : Bool :=
  path.text.toList.head? = some '/'

/-! ## Order -/

/-- The place of a component in the order: the root, a leading dot, double dots, names by their
characters. -/
def Component.rank : Component → List Nat
  | .root => [0]
  | .here => [1]
  | .up => [2]
  | .name text => 3 :: text.toList.map Char.toNat

/-- The place of a path in the order of paths. -/
def rank (path : FilePath) : List (List Nat) :=
  path.components.map Component.rank

/-- The first path does not come after the second one. -/
def le (a b : FilePath) : Bool :=
  !decide (b.rank < a.rank)

/-- Different components have different places. -/
theorem Component.rank_injective {a b : Component} (h : a.rank = b.rank) : a = b := by
  cases a <;> cases b <;> simp_all [Component.rank]
  rename_i s t
  have hinj : ∀ {x y : Char}, x.toNat = y.toNat → x = y := by
    intro x y hxy
    exact Char.ext (UInt32.toNat_inj.mp hxy)
  have : s.toList = t.toList := by
    revert h
    generalize s.toList = x
    generalize t.toList = y
    intro h
    induction x generalizing y with
    | nil => cases y <;> simp_all
    | cons c x ih =>
      cases y with
      | nil => simp at h
      | cons d y =>
        simp only [List.map_cons, List.cons.injEq] at h
        rw [hinj h.1, ih y h.2]
  exact String.toList_injective this

/-- Paths are the same exactly when neither comes before the other. -/
theorem same_iff_rank_eq (a b : FilePath) : a.same b = true ↔ a.rank = b.rank := by
  simp only [same, rank, decide_eq_true_eq]
  constructor
  · intro h; rw [h]
  · generalize a.components = x
    generalize b.components = y
    intro h
    induction x generalizing y with
    | nil => cases y <;> simp_all
    | cons c x ih =>
      cases y with
      | nil => simp at h
      | cons d y =>
        simp only [List.map_cons, List.cons.injEq] at h
        rw [Component.rank_injective h.1, ih y h.2]

/-- Of two paths one does not come after the other. -/
theorem le_total (a b : FilePath) : (a.le b || b.le a) = true := by
  simp only [le, Bool.or_eq_true, Bool.not_eq_true', decide_eq_false_iff_not]
  exact Decidable.or_iff_not_imp_left.2 fun h h' => List.lt_asymm (Decidable.not_not.1 h) h'

/-- The order of paths is transitive. -/
theorem le_trans {a b c : FilePath} (hab : a.le b = true) (hbc : b.le c = true) :
    a.le c = true := by
  simp only [le, Bool.not_eq_true', decide_eq_false_iff_not] at *
  exact List.le_trans hab hbc

/-- Paths that come neither before nor after each other are the same. -/
theorem same_of_le_of_le {a b : FilePath} (hab : a.le b = true) (hba : b.le a = true) :
    a.same b = true := by
  simp only [le, Bool.not_eq_true', decide_eq_false_iff_not] at *
  exact (same_iff_rank_eq a b).2 (List.le_antisymm hab hba)

/-! ## Building paths -/

/-- The second path as seen from the first one: an absolute path stands for itself, any other one
goes behind a separator. -/
def join (base path : FilePath) : FilePath :=
  if path.isAbsolute then path
  else if base.text.toList.getLast?.any (· ≠ '/') then ⟨base.text ++ "/" ++ path.text⟩
  else ⟨base.text ++ path.text⟩

/-- The path with a name put behind it. -/
def child (folder : FilePath) (name : String) : FilePath :=
  folder.join ⟨name⟩

/-! ## Taking paths apart -/

/-- The pieces without the idle ones at their end. -/
def dropIdleEnd (parts : List (List Char)) : List (List Char) :=
  (parts.reverse.dropWhile isIdle).reverse

/-- The path without its last component; `none` for the root and for the empty path. -/
def parent? (path : FilePath) : Option FilePath :=
  let (lead, body) := splitLead path.text.toList
  match dropIdleEnd (pieces body) with
  | [] => if lead = some .here then some ⟨""⟩ else none
  | parts => some ⟨String.ofList (leadText lead ++ joinPieces (dropIdleEnd parts.dropLast))⟩

/-- The name of the file that the path leads to. -/
def fileName? (path : FilePath) : Option String :=
  match path.components.getLast? with
  | some (.name text) => some text
  | _ => none

/-- What stands behind the last dot of the file name; a dot at its start does not count. -/
def extension? (path : FilePath) : Option String := do
  let name ← path.fileName?
  let reversed := name.toList.reverse
  match reversed.dropWhile (· ≠ '.') with
  | [] => none
  | [_] => none
  | _ => some (String.ofList (reversed.takeWhile (· ≠ '.')).reverse)

/-- A leading tilde that is a component of its own stands for the home folder. -/
def expandTilde (home path : FilePath) : FilePath :=
  match pieces path.text.toList with
  | ['~'] :: parts =>
    home.join ⟨String.ofList (joinPieces (dropIdleEnd (parts.dropWhile isIdle)))⟩
  | _ => path

end FilePath

end WallpaperRotation
