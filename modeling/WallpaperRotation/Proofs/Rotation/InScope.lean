/-
# Picks and scopes

A scope is available when it is a tag of the library or a folder equal to one of the library's.  A
pick for a target with such a scope belongs to the scope, and the ledger of the library is not
touched.  Any other pick is some record of the library, which that ledger takes down instead of the
target.  Nothing is picked only where there is no record to pick.
-/
import WallpaperRotation.Proofs.Library.Pairing
import WallpaperRotation.Proofs.Rotation.Cycle
import WallpaperRotation.Proofs.Rotation.Pick
import WallpaperRotation.Result

namespace WallpaperRotation

/-! ## Scopes and records -/

namespace Scope

/-- The scope is a tag that the library has, or a folder equal to one of the library's. -/
def IsAvailable (scope : Scope) (library : Library) (folders : List FilePath) : Prop :=
  match scope with
  | .all => False
  | .tag name => ∃ tag ∈ library.tags, tag.name = normalizeTag name
  | .folder path => ∃ folder ∈ folders, path.same folder = true

/-- The record carries the tag of the scope, or has its folder. -/
def Includes (scope : Scope) (library : Library) (w : Wallpaper) : Prop :=
  match scope with
  | .all => True
  | .tag name => normalizeTag name ∈ library.tagsOf w.id
  | .folder path => w.folder.same path = true

variable {scope : Scope} {library : Library} {folders : List FilePath}
  {candidates : List Wallpaper}

/-- A tag that the library has is found. -/
theorem exists_tag?_iff {name : String} :
    (∃ tag, library.tag? name = some tag) ↔ ∃ tag ∈ library.tags, tag.name = normalizeTag name := by
  rw [← Option.isSome_iff_exists, Library.tag?, List.find?_isSome]
  simp only [decide_eq_true_eq]

/-- The candidates of a tag are the records that it holds. -/
theorem candidates_tag_eq_ok_iff {name : String} :
    (Scope.tag name).candidates library folders = .ok candidates ↔
      ∃ tag, library.tag? name = some tag ∧ library.withIds tag.ids = candidates := by
  simp only [Scope.candidates]
  cases library.tag? name <;> simp

/-- The candidates of a folder are the records found under it. -/
theorem candidates_folder_eq_ok_iff {path : FilePath} :
    (Scope.folder path).candidates library folders = .ok candidates ↔
      (∃ folder ∈ folders, path.same folder = true) ∧ library.inFolder path = candidates := by
  simp only [Scope.candidates, ← List.any_eq_true]
  cases folders.any path.same <;> simp

/-- A scope that restricts a target is available exactly when its candidates can be told. -/
theorem isAvailable_iff (hall : scope ≠ .all) :
    scope.IsAvailable library folders ↔
      ∃ candidates, scope.candidates library folders = .ok candidates := by
  cases scope with
  | all => exact absurd rfl hall
  | tag name =>
    simp only [IsAvailable, ← exists_tag?_iff, candidates_tag_eq_ok_iff]
    exact ⟨fun ⟨found, hfound⟩ => ⟨_, found, hfound, rfl⟩,
      fun ⟨_, found, hfound, _⟩ => ⟨found, hfound⟩⟩
  | folder path =>
    simp only [IsAvailable, candidates_folder_eq_ok_iff]
    exact ⟨fun hfolder => ⟨_, hfolder, rfl⟩, fun ⟨_, hfolder, _⟩ => hfolder⟩

/-- The candidates of a scope are the records of a consistent library that it includes. -/
theorem mem_candidates_iff (h : library.Consistent)
    (hcandidates : scope.candidates library folders = .ok candidates) (w : Wallpaper) :
    w ∈ candidates ↔ w ∈ library.wallpapers ∧ scope.Includes library w := by
  cases scope with
  | all =>
    cases hcandidates
    exact (and_iff_left trivial).symm
  | tag name =>
    obtain ⟨tag, htag, rfl⟩ := candidates_tag_eq_ok_iff.1 hcandidates
    rw [h.shows.mem_withIds name tag htag, Includes, h.shows.mem_tagsOf]
  | folder path =>
    obtain ⟨-, rfl⟩ := candidates_folder_eq_ok_iff.1 hcandidates
    exact List.mem_filter

/-- A tag that the library has includes a record. -/
theorem candidates_tag_ne_nil (h : library.Consistent) {name : String}
    (hcandidates : (Scope.tag name).candidates library folders = .ok candidates) :
    candidates ≠ [] := by
  obtain ⟨tag, htag, rfl⟩ := candidates_tag_eq_ok_iff.1 hcandidates
  exact h.shows.withIds_ne_nil name tag htag

end Scope

/-! ## Choices -/

section Choices

variable {candidates : List Wallpaper} {w : Wallpaper}

/-- A choice in order is a candidate. -/
theorem mem_of_selectSequential {cursor : UInt64}
    (h : (selectSequential candidates cursor).1 = some w) : w ∈ candidates :=
  List.mem_of_getElem? (getElem?_selectSequential h)

/-- A random choice is a candidate. -/
theorem mem_of_selectRandom {chance : Chance} {now : Timestamp}
    (h : (selectRandom candidates chance now).1 = some w) : w ∈ candidates :=
  mem_of_mem_remaining (of_selectRandom_eq_some h).1

/-- Nothing is chosen in order only among no candidates. -/
theorem selectSequential_eq_none_iff {cursor : UInt64} :
    (selectSequential candidates cursor).1 = none ↔ candidates = [] := by
  unfold selectSequential
  split
  · rename_i v hv
    simp [List.ne_nil_of_mem (List.mem_of_getElem? hv)]
  · exact List.head?_eq_none_iff

/-- Nothing is chosen at random only among no candidates. -/
theorem selectRandom_eq_none_iff {chance : Chance} {now : Timestamp} :
    (selectRandom candidates chance now).1 = none ↔ candidates = [] := by
  constructor
  · intro hnone
    by_contra hne
    have hsome := selectRandom_isSome hne chance now
    rw [hnone] at hsome
    cases hsome
  · intro hnil
    rw [selectRandom, if_pos hnil]

variable {state : TargetState} {mode : Mode} {words : Words} {now : Timestamp}

/-- A choice for a target is a candidate. -/
theorem TargetState.mem_of_select (h : (state.select candidates mode words now).1 = some w) :
    w ∈ candidates := by
  cases mode with
  | sequential => exact mem_of_selectSequential h
  | random => exact mem_of_selectRandom h

/-- Nothing is chosen for a target only among no candidates. -/
theorem TargetState.select_eq_none_iff :
    (state.select candidates mode words now).1 = none ↔ candidates = [] := by
  cases mode with
  | sequential => exact selectSequential_eq_none_iff
  | random => exact selectRandom_eq_none_iff

end Choices

/-! ## Picks -/

namespace Rotator

variable {rotator : Rotator} {plan : Plan} {target : Target} {candidates : List Wallpaper}

/-- A target is restricted when its scope is available. -/
theorem exists_restriction_iff :
    (∃ candidates, rotator.restriction plan target = some candidates) ↔
      (plan.scope target).IsAvailable rotator.library plan.folders := by
  unfold restriction
  by_cases hall : plan.scope target = .all
  · rw [if_pos hall, hall]
    simp [Scope.IsAvailable]
  · rw [if_neg hall, Scope.isAvailable_iff hall]
    simp only [toOption_eq_some_iff]

/-- The candidates of a restricted target are those of its scope. -/
theorem candidates_eq_of_restriction (h : rotator.restriction plan target = some candidates) :
    plan.scope target ≠ .all ∧
      (plan.scope target).candidates rotator.library plan.folders = .ok candidates := by
  unfold restriction at h
  split at h
  · cases h
  · exact ⟨‹_›, toOption_eq_some_iff.1 h⟩

/-- A pick for a target goes by its scope. -/
structure KeepsToScope (rotator : Rotator) (plan : Plan) (target : Target) : Prop where
  /-- From an available scope a record is picked that it includes, and the ledger of the library is
  left. -/
  within : (plan.scope target).IsAvailable rotator.library plan.folders →
    (∀ w, (rotator.pick plan target).1 = some w →
      w ∈ rotator.library.wallpapers ∧ (plan.scope target).Includes rotator.library w) ∧
    (rotator.pick plan target).2.state.library = rotator.state.library
  /-- Otherwise some record of the library is picked, which becomes the last showing in the ledger
  of the library, and the targets are left. -/
  beyond : ¬(plan.scope target).IsAvailable rotator.library plan.folders →
    (∀ w, (rotator.pick plan target).1 = some w →
      w ∈ rotator.library.wallpapers ∧
        (rotator.pick plan target).2.state.library.EndsWith w plan.now) ∧
    ∀ apart, (rotator.pick plan target).2.state.target apart = rotator.state.target apart
  /-- Nothing is picked from an empty library and from a folder that no record has, and only
  there. -/
  pick_eq_none_iff : (rotator.pick plan target).1 = none ↔
    rotator.library.wallpapers = [] ∨
      ∃ path, plan.scope target = .folder path ∧ (∃ folder ∈ plan.folders, path.same folder = true) ∧
        ∀ w ∈ rotator.library.wallpapers, w.folder.same path = false
  /-- From a tag that the library has something is picked. -/
  tagged : ∀ name, plan.scope target = .tag name →
    (∃ tag ∈ rotator.library.tags, tag.name = normalizeTag name) →
    ∃ w, (rotator.pick plan target).1 = some w

/-- A pick for a restricted target keeps to its scope. -/
theorem keepsToScope_of_restriction (h : rotator.library.Consistent)
    (hrestriction : rotator.restriction plan target = some candidates) :
    rotator.KeepsToScope plan target := by
  obtain ⟨hall, hcandidates⟩ := candidates_eq_of_restriction hrestriction
  have hmem := Scope.mem_candidates_iff h hcandidates
  have hpick : rotator.pick plan target = rotator.pickAmong plan target candidates := by
    rw [pick_eq, hrestriction]
  have hnone : (rotator.pick plan target).1 = none ↔ candidates = [] := by
    rw [hpick]
    exact TargetState.select_eq_none_iff
  have havailable := exists_restriction_iff.1 ⟨_, hrestriction⟩
  refine
    { within := fun _ => ⟨fun w hw => (hmem w).1 ?_, ?_⟩
      beyond := fun hnot => absurd havailable hnot
      pick_eq_none_iff := hnone.trans ⟨fun hnil => ?_, ?_⟩
      tagged := fun name hname _ => ?_ }
  · rw [hpick] at hw
    exact TargetState.mem_of_select hw
  · rw [hpick]
    exact RotationState.library_setTarget _ _ _
  · -- No candidates: a tag has some, so the scope is a folder.
    cases hscope : plan.scope target with
    | all => exact absurd hscope hall
    | tag name =>
      rw [hscope] at hcandidates
      exact absurd hnil (Scope.candidates_tag_ne_nil h hcandidates)
    | folder path =>
      rw [hscope] at havailable hmem
      refine Or.inr ⟨path, rfl, havailable, fun w hw => ?_⟩
      by_contra hfolder
      exact List.ne_nil_of_mem ((hmem w).2 ⟨hw, eq_true_of_ne_false hfolder⟩) hnil
  · rintro (hempty | ⟨path, hscope, -, hfolder⟩)
    · refine List.eq_nil_iff_forall_not_mem.2 fun w hw => ?_
      rw [hmem, hempty] at hw
      exact List.not_mem_nil hw.1
    · refine List.eq_nil_iff_forall_not_mem.2 fun w hw => ?_
      rw [hmem, hscope] at hw
      rw [Scope.Includes, hfolder w hw.1] at hw
      exact Bool.false_ne_true hw.2
  · rw [hname] at hcandidates
    exact Option.ne_none_iff_exists'.1
      (hnone.not.2 (Scope.candidates_tag_ne_nil h hcandidates))

/-- A pick for a target that gets any wallpaper of the library keeps to the library. -/
theorem keepsToScope_of_not_restricted (hrestriction : rotator.restriction plan target = none) :
    rotator.KeepsToScope plan target := by
  have hunavailable : ¬(plan.scope target).IsAvailable rotator.library plan.folders := by
    rw [← exists_restriction_iff, hrestriction]
    simp
  have hpick : rotator.pick plan target = rotator.pickFromLibrary plan := by
    rw [pick_eq, hrestriction]
  refine
    { within := fun havailable => absurd havailable hunavailable
      beyond := fun _ => ⟨fun w hw => ?_, fun apart => ?_⟩
      pick_eq_none_iff := ?_
      tagged := fun name hname htag => absurd ?_ hunavailable }
  · rw [hpick] at hw ⊢
    exact ⟨mem_of_selectRandom hw, endsWith_selectRandom hw⟩
  · rw [hpick]
    cases apart <;> rfl
  · rw [hpick]
    refine selectRandom_eq_none_iff.trans ⟨Or.inl, ?_⟩
    rintro (hempty | ⟨path, hscope, hfolder, -⟩)
    · exact hempty
    · exact absurd (by rw [hscope]; exact hfolder) hunavailable
  · rw [hname]
    exact htag

/-- A pick for a target goes by its scope, for all settings, for all libraries that operations make
from the empty one, and for all states and random words. -/
theorem pick_keepsToScope (operations : List Operation) (rotator : Rotator) (plan : Plan)
    (target : Target) :
    { rotator with library := Library.empty.run operations }.KeepsToScope plan target := by
  have h := Library.consistent_empty.run operations
  cases hrestriction :
      { rotator with library := Library.empty.run operations }.restriction plan target with
  | none => exact keepsToScope_of_not_restricted hrestriction
  | some candidates => exact keepsToScope_of_restriction h hrestriction

end Rotator

end WallpaperRotation
