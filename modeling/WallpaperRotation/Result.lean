/-
# Results of steps that may fail

When steps that may fail come to something, each of them has come to something.
-/

namespace WallpaperRotation

variable {Fault A B : Type}

/-- What a map makes is made of something. -/
theorem exists_of_map_ok {found : Except Fault A} {f : A → B} {made : B}
    (h : found.map f = .ok made) : ∃ value, found = .ok value ∧ f value = made := by
  cases found with
  | error fault => cases h
  | ok value => exact ⟨value, rfl, Except.ok.inj h⟩

/-- What two steps come to, the second one comes to from something that the first one did. -/
theorem exists_of_bind_ok {found : Except Fault A} {next : A → Except Fault B} {made : B}
    (h : (found >>= next) = .ok made) : ∃ value, found = .ok value ∧ next value = .ok made := by
  cases found with
  | error fault => cases h
  | ok value => exact ⟨value, rfl, h⟩

/-- A step is seen to have come to something when it has. -/
theorem toOption_eq_some_iff {found : Except Fault A} {value : A} :
    found.toOption = some value ↔ found = .ok value := by
  cases found <;> simp [Except.toOption]

end WallpaperRotation
