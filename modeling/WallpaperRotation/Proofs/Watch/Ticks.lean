/-
# Changes that a daemon passes on

A change in the folders is passed on by the first tick that is started after it, and by that one
only: when its call fails, the next tick rescans the folders only if they changed again.
-/
import WallpaperRotation.Proofs.Watch.Course

namespace WallpaperRotation

/-! ## Noted changes -/

/-- No tick was started. -/
def IsQuiet (happenings : List Happening) : Prop :=
  ticksOf happenings = []

/-- A relevant change came, and no tick was started since. -/
def HasNews (happenings : List Happening) : Prop :=
  ∃ earlier change later, happenings = earlier ++ .changed change :: later ∧
    change.isRelevant = true ∧ IsQuiet later

/-- There is no news where nothing happened. -/
theorem not_hasNews_nil : ¬HasNews [] := by
  rintro ⟨earlier, change, later, h, -⟩
  exact absurd h.symm (List.append_ne_nil_of_right_ne_nil earlier (List.cons_ne_nil _ _))

/-- What is first is news, or there is news behind it. -/
theorem hasNews_cons_iff {first : Happening} {happenings : List Happening} :
    HasNews (first :: happenings) ↔
      (∃ change, first = .changed change ∧ change.isRelevant = true ∧ IsQuiet happenings) ∨
        HasNews happenings := by
  constructor
  · rintro ⟨earlier, change, later, h, hrelevant, hquiet⟩
    cases earlier with
    | nil =>
      cases h
      exact Or.inl ⟨change, rfl, hrelevant, hquiet⟩
    | cons other earlier =>
      cases h
      exact Or.inr ⟨earlier, change, later, rfl, hrelevant, hquiet⟩
  · rintro (⟨change, rfl, hrelevant, hquiet⟩ | ⟨earlier, change, later, rfl, hrelevant, hquiet⟩)
    · exact ⟨[], change, happenings, rfl, hrelevant, hquiet⟩
    · exact ⟨first :: earlier, change, later, rfl, hrelevant, hquiet⟩

/-- A change is noted after some happenings when it was before and no tick was started, or when
there is news. -/
theorem foldl_notes_iff (happenings : List Happening) (dirty : Bool) :
    happenings.foldl Happening.notes dirty = true ↔
      dirty = true ∧ IsQuiet happenings ∨ HasNews happenings := by
  induction happenings generalizing dirty with
  | nil => simp [IsQuiet, ticksOf, not_hasNews_nil]
  | cons first happenings ih =>
    rw [List.foldl_cons, ih, hasNews_cons_iff]
    cases first with
    | changed change =>
      have hquiet : IsQuiet (.changed change :: happenings) ↔ IsQuiet happenings := Iff.rfl
      simp only [Happening.notes, Bool.or_eq_true, hquiet, Happening.changed.injEq,
        exists_eq_left', or_and_right, or_assoc]
    | ticked tick =>
      have hquiet : ¬IsQuiet (.ticked tick :: happenings) := List.cons_ne_nil _ _
      simp [Happening.notes, hquiet]

namespace Daemon

variable {World : Type}

/-- When a change is passed on.  A tick that is started after a relevant change rescans the folders
exactly when no tick was started in between, or another relevant change came after the start of the
last one.  Neither of them need succeed: the first tick after a change rescans, and the next one
does not do so for the same change. -/
theorem rescan_iff {callback : Callback World} {teller : Teller World} {moments : List Moment}
    {daemon : Daemon World} {before between after : List Happening} {change : Change} {tick : Tick}
    (hcourse : course callback teller moments daemon =
      before ++ .changed change :: (between ++ .ticked tick :: after))
    (hrelevant : change.isRelevant = true) :
    tick.rescan = true ↔ IsQuiet between ∨ HasNews between := by
  have hsplit : course callback teller moments daemon =
      (before ++ .changed change :: between) ++ .ticked tick :: after := by
    rw [hcourse, List.append_assoc, List.cons_append]
  obtain ⟨begun, hleads, hrescan, -⟩ := exists_leads_of_course_eq hsplit
  rw [hrescan, hleads.isDirty, List.foldl_append, List.foldl_cons, Happening.notes, hrelevant,
    Bool.or_true, foldl_notes_iff, eq_self, true_and]

/-- A callback whose first call sees an image appear, whose second call fails, and whose other calls
go well; its world is the number of calls that were made. -/
def failsOnce : Callback Nat := fun _ calls =>
  (if calls = 1 then .failed "boom 1" else .done,
    if calls = 0 then [⟨.created, [⟨"w/a.png"⟩]⟩] else [], calls + 1)

/-- The second tick is told of the image that appeared during the first one, and fails; the third
one is not told. -/
theorem course_failsOnce :
    course failsOnce (fun _ calls => calls) (List.replicate 3 .tick) (start 0) =
      [.ticked ⟨false, some .done⟩, .changed ⟨.created, [⟨"w/a.png"⟩]⟩,
        .ticked ⟨true, some (.failed "boom 1")⟩, .ticked ⟨false, some .done⟩] := by
  rfl

/-- The change that the second tick of the course was told of is no news for the third one, which
goes well and is not told. -/
theorem rescan_iff_failsOnce :
    ∃ before change between tick,
      course failsOnce (fun _ calls => calls) (List.replicate 3 .tick) (start 0) =
        before ++ .changed change :: (between ++ .ticked tick :: []) ∧
      change.isRelevant = true ∧ ticksOf between = [⟨true, some (.failed "boom 1")⟩] ∧
      tick = ⟨false, some .done⟩ ∧ (tick.rescan = true ↔ IsQuiet between ∨ HasNews between) := by
  have hrelevant : (⟨.created, [⟨"w/a.png"⟩]⟩ : Change).isRelevant = true := by decide +kernel
  have hcourse : course failsOnce (fun _ calls => calls) (List.replicate 3 .tick) (start 0) =
      [.ticked ⟨false, some .done⟩] ++ .changed ⟨.created, [⟨"w/a.png"⟩]⟩ ::
        ([.ticked ⟨true, some (.failed "boom 1")⟩] ++ .ticked ⟨false, some .done⟩ :: []) :=
    course_failsOnce
  exact ⟨_, _, _, _, hcourse, hrelevant, rfl, rfl, rescan_iff hcourse hrelevant⟩

/-- The first tick after a relevant change that goes well need not be told of it: a tick before it
may have been told, and have failed. -/
theorem not_first_done_rescans :
    ¬∀ (World : Type) (callback : Callback World) (teller : Teller World) (moments : List Moment)
      (world : World) (before between after : List Happening) (change : Change) (tick : Tick),
      course callback teller moments (start world) =
          before ++ .changed change :: (between ++ .ticked tick :: after) →
        change.isRelevant = true → tick.ending = some .done →
        (∀ other ∈ ticksOf between, other.ending ≠ some .done) → tick.rescan = true := by
  intro h
  have hfailed : ∀ other ∈ ticksOf [.ticked ⟨true, some (.failed "boom 1")⟩],
      other.ending ≠ some .done := by decide
  exact absurd (h Nat failsOnce (fun _ calls => calls) (List.replicate 3 .tick) 0
    [.ticked ⟨false, some .done⟩] [.ticked ⟨true, some (.failed "boom 1")⟩] []
    ⟨.created, [⟨"w/a.png"⟩]⟩ ⟨false, some .done⟩ course_failsOnce (by decide +kernel) rfl hfailed)
    Bool.false_ne_true

end Daemon

end WallpaperRotation
