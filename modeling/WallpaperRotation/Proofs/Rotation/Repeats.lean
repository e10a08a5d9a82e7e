/-
# The same wallpaper twice in a row

Within a cycle a random choice is never the one before it.  A choice that completes a cycle is in
the ledger with all others, so the next one is drawn from all candidates, and is the same again
where the random words say so.  That happens at the end of a cycle only, so among candidates of two
identifiers at least no wallpaper comes three times in a row.  Two targets without scopes draw from
one ledger, and so get one record exactly when the home screen completes a cycle and the lock screen
draws the same again.
-/
import WallpaperRotation.Proofs.Rotation.Cycle
import WallpaperRotation.Proofs.Rotation.InTurn

namespace WallpaperRotation

/-! ## Two choices -/

/-- The cycle is over, and the words draw a wallpaper out of all candidates. -/
def Chance.Redraws (chance : Chance) (candidates : List Wallpaper) (w : Wallpaper) : Prop :=
  chance.ledger.covers candidates = true ∧
    ∃ drawn, candidates[(chance.words.draw candidates.length).1]? = some drawn ∧ drawn.id = w.id

variable {candidates : List Wallpaper} {chance : Chance} {now : Timestamp} {w : Wallpaper}

/-- A choice that accepts the next word takes what it stands for. -/
theorem selectRandom_of_accepts (hne : candidates ≠ []) (chance : Chance) (now : Timestamp)
    (haccepts : accepts (remaining candidates chance.ledger).length
      (chance.words.word chance.words.position) = true)
    (hdrawn : (remaining candidates chance.ledger)[
      indexOf (remaining candidates chance.ledger).length
        (chance.words.word chance.words.position)]? = some w) :
    selectRandom candidates chance now =
      (some w, ⟨(turned candidates chance.ledger).record w now,
        { chance.words with position := chance.words.position + 1 }⟩) := by
  obtain ⟨v, -, hget, hselect⟩ := exists_selectRandom_eq hne chance now
  rw [Words.draw_of_accepts haccepts] at hget hselect
  rw [hdrawn] at hget
  cases hget
  exact hselect

/-- What was chosen is in the ledger. -/
theorem contains_selectRandom (h : (selectRandom candidates chance now).1 = some w) :
    (selectRandom candidates chance now).2.ledger.contains w.id = true := by
  rw [(of_selectRandom_eq_some h).2, Ledger.contains_iff_mem_ids, Ledger.ids_record]
  exact List.mem_append_right _ (List.mem_singleton_self _)

/-- Of a wallpaper that the ledger holds the next choice is another one, unless the cycle is over and
the words draw that wallpaper. -/
theorem exists_selectRandom_iff (hne : candidates ≠ [])
    (hheld : chance.ledger.contains w.id = true) (now : Timestamp) :
    ∃ next, (selectRandom candidates chance now).1 = some next ∧
      (next.id = w.id ↔ chance.Redraws candidates w) := by
  obtain ⟨next, hnext, hdrawn, hselect⟩ := exists_selectRandom_eq hne chance now
  refine ⟨next, by rw [hselect], ?_⟩
  unfold Chance.Redraws
  by_cases hcovers : chance.ledger.covers candidates = true
  · have hall : remaining candidates chance.ledger = candidates := by
      rw [remaining, if_pos (covers_iff_fresh_eq_nil.1 hcovers)]
    rw [hall] at hdrawn
    rw [hdrawn]
    simp [hcovers]
  · rw [remaining, if_neg (covers_iff_fresh_eq_nil.not.1 hcovers)] at hnext
    refine iff_of_false (fun hsame => ?_) fun hredraws => hcovers hredraws.1
    rw [fresh, List.mem_filter, hsame, hheld] at hnext
    exact Bool.false_ne_true hnext.2

/-- Where the cycle was over, the ledger holds the choice only. -/
theorem ids_selectRandom_of_covers (hcovers : chance.ledger.covers candidates = true)
    (h : (selectRandom candidates chance now).1 = some w) :
    (selectRandom candidates chance now).2.ledger.ids = [w.id] := by
  rw [(of_selectRandom_eq_some h).2, turned, if_pos (covers_iff_fresh_eq_nil.1 hcovers),
    Ledger.ids_record]
  rfl

/-- Candidates of two identifiers are not none. -/
theorem ne_nil_of_two (htwo : ∃ v ∈ candidates, ∃ w ∈ candidates, v.id ≠ w.id) :
    candidates ≠ [] := by
  obtain ⟨v, hv, -⟩ := htwo
  exact List.ne_nil_of_mem hv

/-- A ledger of one identifier does not cover candidates of two. -/
theorem not_covers_of_ids {ledger : Ledger} {id : String} (hids : ledger.ids = [id])
    (htwo : ∃ v ∈ candidates, ∃ w ∈ candidates, v.id ≠ w.id) :
    ¬ledger.covers candidates = true := by
  obtain ⟨v, hv, w, hw, hne⟩ := htwo
  intro hcovers
  have hheld (u : Wallpaper) (hu : u ∈ candidates) : u.id = id := by
    have := List.all_eq_true.1 hcovers u hu
    rwa [Ledger.contains_iff_mem_ids, hids, List.mem_singleton] at this
  exact hne ((hheld v hv).trans (hheld w hw).symm)

/-! ## Choices one after the other -/

section Choices

variable {times : Nat → Timestamp} {start : Chance}

/-- Each of some choices among candidates is followed by one, the same again exactly when it ended a
cycle and the words draw it once more. -/
theorem exists_pickAt_succ_iff (hne : candidates ≠ []) (times : Nat → Timestamp) (start : Chance)
    (n : Nat) :
    ∃ v w, pickAt candidates times start n = some v ∧ pickAt candidates times start (n + 1) = some w ∧
      (w.id = v.id ↔ (chanceAt candidates times start (n + 1)).Redraws candidates v) := by
  obtain ⟨v, -, -, hselect⟩ := exists_selectRandom_eq hne (chanceAt candidates times start n) (times n)
  have hpick : pickAt candidates times start n = some v := by rw [pickAt, hselect]
  obtain ⟨w, hnext, hiff⟩ := exists_selectRandom_iff hne
    (show (chanceAt candidates times start (n + 1)).ledger.contains v.id = true from
      contains_selectRandom hpick) (times (n + 1))
  exact ⟨v, w, hpick, hnext, hiff⟩

/-- A choice that is the same as the one before it is followed by another one. -/
theorem pickAt_ne_of_repeated (htwo : ∃ v ∈ candidates, ∃ w ∈ candidates, v.id ≠ w.id) {n : Nat}
    {v w u : Wallpaper} (hfirst : pickAt candidates times start n = some v)
    (hsecond : pickAt candidates times start (n + 1) = some w) (hsame : w.id = v.id)
    (hthird : pickAt candidates times start (n + 2) = some u) : u.id ≠ w.id := by
  have hredraws (m : Nat) {x y : Wallpaper} (hx : pickAt candidates times start m = some x)
      (hy : pickAt candidates times start (m + 1) = some y) :
      y.id = x.id ↔ (chanceAt candidates times start (m + 1)).Redraws candidates x := by
    obtain ⟨x', y', hx', hy', hiff⟩ := exists_pickAt_succ_iff (ne_nil_of_two htwo) times start m
    rw [hx] at hx'
    rw [hy] at hy'
    cases hx'
    cases hy'
    exact hiff
  intro hagain
  -- The repetition began a cycle, and one choice does not complete it.
  have hcovers := ((hredraws n hfirst hsecond).1 hsame).1
  have hids : (chanceAt candidates times start (n + 2)).ledger.ids = [w.id] :=
    ids_selectRandom_of_covers hcovers hsecond
  exact not_covers_of_ids hids htwo ((hredraws (n + 1) hsecond hthird).1 hagain).1

end Choices

/-! ## Both targets -/

namespace Rotator

variable {rotator : Rotator} {plan : Plan} {applier : Applier} {notifier : Notifier}

/-- What picks from the library are made from. -/
def libraryChance (rotator : Rotator) : Chance := ⟨rotator.state.library, rotator.words⟩

/-- A target without a scope gets a random choice from the library, which the next pick from there
comes behind. -/
theorem pick_of_all (rotator : Rotator) {target : Target} (hall : plan.scope target = .all) :
    (rotator.pick plan target).1 =
        (selectRandom rotator.library.wallpapers rotator.libraryChance plan.now).1 ∧
      (rotator.pick plan target).2.libraryChance =
        (selectRandom rotator.library.wallpapers rotator.libraryChance plan.now).2 := by
  rw [pick, if_pos hall]
  exact ⟨rfl, rfl⟩

/-- Two targets without scopes get a record each, the same one exactly when the first pick ends a
cycle and the words draw it once more. -/
theorem exists_picks_eq (h : rotator.library.Consistent) (hne : rotator.library.wallpapers ≠ [])
    (hhome : plan.scope .home = .all) (hlock : plan.scope .lock = .all) :
    ∃ v w, pickEach (fun rotator target => rotator.pick plan target) Target.all rotator =
        [(.home, some v), (.lock, some w)] ∧
      (w = v ↔ (rotator.pick plan .home).2.libraryChance.Redraws rotator.library.wallpapers v) := by
  obtain ⟨hfirst, hbehind⟩ := pick_of_all rotator hhome
  obtain ⟨hsecond, -⟩ := pick_of_all (rotator.pick plan .home).2 hlock
  rw [library_pick, hbehind] at hsecond
  obtain ⟨v, hv, -, hselect⟩ := exists_selectRandom_eq hne rotator.libraryChance plan.now
  rw [hselect] at hfirst
  obtain ⟨w, hnext, hiff⟩ :=
    exists_selectRandom_iff hne (contains_selectRandom (congrArg Prod.fst hselect)) plan.now
  rw [hnext] at hsecond
  refine ⟨v, w, by simp only [Target.all, pickEach, hfirst, hsecond], ?_⟩
  rw [hbehind, ← hiff]
  exact ⟨fun hsame => by rw [hsame], Library.eq_of_id_eq h.idsDistinct
    (mem_of_mem_remaining (of_selectRandom_eq_some hnext).1) (mem_of_mem_remaining hv)⟩

end Rotator

/-! ## When choices repeat -/

/-- Repetitions of random choices.  Of two choices in a row among candidates of two identifiers at
least, the second one is the first one again exactly when the first one ended a cycle and the words
draw it once more from all candidates; then the third one is another one.  And a rotation at random
of two targets without scopes puts one record on both of them exactly when the pick for the home
screen ended a cycle and the words draw it once more for the lock screen. -/
theorem repeats_iff :
    (∀ (candidates : List Wallpaper) (times : Nat → Timestamp) (start : Chance),
      (∃ v ∈ candidates, ∃ w ∈ candidates, v.id ≠ w.id) →
      ∀ n, ∃ v w u, pickAt candidates times start n = some v ∧
        pickAt candidates times start (n + 1) = some w ∧
        pickAt candidates times start (n + 2) = some u ∧
        (w.id = v.id ↔ (chanceAt candidates times start (n + 1)).Redraws candidates v) ∧
        (w.id = v.id → u.id ≠ w.id)) ∧
    ∀ (operations : List Operation) (rotator : Rotator) (plan : Plan),
      rotator.library = Library.empty.run operations →
      plan.config.rotation.mode = .random → (∀ target, plan.scope target = .all) →
      (rotator.ready plan).library.wallpapers ≠ [] →
      ∃ v w,
        (w = v ↔ ((rotator.ready plan).pick plan .home).2.libraryChance.Redraws
          (rotator.ready plan).library.wallpapers v) ∧
        ∀ (applier : Applier) (notifier : Notifier) (outcomes : List Outcome) (after : Rotator),
          rotator.rotate plan .both applier notifier = (.ok outcomes, after) →
          outcomes = [.applied .home v, .applied .lock w] := by
  refine ⟨fun candidates times start htwo n => ?_,
    fun operations rotator plan hlibrary hmode hall hne => ?_⟩
  · have hne := ne_nil_of_two htwo
    obtain ⟨v, w, hv, hw, hiff⟩ := exists_pickAt_succ_iff hne times start n
    obtain ⟨-, u, -, hu, -⟩ := exists_pickAt_succ_iff hne times start (n + 1)
    exact ⟨v, w, u, hv, hw, hu, hiff, fun hsame => pickAt_ne_of_repeated htwo hv hw hsame hu⟩
  · have hconsistent : rotator.library.Consistent := by
      rw [hlibrary]
      exact Library.consistent_empty.run operations
    obtain ⟨v, w, hpicks, hiff⟩ :=
      Rotator.exists_picks_eq (Rotator.consistent_ready hconsistent plan) hne (hall .home) (hall .lock)
    refine ⟨v, w, hiff, fun applier notifier outcomes after hrotate => ?_⟩
    have hshares : plan.sharesPick .both = false := by simp [Plan.sharesPick, hmode]
    have hleaves := Rotator.rotateEach_leaves hshares rotator applier notifier
    rw [Rotator.rotate_eq, if_neg (by simp [hshares])] at hrotate
    rw [hrotate] at hleaves
    rw [hleaves.outcomes_eq, Rotator.picks, if_neg (by simp [hshares])]
    exact congrArg (List.map Outcome.ofPick) hpicks

/-- A ledger that holds the first of two candidates, and words that stand for the second one. -/
def repeatingChance : Chance :=
  ⟨⟨[⟨"a", ⟨"walls/a.png"⟩, sampleTimes 0⟩]⟩, Words.replay [0, 2147483648]⟩

/-- Two candidates have two identifiers. -/
theorem ids_samplePair : ∃ v ∈ samplePair, ∃ w ∈ samplePair, v.id ≠ w.id :=
  ⟨sampleWallpaper "a", List.mem_cons_self, sampleWallpaper "b",
    List.mem_cons_of_mem _ List.mem_cons_self, by decide⟩

/-- The second of two candidates ends a cycle and is drawn once more. -/
theorem pickAt_repeatingChance :
    pickAt samplePair sampleTimes repeatingChance 0 = some (sampleWallpaper "b") ∧
      pickAt samplePair sampleTimes repeatingChance 1 = some (sampleWallpaper "b") := by
  have hne : samplePair ≠ [] := List.cons_ne_nil _ _
  have hfirst := selectRandom_of_accepts (w := sampleWallpaper "b") hne repeatingChance
    (sampleTimes 0) (by decide +kernel) (by decide +kernel)
  have hsecond := selectRandom_of_accepts (w := sampleWallpaper "b") hne
    (selectRandom samplePair repeatingChance (sampleTimes 0)).2 (sampleTimes 1)
    (by rw [hfirst]; decide +kernel) (by rw [hfirst]; decide +kernel)
  exact ⟨congrArg Prod.fst hfirst, congrArg Prod.fst hsecond⟩

/-- Two choices in a row may be the same: the end of a cycle does not keep them apart. -/
theorem not_pickAt_succ_ne :
    ¬∀ (candidates : List Wallpaper) (times : Nat → Timestamp) (start : Chance),
      (∃ v ∈ candidates, ∃ w ∈ candidates, v.id ≠ w.id) →
      ∀ n v w, pickAt candidates times start n = some v →
        pickAt candidates times start (n + 1) = some w → w.id ≠ v.id := by
  intro hnever
  exact hnever samplePair sampleTimes repeatingChance ids_samplePair 0 _ _
    pickAt_repeatingChance.1 pickAt_repeatingChance.2 rfl

/-- A rotator with one record and without scopes. -/
def unscopedRotator : Rotator :=
  ⟨Library.empty.run [.insert (sampleWallpaper "a") .version], RotationState.fresh,
    Words.replay [], ⟨[], [], 0⟩, []⟩

/-- Settings for a rotation at random that does not check the records. -/
def unscopedPlan : Plan :=
  ⟨{ Config.initial ⟨"walls"⟩ with library := ⟨[⟨"walls"⟩], true, .version, false⟩ }, ⟨"/home"⟩,
    sampleTimes 0⟩

/-- A candidate that comes twice at the end of a cycle does not come a third time; and a rotation of
both targets through one record puts it on each of them. -/
theorem repeats_iff_two :
    (∃ u, pickAt samplePair sampleTimes repeatingChance 2 = some u ∧ u.id ≠ "b") ∧
      ∃ v w after,
        unscopedRotator.rotate unscopedPlan .both Rotator.idleApplier (fun _ _ disk => disk) =
          (.ok [.applied .home v, .applied .lock w], after) ∧
        (w = v ↔
          ((unscopedRotator.ready unscopedPlan).pick unscopedPlan .home).2.libraryChance.Redraws
            (unscopedRotator.ready unscopedPlan).library.wallpapers v) := by
  refine ⟨?_, ?_⟩
  · obtain ⟨v, w, u, hv, hw, hu, -, hthird⟩ :=
      repeats_iff.1 samplePair sampleTimes repeatingChance ids_samplePair 0
    rw [pickAt_repeatingChance.1] at hv
    rw [pickAt_repeatingChance.2] at hw
    cases hv
    cases hw
    exact ⟨u, hu, hthird rfl⟩
  · obtain ⟨v, w, hiff, houtcomes⟩ := repeats_iff.2 _ unscopedRotator unscopedPlan rfl rfl
      (fun target => by cases target <;> rfl) (by decide +kernel)
    obtain ⟨outcomes, after, hrotate⟩ : ∃ outcomes after, unscopedRotator.rotate unscopedPlan .both
        Rotator.idleApplier (fun _ _ disk => disk) = (.ok outcomes, after) :=
      Rotator.forTargets_eq_ok
        (fun _ target => Rotator.isOk_presentPick (fun _ _ _ => rfl) _ _ target _) _ _
    obtain rfl := houtcomes _ _ _ _ hrotate
    exact ⟨v, w, after, hrotate, hiff⟩

end WallpaperRotation
