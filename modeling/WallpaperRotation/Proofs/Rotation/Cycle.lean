/-
# Cycles of random choices

A random choice is made from the candidates that the ledger does not hold, or from all of them when
it holds every one.  Choosing takes one candidate out of those that remain, so the choices go
through the candidates that the ledger did not hold at first, and then through all of them, cycle
after cycle.
-/
import Mathlib.Data.List.Nodup
import WallpaperRotation.Rotation.Select

namespace WallpaperRotation

/-! ## What remains -/

/-- The candidates that a ledger does not hold. -/
def fresh (candidates : List Wallpaper) (ledger : Ledger) : List Wallpaper :=
  candidates.filter fun w => !ledger.contains w.id

/-- The candidates that may come next: those that the ledger does not hold or, at the end of a
cycle, all of them. -/
def remaining (candidates : List Wallpaper) (ledger : Ledger) : List Wallpaper :=
  if fresh candidates ledger = [] then candidates else fresh candidates ledger

/-- The ledger that the next choice is put down in. -/
def turned (candidates : List Wallpaper) (ledger : Ledger) : Ledger :=
  if fresh candidates ledger = [] then Ledger.empty else ledger

/-- Putting identifiers in adds them to a set. -/
theorem IdSet.contains_foldl_insert (set : IdSet) (ids : List String) (id : String) :
    (ids.foldl insert set).contains id = true ↔ id ∈ ids ∨ set.contains id = true := by
  induction ids generalizing set with
  | nil => simp
  | cons other ids ih =>
    rw [List.foldl_cons, ih, contains_insert, List.mem_cons]
    constructor
    · rintro (h | h | h)
      · exact Or.inl (Or.inr h)
      · exact Or.inl (Or.inl h)
      · exact Or.inr h
    · rintro ((h | h) | h)
      · exact Or.inr (Or.inl h)
      · exact Or.inl h
      · exact Or.inr (Or.inr h)

/-- The set of the identifiers in a list holds these. -/
theorem IdSet.contains_ofList (ids : List String) (id : String) :
    (ofList ids).contains id = true ↔ id ∈ ids := by
  rw [ofList, contains_foldl_insert]
  simp [empty, contains]

variable {candidates : List Wallpaper} {ledger : Ledger}

/-- A ledger covers the candidates when none of them is fresh. -/
theorem covers_iff_fresh_eq_nil :
    ledger.covers candidates = true ↔ fresh candidates ledger = [] := by
  simp [Ledger.covers, fresh]

/-- The ledger leaves out all but the remaining candidates, so the pool is never empty by itself. -/
theorem filter_exclusions_eq_remaining :
    (candidates.filter fun w => !(ledger.exclusions candidates).1.contains w.id) =
      remaining candidates ledger := by
  unfold Ledger.exclusions remaining
  by_cases hfresh : fresh candidates ledger = []
  · simp [covers_iff_fresh_eq_nil.2 hfresh, hfresh, IdSet.empty, IdSet.contains]
  · rw [if_neg (covers_iff_fresh_eq_nil.not.2 hfresh), if_neg hfresh]
    unfold fresh
    refine List.filter_congr fun w _ => ?_
    rw [Bool.eq_iff_iff, Bool.not_eq_true', Bool.not_eq_true', ← Bool.not_eq_true,
      ← Bool.not_eq_true, IdSet.contains_ofList, Ledger.contains_iff_mem_ids]

/-- Among some candidates some remain. -/
theorem remaining_ne_nil (h : candidates ≠ []) : remaining candidates ledger ≠ [] := by
  unfold remaining
  by_cases hfresh : fresh candidates ledger = []
  · rw [if_pos hfresh]
    exact h
  · rw [if_neg hfresh]
    exact hfresh

/-- What remains are candidates. -/
theorem mem_of_mem_remaining {w : Wallpaper} (h : w ∈ remaining candidates ledger) :
    w ∈ candidates := by
  unfold remaining at h
  by_cases hfresh : fresh candidates ledger = []
  · rw [if_pos hfresh] at h
    exact h
  · rw [if_neg hfresh] at h
    exact (List.mem_filter.1 h).1

/-- A choice is made from what remains. -/
theorem selectionPool_eq (h : candidates ≠ []) :
    selectionPool candidates ledger = (remaining candidates ledger, turned candidates ledger) := by
  have hturned : (ledger.exclusions candidates).2 = turned candidates ledger := by
    unfold Ledger.exclusions turned
    by_cases hfresh : fresh candidates ledger = []
    · rw [if_pos (covers_iff_fresh_eq_nil.2 hfresh), if_pos hfresh]
    · rw [if_neg (covers_iff_fresh_eq_nil.not.2 hfresh), if_neg hfresh]
  unfold selectionPool
  simp only [filter_exclusions_eq_remaining, if_neg (remaining_ne_nil h), hturned]

/-! ## One choice -/

/-- What is fresh after a showing is what was fresh before, apart from the wallpaper shown. -/
theorem fresh_record (w : Wallpaper) (now : Timestamp) :
    fresh candidates (ledger.record w now) =
      (fresh candidates ledger).filter fun v => v.id ≠ w.id := by
  unfold fresh
  rw [List.filter_filter]
  refine List.filter_congr fun v _ => ?_
  rw [Bool.eq_iff_iff, Bool.and_eq_true, decide_eq_true_eq, Bool.not_eq_true', Bool.not_eq_true',
    ← Bool.not_eq_true, ← Bool.not_eq_true, Ledger.contains_iff_mem_ids, Ledger.ids_record,
    Ledger.contains_iff_mem_ids]
  by_cases hid : v.id = w.id <;> simp [hid]

/-- What remains for a ledger is what is fresh for the one that the choice is put down in. -/
theorem fresh_turned :
    fresh candidates (turned candidates ledger) = remaining candidates ledger := by
  unfold turned remaining
  by_cases hfresh : fresh candidates ledger = []
  · rw [if_pos hfresh, if_pos hfresh]
    simp [fresh, Ledger.empty, Ledger.contains]
  · rw [if_neg hfresh, if_neg hfresh]

/-- A choice takes the drawn one of those that remain, and puts it down. -/
theorem exists_selectRandom_eq (hne : candidates ≠ []) (chance : Chance) (now : Timestamp) :
    ∃ w ∈ remaining candidates chance.ledger,
      (remaining candidates chance.ledger)[
        (chance.words.draw (remaining candidates chance.ledger).length).1]? = some w ∧
      selectRandom candidates chance now = (some w,
        ⟨(turned candidates chance.ledger).record w now,
          (chance.words.draw (remaining candidates chance.ledger).length).2⟩) := by
  have hpool : 0 < (remaining candidates chance.ledger).length :=
    List.length_pos_iff.2 (remaining_ne_nil hne)
  obtain ⟨w, hget⟩ : ∃ w, (remaining candidates chance.ledger)[
      (chance.words.draw (remaining candidates chance.ledger).length).1]? = some w :=
    ⟨_, List.getElem?_eq_getElem (chance.words.draw_lt hpool)⟩
  refine ⟨w, List.mem_of_getElem? hget, hget, ?_⟩
  unfold selectRandom
  simp only [if_neg hne, selectionPool_eq hne, hget]

/-- What is chosen was drawn from those that remain, and is put down. -/
theorem of_selectRandom_eq_some {chance : Chance} {now : Timestamp} {w : Wallpaper}
    (h : (selectRandom candidates chance now).1 = some w) :
    w ∈ remaining candidates chance.ledger ∧
      (selectRandom candidates chance now).2.ledger =
        (turned candidates chance.ledger).record w now := by
  by_cases hne : candidates = []
  · rw [selectRandom, if_pos hne] at h
    cases h
  · obtain ⟨v, hv, -, hselect⟩ := exists_selectRandom_eq hne chance now
    rw [hselect] at h ⊢
    cases h
    exact ⟨hv, rfl⟩

/-- A choice takes one candidate out of those that remain. -/
theorem selectRandom_spec (hne : candidates ≠ []) (hids : (candidates.map Wallpaper.id).Nodup)
    (chance : Chance) (now : Timestamp) :
    ∃ w ∈ remaining candidates chance.ledger,
      (selectRandom candidates chance now).1 = some w ∧
      (selectRandom candidates chance now).2.ledger =
        (turned candidates chance.ledger).record w now ∧
      (remaining candidates chance.ledger).Perm
        (w :: fresh candidates (selectRandom candidates chance now).2.ledger) := by
  obtain ⟨w, hmem, -, hselect⟩ := exists_selectRandom_eq hne chance now
  refine ⟨w, hmem, by rw [hselect], by rw [hselect], ?_⟩
  -- Identifiers are distinct, so leaving out the choice's identifier leaves out the choice only.
  have herase : (remaining candidates chance.ledger).erase w =
      (remaining candidates chance.ledger).filter fun v => v.id ≠ w.id := by
    have hnodup : (remaining candidates chance.ledger).Nodup := by
      rw [← fresh_turned]
      exact hids.of_map.filter _
    rw [hnodup.erase_eq_filter]
    refine List.filter_congr fun v hv => ?_
    by_cases hid : v.id = w.id
    · have heq : v = w := List.inj_on_of_nodup_map hids (mem_of_mem_remaining hv)
        (mem_of_mem_remaining hmem) hid
      simp [heq]
    · have hvw : v ≠ w := fun heq => hid (heq ▸ rfl)
      simp [hid, hvw]
  rw [hselect, fresh_record, fresh_turned, ← herase]
  exact List.perm_cons_erase hmem

/-! ## Choices one after the other -/

/-- What a choice is made from after so many choices at their times. -/
def chanceAt (candidates : List Wallpaper) (times : Nat → Timestamp) (start : Chance) :
    Nat → Chance
  | 0 => start
  | n + 1 => (selectRandom candidates (chanceAt candidates times start n) (times n)).2

/-- The choice after so many others. -/
def pickAt (candidates : List Wallpaper) (times : Nat → Timestamp) (start : Chance) (n : Nat) :
    Option Wallpaper :=
  (selectRandom candidates (chanceAt candidates times start n) (times n)).1

variable {times : Nat → Timestamp} {start : Chance}

/-- Choices go on as if they had started later. -/
theorem chanceAt_add (m n : Nat) :
    chanceAt candidates times start (m + n) =
      chanceAt candidates (fun i => times (m + i)) (chanceAt candidates times start m) n := by
  induction n with
  | zero => rfl
  | succ n ih =>
    rw [← Nat.add_assoc, chanceAt, chanceAt, ih]

/-- Choices go on as if they had started later. -/
theorem pickAt_add (m n : Nat) :
    pickAt candidates times start (m + n) =
      pickAt candidates (fun i => times (m + i)) (chanceAt candidates times start m) n := by
  rw [pickAt, pickAt, chanceAt_add]

/-- The choices behind the first one are those from the chance after it. -/
theorem map_pickAt_succ (n : Nat) :
    (List.range (n + 1)).map (pickAt candidates times start) =
      pickAt candidates times start 0 :: (List.range n).map
        (pickAt candidates (fun i => times (1 + i)) (chanceAt candidates times start 1)) := by
  rw [List.range_succ_eq_map, List.map_cons, List.map_map]
  congr 2
  funext i
  rw [← pickAt_add, Nat.add_comm 1 i]
  rfl

/-- The choices go through what is fresh, and then nothing is. -/
theorem picks_of_fresh (hne : candidates ≠ []) (hids : (candidates.map Wallpaper.id).Nodup)
    (times : Nat → Timestamp) (start : Chance) {n : Nat}
    (hn : (fresh candidates start.ledger).length = n) :
    ((List.range n).map (pickAt candidates times start)).Perm
        ((fresh candidates start.ledger).map some) ∧
      fresh candidates (chanceAt candidates times start n).ledger = [] := by
  -- Induction on how many are fresh: the first choice takes one of them out, and the other choices
  -- are those of a run that starts behind it.
  induction n generalizing times start with
  | zero =>
    have hnil := List.length_eq_zero_iff.1 hn
    refine ⟨?_, hnil⟩
    rw [hnil]
    exact List.Perm.nil
  | succ n ih =>
    have hsome : fresh candidates start.ledger ≠ [] := by
      intro hnil
      rw [hnil] at hn
      cases hn
    obtain ⟨w, -, hpick, -, hperm⟩ := selectRandom_spec hne hids start (times 0)
    rw [remaining, if_neg hsome] at hperm
    have hlength : (fresh candidates (chanceAt candidates times start 1).ledger).length = n := by
      have := hperm.length_eq
      rw [hn, List.length_cons] at this
      exact (Nat.succ.inj this).symm
    obtain ⟨hrest, hnil⟩ := ih (fun i => times (1 + i)) _ hlength
    refine ⟨?_, ?_⟩
    · rw [map_pickAt_succ, show pickAt candidates times start 0 = some w from hpick]
      exact (hrest.cons (some w)).trans (hperm.map some).symm
    · rw [Nat.add_comm n 1, chanceAt_add]
      exact hnil

/-- Where nothing is fresh the choices go through all candidates, and then nothing is fresh. -/
theorem picks_of_fresh_eq_nil (hne : candidates ≠ []) (hids : (candidates.map Wallpaper.id).Nodup)
    (times : Nat → Timestamp) (hstart : fresh candidates start.ledger = []) :
    ((List.range candidates.length).map (pickAt candidates times start)).Perm
        (candidates.map some) ∧
      fresh candidates (chanceAt candidates times start candidates.length).ledger = [] := by
  -- The first choice begins a cycle; the others go through what is fresh behind it.
  obtain ⟨w, -, hpick, -, hperm⟩ := selectRandom_spec hne hids start (times 0)
  rw [remaining, if_pos hstart] at hperm
  obtain ⟨hrest, hnil⟩ := picks_of_fresh hne hids (fun i => times (1 + i))
    (chanceAt candidates times start 1) rfl
  rw [hperm.length_eq, List.length_cons]
  refine ⟨?_, ?_⟩
  · rw [map_pickAt_succ, show pickAt candidates times start 0 = some w from hpick]
    exact (hrest.cons (some w)).trans (hperm.map some).symm
  · rw [Nat.add_comm _ 1, chanceAt_add]
    exact hnil

/-- After what was fresh at first and any number of whole cycles, nothing is fresh. -/
theorem fresh_eq_nil_after_cycles (hne : candidates ≠ [])
    (hids : (candidates.map Wallpaper.id).Nodup) (times : Nat → Timestamp) (start : Chance)
    (cycles : Nat) :
    fresh candidates (chanceAt candidates times start
      ((fresh candidates start.ledger).length + cycles * candidates.length)).ledger = [] := by
  induction cycles with
  | zero =>
    rw [Nat.zero_mul, Nat.add_zero]
    exact (picks_of_fresh hne hids times start rfl).2
  | succ cycles ih =>
    rw [Nat.succ_mul, ← Nat.add_assoc, chanceAt_add]
    exact (picks_of_fresh_eq_nil hne hids _ ih).2

/-- Random choices among some candidates of distinct identifiers go in cycles.  Each choice is a
candidate that the ledger does not hold, unless it holds them all; then the ledger begins anew with
that choice.  So the first choices are the candidates that the ledger did not hold at first, each
of them once, and the others come in blocks that hold every candidate once.  The ledger never
leaves out all of the candidates. -/
theorem pickAt_cycles (hne : candidates ≠ []) (hids : (candidates.map Wallpaper.id).Nodup)
    (times : Nat → Timestamp) (start : Chance) :
    (∀ n, ∃ w ∈ candidates, pickAt candidates times start n = some w ∧
      ((chanceAt candidates times start n).ledger.contains w.id = true →
        (chanceAt candidates times start n).ledger.covers candidates = true) ∧
      ((chanceAt candidates times start n).ledger.covers candidates = true →
        (chanceAt candidates times start (n + 1)).ledger = ⟨[⟨w.id, w.path, times n⟩]⟩)) ∧
    (∀ n, (candidates.filter fun w =>
      !((chanceAt candidates times start n).ledger.exclusions candidates).1.contains w.id) ≠ []) ∧
    ((List.range (fresh candidates start.ledger).length).map (pickAt candidates times start)).Perm
      ((fresh candidates start.ledger).map some) ∧
    ∀ cycles, ((List.range candidates.length).map fun i => pickAt candidates times start
      ((fresh candidates start.ledger).length + cycles * candidates.length + i)).Perm
        (candidates.map some) := by
  refine ⟨fun n => ?_, fun n => ?_, (picks_of_fresh hne hids times start rfl).1,
    fun cycles => ?_⟩
  · obtain ⟨w, hw, hpick, hledger, -⟩ :=
      selectRandom_spec hne hids (chanceAt candidates times start n) (times n)
    refine ⟨w, mem_of_mem_remaining hw, hpick, fun hheld => ?_, fun hcovers => ?_⟩
    · rw [covers_iff_fresh_eq_nil]
      by_contra hfresh
      rw [remaining, if_neg hfresh, fresh, List.mem_filter, hheld] at hw
      exact absurd hw.2 (by decide)
    · rw [chanceAt, hledger, turned, if_pos (covers_iff_fresh_eq_nil.1 hcovers)]
      rfl
  · rw [filter_exclusions_eq_remaining]
    exact remaining_ne_nil hne
  · simp only [pickAt_add]
    exact (picks_of_fresh_eq_nil hne hids _
      (fresh_eq_nil_after_cycles hne hids times start cycles)).1

/-- A wallpaper with an identifier. -/
def sampleWallpaper (id : String) : Wallpaper :=
  ⟨id, id ++ ".png", ⟨"walls/" ++ id ++ ".png"⟩, 1920, 1080, ⟨"walls"⟩, 1024, 0⟩

/-- Two wallpapers, in the order of a library. -/
def samplePair : List Wallpaper := [sampleWallpaper "a", sampleWallpaper "b"]

/-- The first seconds of a year. -/
def sampleTimes (second : Nat) : Timestamp :=
  ⟨⟨2024, 1, 1⟩, second, 0⟩

/-- A ledger that holds a stranger and a wallpaper, before any word was read. -/
def sampleChance : Chance :=
  ⟨⟨[⟨"x", ⟨"walls/x.png"⟩, sampleTimes 0⟩, ⟨"a", ⟨"walls/a.png"⟩, sampleTimes 1⟩]⟩,
    Words.replay [7]⟩

/-- Of two candidates the one that the ledger does not hold comes first. -/
theorem pickAt_cycles_two :
    [sampleWallpaper "a", sampleWallpaper "b"] ≠ [] ∧
    ([sampleWallpaper "a", sampleWallpaper "b"].map Wallpaper.id).Nodup ∧
    pickAt [sampleWallpaper "a", sampleWallpaper "b"] sampleTimes sampleChance 0 =
      some (sampleWallpaper "b") := by
  have hne : [sampleWallpaper "a", sampleWallpaper "b"] ≠ [] := List.cons_ne_nil _ _
  have hids : ([sampleWallpaper "a", sampleWallpaper "b"].map Wallpaper.id).Nodup := by decide
  have hfirst := (pickAt_cycles hne hids sampleTimes sampleChance).2.2.1
  exact ⟨hne, hids, List.singleton_perm_singleton.1 hfirst⟩

end WallpaperRotation
