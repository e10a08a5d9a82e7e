/-
# Fair draws

A draw below a bound reads words until it accepts one.  The words that it accepts for an index stand
in a row, and there are as many of them for each index: two to the number of zeros in front of the
bound.  So a random choice is uniform over the candidates that remain: each of them is chosen for
the same number of accepted words, and a word that is not accepted is passed over.
-/
import Mathlib.Algebra.Order.Floor.Div
import Mathlib.Data.Set.Card
import Mathlib.Order.Interval.Finset.Nat
import WallpaperRotation.Proofs.Rotation.Cycle

namespace WallpaperRotation

/-! ## Shares of an index -/

/-- The zeros in front of a number that is written as a word. -/
def leadingZeros (number : Nat) : Nat :=
  (BitVec.ofNat 32 number).clz.toNat

/-- The first word whose index is not below the given one. -/
def firstWord (bound index : Nat) : Nat :=
  (index * wordCount) ⌈/⌉ bound

section Shares

variable {bound index : Nat}

/-- A number has no digits but those behind the zeros in front of it. -/
theorem lt_two_pow_sub_leadingZeros (hword : bound < wordCount) :
    bound < 2 ^ (32 - leadingZeros bound) := by
  have hhigh := BitVec.toNat_lt_two_pow_sub_clz (x := BitVec.ofNat 32 bound)
  have hmod : bound % 2 ^ 32 = bound := Nat.mod_eq_of_lt hword
  rwa [BitVec.toNat_ofNat, hmod] at hhigh

/-- A number shifted by the zeros in front of it is still a word. -/
theorem mul_two_pow_leadingZeros_lt (hword : bound < wordCount) :
    bound * 2 ^ leadingZeros bound < wordCount := by
  have hle : leadingZeros bound ≤ 32 := BitVec.clz_le (x := BitVec.ofNat 32 bound)
  calc bound * 2 ^ leadingZeros bound
      < 2 ^ (32 - leadingZeros bound) * 2 ^ leadingZeros bound :=
        Nat.mul_lt_mul_of_pos_right (lt_two_pow_sub_leadingZeros hword) (Nat.two_pow_pos _)
    _ = wordCount := by
        rw [← Nat.pow_add, Nat.sub_add_cancel hle]
        rfl

/-- The zeros in front of a number are those above its highest digit. -/
theorem leadingZeros_eq (hpos : 0 < bound) (hword : bound < wordCount) :
    leadingZeros bound = 31 - bound.log2 := by
  have hnat : (BitVec.ofNat 32 bound).toNat = bound := by
    rw [BitVec.toNat_ofNat]
    exact Nat.mod_eq_of_lt hword
  have hne : BitVec.ofNat 32 bound ≠ 0#32 := fun hzero => by
    rw [hzero] at hnat
    exact hpos.ne hnat
  have hlow : 2 ^ (31 - leadingZeros bound) ≤ bound := by
    have := BitVec.two_pow_sub_clz_le_toNat_of_ne_zero (by decide) hne
    rwa [hnat] at this
  have hhigh := lt_two_pow_sub_leadingZeros hword
  have hlt : leadingZeros bound < 32 := BitVec.lt_def.1 (BitVec.clz_lt_iff_ne_zero.2 hne)
  have hlog : bound.log2 = 31 - leadingZeros bound := by
    refine (Nat.log2_eq_iff hpos.ne').2 ⟨hlow, ?_⟩
    rwa [show 31 - leadingZeros bound + 1 = 32 - leadingZeros bound by omega]
  omega

/-- A word is accepted when the low half of its product is below the bound shifted up to the top. -/
theorem accepts_iff (hpos : 0 < bound) (hword : bound < wordCount) {word : UInt32} :
    accepts bound word = true ↔
      word.toNat * bound % wordCount ≤ (bound <<< leadingZeros bound) - 1 := by
  have hzone : acceptanceZone bound = (bound <<< leadingZeros bound) - 1 := by
    rw [acceptanceZone, leadingZeros_eq hpos hword, Nat.shiftLeft_eq]
    rfl
  rw [accepts, decide_eq_true_eq, hzone]

/-- A word is accepted for an index when its product is in the zone that starts at the index. -/
theorem accepts_and_indexOf_eq_iff (hpos : 0 < bound) (hword : bound < wordCount)
    {word : UInt32} :
    accepts bound word = true ∧ indexOf bound word = index ↔
      index * wordCount ≤ word.toNat * bound ∧
        word.toNat * bound < index * wordCount + bound * 2 ^ leadingZeros bound := by
  have hzone := mul_two_pow_leadingZeros_lt hword
  have hfilled : 0 < bound * 2 ^ leadingZeros bound := Nat.mul_pos hpos (Nat.two_pow_pos _)
  rw [accepts_iff hpos hword, Nat.shiftLeft_eq, indexOf]
  unfold wordCount at hzone ⊢
  omega

/-- A product is not below the zone of an index when the word is not below the first one. -/
theorem firstWord_le_iff (hpos : 0 < bound) {number : Nat} :
    firstWord bound index ≤ number ↔ index * wordCount ≤ number * bound := by
  rw [firstWord, ceilDiv_le_iff_le_mul hpos, Nat.mul_comm bound]

/-- The words that are accepted for an index stand in a row. -/
theorem accepts_and_indexOf_eq_iff_mem_Ico (hpos : 0 < bound) (hword : bound < wordCount)
    {word : UInt32} :
    accepts bound word = true ∧ indexOf bound word = index ↔
      word.toNat ∈ Set.Ico (firstWord bound index)
        (firstWord bound index + 2 ^ leadingZeros bound) := by
  rw [accepts_and_indexOf_eq_iff hpos hword, Set.mem_Ico, firstWord_le_iff hpos]
  refine and_congr_right fun _ => ?_
  rcases Nat.lt_or_ge word.toNat (2 ^ leadingZeros bound) with hlt | hge
  · refine iff_of_true ?_ (Nat.lt_add_left _ hlt)
    rw [Nat.mul_comm bound]
    exact Nat.lt_add_left _ (Nat.mul_lt_mul_of_pos_right hlt hpos)
  · -- The word is in the zone when the one that stands a whole row before it is below the zone.
    obtain ⟨before, hbefore⟩ := Nat.exists_eq_add_of_le' hge
    rw [hbefore, Nat.add_mul, Nat.mul_comm bound, Nat.add_lt_add_iff_right,
      Nat.add_lt_add_iff_right, ← Nat.not_le, ← Nat.not_le, firstWord_le_iff hpos]

/-- The row of words that are accepted for an index below the bound consists of words. -/
theorem firstWord_add_le (hpos : 0 < bound) (hword : bound < wordCount) (hindex : index < bound) :
    firstWord bound index + 2 ^ leadingZeros bound ≤ wordCount := by
  have hzone := mul_two_pow_leadingZeros_lt hword
  have hrow : 2 ^ leadingZeros bound ≤ wordCount :=
    Nat.le_trans (Nat.le_mul_of_pos_left _ hpos) hzone.le
  refine Nat.add_le_of_le_sub hrow ((firstWord_le_iff hpos).2 ?_)
  have hnext : index * wordCount + wordCount ≤ wordCount * bound := by
    rw [← Nat.succ_mul, Nat.mul_comm]
    exact Nat.mul_le_mul_left _ hindex
  rw [Nat.sub_mul, Nat.mul_comm (2 ^ _)]
  omega

/-- As many words are accepted for each index. -/
theorem ncard_accepts_and_indexOf_eq (hpos : 0 < bound) (hword : bound < wordCount)
    (hindex : index < bound) :
    {word : UInt32 | accepts bound word = true ∧ indexOf bound word = index}.ncard =
      2 ^ leadingZeros bound := by
  have hset : {word : UInt32 | accepts bound word = true ∧ indexOf bound word = index} =
      Set.preimage UInt32.toNat (Set.Ico (firstWord bound index)
        (firstWord bound index + 2 ^ leadingZeros bound)) :=
    Set.ext fun word => accepts_and_indexOf_eq_iff_mem_Ico hpos hword
  have hwords : Set.Ico (firstWord bound index) (firstWord bound index + 2 ^ leadingZeros bound) ⊆
      Set.range UInt32.toNat := fun number hnumber =>
    ⟨UInt32.ofNat number, UInt32.toNat_ofNat_of_lt'
      (Nat.lt_of_lt_of_le hnumber.2 (firstWord_add_le hpos hword hindex))⟩
  rw [hset, Set.ncard_preimage_of_injective_subset_range (fun _ _ => UInt32.toNat_inj.1) hwords,
    ← Finset.coe_Ico, Set.ncard_coe_finset, Nat.card_Ico, Nat.add_sub_cancel_left]

end Shares

/-! ## First words -/

namespace Words

/-- The stream behind the next word. -/
def skip (words : Words) : Words :=
  { words with position := words.position + 1 }

/-- The stream with another word as the next one. -/
def withNext (words : Words) (word : UInt32) : Words where
  word j := if j = words.position then word else words.word j
  position := words.position
  recurs bound start := by
    obtain ⟨j, hj, haccepts⟩ := words.recurs bound (max start (words.position + 1))
    refine ⟨j, Nat.le_trans (Nat.le_max_left _ _) hj, ?_⟩
    rw [if_neg (Nat.ne_of_gt (Nat.lt_of_lt_of_le (Nat.lt_succ_self _)
      (Nat.le_trans (Nat.le_max_right _ _) hj)))]
    exact haccepts

/-- The next word is the one that was put there. -/
@[simp] theorem word_withNext (words : Words) (word : UInt32) :
    (words.withNext word).word (words.withNext word).position = word :=
  if_pos rfl

/-- A draw passes over a word that it does not accept. -/
theorem draw_of_rejects {words : Words} {bound : Nat}
    (h : accepts bound (words.word words.position) = false) :
    words.draw bound = words.skip.draw bound := by
  unfold draw
  rw [firstFrom, dif_neg (by rw [h]; exact Bool.false_ne_true)]
  rfl

end Words

/-! ## Choices -/

section Choices

variable {candidates : List Wallpaper} {ledger : Ledger} {now : Timestamp}

/-- The candidates that remain are those that the ledger does not hold, or all of them when it holds
them all. -/
theorem remaining_eq (candidates : List Wallpaper) (ledger : Ledger) :
    remaining candidates ledger =
      if ledger.covers candidates = true then candidates
      else candidates.filter fun w => !ledger.contains w.id := by
  simp only [covers_iff_fresh_eq_nil]
  rfl

/-- There are no more candidates that remain than candidates. -/
theorem length_remaining_le (candidates : List Wallpaper) (ledger : Ledger) :
    (remaining candidates ledger).length ≤ candidates.length := by
  rw [remaining_eq]
  split
  · exact Nat.le_refl _
  · exact List.length_filter_le _ _

/-- Candidates of distinct identifiers are distinct, and so are those that remain. -/
theorem nodup_remaining (hids : (candidates.map Wallpaper.id).Nodup) :
    (remaining candidates ledger).Nodup := by
  rw [← fresh_turned]
  exact hids.of_map.filter _

/-- A choice is the one of those that remain that is drawn. -/
theorem selectRandom_fst (hne : candidates ≠ []) (words : Words) :
    (selectRandom candidates ⟨ledger, words⟩ now).1 =
      (remaining candidates ledger)[(words.draw (remaining candidates ledger).length).1]? := by
  obtain ⟨w, -, hget, hselect⟩ := exists_selectRandom_eq hne ⟨ledger, words⟩ now
  rw [hselect]
  exact hget.symm

/-- A choice passes over a word that it does not accept. -/
theorem selectRandom_of_rejects (hne : candidates ≠ []) {words : Words}
    (h : accepts (remaining candidates ledger).length (words.word words.position) = false) :
    selectRandom candidates ⟨ledger, words⟩ now =
      selectRandom candidates ⟨ledger, words.skip⟩ now := by
  simp only [selectRandom, if_neg hne, selectionPool_eq hne, Words.draw_of_rejects h]

/-- Of distinct candidates that remain one is chosen for the first words that are accepted for its
place. -/
theorem selectRandom_withNext_iff (hne : candidates ≠ [])
    (hids : (candidates.map Wallpaper.id).Nodup) (words : Words) {word : UInt32} {index : Nat}
    (hindex : index < (remaining candidates ledger).length)
    (haccepts : accepts (remaining candidates ledger).length word = true) :
    (selectRandom candidates ⟨ledger, words.withNext word⟩ now).1 =
        some (remaining candidates ledger)[index] ↔
      indexOf (remaining candidates ledger).length word = index := by
  have hnext : accepts (remaining candidates ledger).length
      ((words.withNext word).word (words.withNext word).position) = true := by
    rw [Words.word_withNext]
    exact haccepts
  have hdraw := Words.draw_of_accepts hnext
  rw [Words.word_withNext] at hdraw
  rw [selectRandom_fst hne, hdraw, ← List.getElem?_eq_getElem hindex]
  exact List.getElem?_inj (indexOf_lt (Nat.zero_lt_of_lt hindex) word) (nodup_remaining hids)

/-- A random choice among some candidates of distinct identifiers, fewer than there are words, is
uniform over the pool of those that the ledger does not hold or, when it holds them all, of all of
them.  A word is accepted when the low half of its product with the size of the pool is below the
size shifted up to the top; its high half is then the place of the choice.  As many accepted words
choose each of the pool, two to the number of zeros in front of the size.  A word that is not
accepted is passed over, and nothing but the pool is ever chosen. -/
theorem selectRandom_uniform (hne : candidates ≠ []) (hids : (candidates.map Wallpaper.id).Nodup)
    (hfew : candidates.length < 2 ^ 32) (ledger : Ledger) (now : Timestamp) {pool : List Wallpaper}
    (hpool : pool = if ledger.covers candidates = true then candidates
      else candidates.filter fun w => !ledger.contains w.id) :
    (∀ word : UInt32, accepts pool.length word = true ↔
      word.toNat * pool.length % 2 ^ 32 ≤ (pool.length <<< leadingZeros pool.length) - 1) ∧
    (∀ words : Words, accepts pool.length (words.word words.position) = true →
      (selectRandom candidates ⟨ledger, words⟩ now).1 =
        pool[((words.word words.position).toNat * pool.length) >>> 32]?) ∧
    (∀ words : Words, ∀ w ∈ pool,
      {word : UInt32 | accepts pool.length word = true ∧
        (selectRandom candidates ⟨ledger, words.withNext word⟩ now).1 = some w}.ncard =
          2 ^ leadingZeros pool.length) ∧
    (∀ words : Words, accepts pool.length (words.word words.position) = false →
      selectRandom candidates ⟨ledger, words⟩ now =
        selectRandom candidates ⟨ledger, words.skip⟩ now) ∧
    ∀ words : Words, ∃ w ∈ pool, (selectRandom candidates ⟨ledger, words⟩ now).1 = some w := by
  rw [← remaining_eq] at hpool
  subst hpool
  have hpos : 0 < (remaining candidates ledger).length :=
    List.length_pos_iff.2 (remaining_ne_nil hne)
  have hword : (remaining candidates ledger).length < wordCount :=
    Nat.lt_of_le_of_lt (length_remaining_le candidates ledger) hfew
  refine ⟨fun word => accepts_iff hpos hword, fun words haccepts => ?_, fun words w hw => ?_,
    fun words hrejects => selectRandom_of_rejects hne hrejects, fun words => ?_⟩
  · rw [selectRandom_fst hne, Words.draw_of_accepts haccepts, indexOf, Nat.shiftRight_eq_div_pow]
    rfl
  · obtain ⟨index, hindex, rfl⟩ := List.getElem_of_mem hw
    rw [← ncard_accepts_and_indexOf_eq hpos hword hindex]
    congr 1
    ext word
    exact and_congr_right fun haccepts => selectRandom_withNext_iff hne hids words hindex haccepts
  · obtain ⟨w, hw, -, hselect⟩ := exists_selectRandom_eq hne ⟨ledger, words⟩ now
    exact ⟨w, hw, by rw [hselect]⟩

/-- Four wallpapers, in the order of a library. -/
def sampleFour : List Wallpaper := ["a", "b", "c", "d"].map sampleWallpaper

/-- Of four candidates and a ledger that holds the first one, the third one is chosen for a quarter
of all words, and so is each other one that remains. -/
theorem selectRandom_uniform_three :
    sampleFour ≠ [] ∧ (sampleFour.map Wallpaper.id).Nodup ∧ sampleFour.length < 2 ^ 32 ∧
      {word : UInt32 | accepts 3 word = true ∧ (selectRandom sampleFour
        ⟨sampleChance.ledger, sampleChance.words.withNext word⟩ (sampleTimes 0)).1 =
          some (sampleWallpaper "c")}.ncard = 2 ^ 30 := by
  have hne : sampleFour ≠ [] := List.cons_ne_nil _ _
  have hids : (sampleFour.map Wallpaper.id).Nodup := by decide
  have hfew : sampleFour.length < 2 ^ 32 := by decide
  have hpool : ["b", "c", "d"].map sampleWallpaper =
      if sampleChance.ledger.covers sampleFour = true then sampleFour
      else sampleFour.filter fun w => !sampleChance.ledger.contains w.id := by decide +kernel
  have hzeros : leadingZeros 3 = 30 := by decide
  obtain ⟨-, -, hcount, -⟩ :=
    selectRandom_uniform hne hids hfew sampleChance.ledger (sampleTimes 0) hpool
  have hthird := hcount sampleChance.words (sampleWallpaper "c")
    (List.mem_cons_of_mem _ List.mem_cons_self)
  rw [show (["b", "c", "d"].map sampleWallpaper).length = 3 from rfl, hzeros] at hthird
  exact ⟨hne, hids, hfew, hthird⟩

end Choices

end WallpaperRotation
