/-
# Random words and fair draws

Random numbers come as a stream of words of 32 bits.  An index below a bound is drawn from the
first word whose product with the bound has a low half in the acceptance zone; the high half is the
index.  The zone is the longest one in which every index has the same share.  A stream has to come
back to every zone, so a draw always ends.
-/

namespace WallpaperRotation

/-! ## Zones -/

/-- The number of words. -/
def wordCount : Nat := 4294967296

/-- The greatest low half that is accepted: the bound, doubled as often as it fits in a word, less
one. -/
def acceptanceZone (bound : Nat) : Nat :=
  bound * Nat.pow 2 (31 - bound.log2) - 1

/-- A draw below the bound accepts the word. -/
def accepts (bound : Nat) (word : UInt32) : Bool :=
  word.toNat * bound % wordCount ≤ acceptanceZone bound

/-- The index that an accepted word stands for. -/
def indexOf (bound : Nat) (word : UInt32) : Nat :=
  word.toNat * bound / wordCount

/-- The index is below the bound. -/
theorem indexOf_lt {bound : Nat} (h : 0 < bound) (word : UInt32) : indexOf bound word < bound := by
  unfold indexOf wordCount
  have hw : word.toNat < 4294967296 := word.toNat_lt
  have : word.toNat * bound < 4294967296 * bound := Nat.mul_lt_mul_of_pos_right hw h
  rw [Nat.div_lt_iff_lt_mul (by decide), Nat.mul_comm bound]
  exact this

/-- The word zero is always accepted. -/
theorem accepts_zero (bound : Nat) : accepts bound 0 = true := by
  simp [accepts]

/-! ## The first of a kind -/

/-- What is so at some place from `start` on is so at a first one. -/
theorem exists_first {P : Nat → Prop} {start : Nat} (h : ∃ j, start ≤ j ∧ P j) :
    ∃ j, (start ≤ j ∧ P j) ∧ ∀ i, start ≤ i → P i → j ≤ i := by
  obtain ⟨j, hj⟩ := h
  induction j using Nat.strongRecOn with
  | ind j ih =>
    by_cases hless : ∃ i, i < j ∧ start ≤ i ∧ P i
    · obtain ⟨i, hi, hs⟩ := hless
      exact ih i hi hs
    · refine ⟨j, hj, fun i hs hp => ?_⟩
      by_cases hij : i < j
      · exact absurd ⟨i, hij, hs, hp⟩ hless
      · omega

/-- The distance from `start` to the first place where something is so. -/
noncomputable def distance {P : Nat → Prop} {start : Nat} (h : ∃ j, start ≤ j ∧ P j) : Nat :=
  Classical.choose (exists_first h) - start

/-- Where it is not so at `start`, the next place is nearer to the first one where it is. -/
theorem distance_succ_lt {P : Nat → Prop} {start : Nat} (h : ∃ j, start ≤ j ∧ P j)
    (h' : ∃ j, start + 1 ≤ j ∧ P j) (hn : ¬P start) : distance h' < distance h := by
  unfold distance
  have hs := Classical.choose_spec (exists_first h)
  have hs' := Classical.choose_spec (exists_first h')
  generalize Classical.choose (exists_first h) = j at *
  generalize Classical.choose (exists_first h') = j' at *
  have hj : j ≠ start := fun e => hn (e ▸ hs.1.2)
  have := hs'.2 j (by omega) hs.1.2
  omega

/-- The first place from `start` on where something is so. -/
def firstFrom (p : Nat → Bool) (start : Nat) (h : ∃ j, start ≤ j ∧ p j = true) : Nat :=
  if hp : p start = true then start
  else
    have h' : ∃ j, start + 1 ≤ j ∧ p j = true := by
      obtain ⟨j, hj, hpj⟩ := h
      refine ⟨j, ?_, hpj⟩
      have : j ≠ start := fun e => hp (e ▸ hpj)
      omega
    firstFrom p (start + 1) h'
termination_by distance h
decreasing_by exact distance_succ_lt h _ hp

/-- It is so at the first place where it is, which is not before `start`. -/
theorem firstFrom_spec (p : Nat → Bool) (start : Nat) (h : ∃ j, start ≤ j ∧ p j = true) :
    start ≤ firstFrom p start h ∧ p (firstFrom p start h) = true := by
  induction start, h using firstFrom.induct p with
  | case1 start h hp => rw [firstFrom, dif_pos hp]; exact ⟨Nat.le_refl _, hp⟩
  | case2 start h hp h' ih => rw [firstFrom, dif_neg hp]; exact ⟨Nat.le_of_succ_le ih.1, ih.2⟩

/-! ## Streams -/

/-- A stream of random words, read up to a position. -/
structure Words where
  word : Nat → UInt32
  position : Nat
  /-- Every zone is met again and again. -/
  recurs : ∀ bound start, ∃ j, start ≤ j ∧ accepts bound (word j) = true

namespace Words

/-- Draws an index below a bound; the bound is not zero. -/
def draw (words : Words) (bound : Nat) : Nat × Words :=
  let at_ := firstFrom (fun j => accepts bound (words.word j)) words.position
    (words.recurs bound words.position)
  (indexOf bound (words.word at_), { words with position := at_ + 1 })

/-- What is drawn is below the bound. -/
theorem draw_lt (words : Words) {bound : Nat} (h : 0 < bound) : (words.draw bound).1 < bound :=
  indexOf_lt h _

/-- A draw that accepts the next word reads no other one. -/
theorem draw_of_accepts {words : Words} {bound : Nat}
    (h : accepts bound (words.word words.position) = true) :
    words.draw bound =
      (indexOf bound (words.word words.position),
        { words with position := words.position + 1 }) := by
  unfold draw
  rw [firstFrom, dif_pos h]

/-- The step between the words of a stream that goes on by itself. -/
def stride : Nat := 0x9E3779B9

/-- The words of a list and, behind them, the multiples of the stride. -/
def listedWord (listed : List UInt32) (j : Nat) : UInt32 :=
  match listed[j]? with
  | some w => w
  | none => UInt32.ofNat ((j + 1 - listed.length) * stride)

/-- The stream of the words of a list and, behind them, the multiples of the stride, among which
zero comes again and again. -/
def replay (listed : List UInt32) : Words where
  word := listedWord listed
  position := 0
  recurs bound start := by
    refine ⟨listed.length + (start + 1) * wordCount - 1, ?_, ?_⟩
    · unfold wordCount; omega
    · have hnone : listed[listed.length + (start + 1) * wordCount - 1]? = none := by
        apply List.getElem?_eq_none
        unfold wordCount; omega
      have hzero : listedWord listed (listed.length + (start + 1) * wordCount - 1) = 0 := by
        simp only [listedWord, hnone]
        have : listed.length + (start + 1) * wordCount - 1 + 1 - listed.length =
            (start + 1) * wordCount := by unfold wordCount; omega
        rw [this, ← UInt32.toNat_inj]
        simp only [UInt32.toNat_ofNat']
        have : (start + 1) * wordCount * stride = 4294967296 * ((start + 1) * stride) := by
          unfold wordCount
          rw [Nat.mul_comm (start + 1), Nat.mul_assoc]
        rw [this]
        simp
      rw [hzero]
      exact accepts_zero bound

end Words

end WallpaperRotation
