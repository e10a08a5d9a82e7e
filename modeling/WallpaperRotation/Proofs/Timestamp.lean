/-
# Timestamps read back

A timestamp that a calendar and a clock can tell is read back from the text in which it is kept.
Each part of the text is a number, padded with zeros, that ends where a character stands that is no
digit.  Conversely, every timestamp that is read is one that a calendar and a clock can tell.
-/
import Mathlib.Data.Nat.Digits.Defs
import WallpaperRotation.Proofs.Text.Decimal
import WallpaperRotation.Timestamp

namespace WallpaperRotation

/-- A date that the calendar has is one of the calendar. -/
theorem Date.of?_of_eq_some {year : Int} {month day : Nat} {date : Date}
    (h : Date.of? year month day = some date) :
    Date.of? date.year date.month date.day = some date := by
  have hparts := h
  unfold Date.of? at hparts
  split at hparts
  · obtain rfl := Option.some.inj hparts
    exact h
  · cases hparts

namespace Timestamp

/-! ## Padded numbers -/

section Padded

variable {width n : Nat}

/-- A padded number consists of digits. -/
theorem isDigit_of_mem_padded {c : Char} (h : c ∈ padded width n) : c.isDigit = true := by
  rcases List.mem_append.1 h with hzero | hdigit
  · rw [List.eq_of_mem_replicate hzero]
    rfl
  · exact Text.isDigit_of_mem_toString hdigit

/-- The digits of a padded number make up the number. -/
theorem decimalValue_padded : Text.decimalValue (padded width n) = n := by
  unfold padded
  rw [Text.decimalValue_replicate_append, Text.decimalValue_toString]

/-- A padded number starts with a digit. -/
theorem exists_padded_eq_cons (width n : Nat) :
    ∃ c digits, padded width n = c :: digits ∧ c.isDigit = true := by
  cases hpadded : padded width n with
  | nil =>
    obtain ⟨-, hdigits⟩ := List.append_eq_nil_iff.1 hpadded
    exact absurd hdigits (Text.toList_toString_ne_nil n)
  | cons c digits =>
    have hc : c ∈ padded width n := by
      rw [hpadded]
      exact List.mem_cons_self
    exact ⟨c, digits, rfl, isDigit_of_mem_padded hc⟩

/-- A number that is small enough is padded to the width. -/
theorem length_padded (hwidth : 0 < width) (h : n < 10 ^ width) :
    (padded width n).length = width := by
  have hlength : (toString n).toList.length ≤ width := by
    rw [Nat.toString_eq_repr, Nat.toList_repr]
    exact Nat.toDigits_length 10 n width hwidth h
  simp only [padded, List.length_append, List.length_replicate]
  omega

/-- A padded number is not blank at its start. -/
theorem trimStart_padded (rest : List Char) :
    Text.trimStart (padded width n ++ rest) = padded width n ++ rest := by
  obtain ⟨c, digits, hpadded, hc⟩ := exists_padded_eq_cons width n
  rw [hpadded, List.cons_append]
  exact Text.trimStart_cons_of_not_blank _ (Text.isBlank_of_isDigit hc)

/-- A padded number that has no more digits than the limit is read back. -/
theorem number?_padded {limit : Option Nat} (hlimit : ∀ m ∈ limit, (padded width n).length ≤ m)
    {rest : List Char} (hrest : Text.EndsDigits rest) :
    number? limit (padded width n ++ rest) = some (n, rest) := by
  have htake : (padded width n ++ rest).takeWhile Char.isDigit = padded width n :=
    (Text.takeWhile_isDigit_append (fun c hc => isDigit_of_mem_padded hc) hrest).1
  obtain ⟨c, digits, hpadded, -⟩ := exists_padded_eq_cons width n
  have hne : padded width n ≠ [] := by
    rw [hpadded]
    exact List.cons_ne_nil c digits
  cases limit with
  | none =>
    simp only [number?, trimStart_padded, htake, if_neg hne, decimalValue_padded, List.drop_left]
  | some m =>
    have hall : (padded width n).take m = padded width n := List.take_of_length_le (hlimit m rfl)
    simp only [number?, trimStart_padded, htake, hall, if_neg hne, decimalValue_padded,
      List.drop_left]

/-- Two digits are read back. -/
theorem number?_padded_two (h : n < 100) {rest : List Char} (hrest : Text.EndsDigits rest) :
    number? (some 2) (padded 2 n ++ rest) = some (n, rest) := by
  refine number?_padded (fun m hm => ?_) hrest
  rw [length_padded (by decide) h]
  exact Nat.le_of_eq (Option.some.inj hm)

/-- Two digits that make up a number below the bound are read back. -/
theorem below?_padded {bound : Nat} (h : n < bound) (hbound : bound ≤ 100) {rest : List Char}
    (hrest : Text.EndsDigits rest) : below? bound (padded 2 n ++ rest) = some (n, rest) := by
  unfold below?
  rw [number?_padded_two (by omega) hrest]
  simp [h]

end Padded

/-! ## Parts of a timestamp -/

/-- A text that starts with another character does not go on with a digit. -/
theorem endsDigits_cons {c : Char} (h : c.isDigit = false) (rest : List Char) :
    Text.EndsDigits (c :: rest) := by
  intro d hd
  obtain rfl := Option.some.inj hd
  exact h

/-- A mark is found where it stands. -/
theorem behindMark?_cons {mark : Char} (h : Text.isBlank mark = false) (rest : List Char) :
    behindMark? mark (mark :: rest) = some rest := by
  unfold behindMark?
  rw [Text.trimStart_cons_of_not_blank rest h]
  simp

/-- A year is read back. -/
theorem year?_yearText (year : Int) {rest : List Char} (hrest : Text.EndsDigits rest) :
    year? (yearText year ++ rest) = some (year, rest) := by
  have hsigned (n : Nat) : number? none (padded 4 n ++ rest) = some (n, rest) :=
    number?_padded (fun m hm => by cases hm) hrest
  have hdigit (n : Nat) : (padded 4 n ++ rest).head?.any Char.isDigit = true := by
    obtain ⟨c, digits, hpadded, hc⟩ := exists_padded_eq_cons 4 n
    rw [hpadded]
    exact hc
  unfold yearText
  split_ifs with hshort hnegative
  · -- Four digits without a sign.
    have hfour : (padded 4 year.toNat).length = 4 :=
      length_padded (by decide) (by omega)
    have hread : number? (some 4) (padded 4 year.toNat ++ rest) = some (year.toNat, rest) :=
      number?_padded (fun m hm => by rw [hfour]; exact Nat.le_of_eq (Option.some.inj hm)) hrest
    obtain ⟨c, digits, hpadded, hc⟩ := exists_padded_eq_cons 4 year.toNat
    have htrim : Text.trimStart (padded 4 year.toNat ++ rest) = padded 4 year.toNat ++ rest :=
      trimStart_padded rest
    unfold year?
    rw [htrim]
    rw [hpadded] at hread ⊢
    split
    · rename_i heq
      rw [(List.cons.inj heq).1] at hc
      cases hc
    · rename_i heq
      rw [(List.cons.inj heq).1] at hc
      cases hc
    · rw [hread]
      simp
      omega
  · have hyear : -(year.natAbs : Int) = year := by omega
    unfold year?
    rw [List.cons_append, Text.trimStart_cons_of_not_blank _ (by decide)]
    simp only [hdigit, hsigned, if_true, Option.map_some, hyear]
  · have hyear : (year.natAbs : Int) = year := by omega
    unfold year?
    rw [List.cons_append, Text.trimStart_cons_of_not_blank _ (by decide)]
    simp only [hdigit, hsigned, if_true, Option.map_some, hyear]

/-- A fraction of a second in so many digits is read back. -/
theorem fraction?_padded {width n : Nat} (hwidth : 0 < width) (hnine : width ≤ 9)
    (h : n < 10 ^ width) {rest : List Char} (hrest : Text.EndsDigits rest) :
    fraction? ('.' :: (padded width n ++ rest)) = some (n * 10 ^ (9 - width), rest) := by
  have hdigits : ∀ c ∈ padded width n, c.isDigit = true := fun c hc => isDigit_of_mem_padded hc
  obtain ⟨htake, hdrop⟩ := Text.takeWhile_isDigit_append hdigits hrest
  have hlength := length_padded hwidth h
  have hne : padded width n ≠ [] := List.ne_nil_of_length_pos (by omega)
  have hall : (padded width n).take 9 = padded width n := List.take_of_length_le (by omega)
  simp only [fraction?, htake, hdrop, if_neg hne, hall, decimalValue_padded, hlength]
  rfl

/-- Billionths of a second are read back in front of the last mark. -/
theorem fraction?_fractionText {nanos : Nat} (h : nanos < 1000000000) :
    fraction? (fractionText nanos ++ ['Z']) = some (nanos, ['Z']) := by
  have hrest : Text.EndsDigits ['Z'] := endsDigits_cons rfl []
  unfold fractionText
  split_ifs with hzero hmillis hmicros
  · rw [hzero]
    rfl
  · rw [List.cons_append, fraction?_padded (by decide) (by decide) (by omega) hrest]
    simp only [Option.some.injEq, Prod.mk.injEq, and_true]
    omega
  · rw [List.cons_append, fraction?_padded (by decide) (by decide) (by omega) hrest]
    simp only [Option.some.injEq, Prod.mk.injEq, and_true]
    omega
  · rw [List.cons_append, fraction?_padded (by decide) (by decide) (by omega) hrest]
    simp

/-- The mark of universal time is read as no offset. -/
theorem offset?_mark : offset? ['Z'] = some (0, []) := by
  decide

/-! ## Whole timestamps -/

/-- A calendar and a clock can tell the timestamp: its day is one of the calendar, its second one of
a day, and a second that takes longer than others is the last one of a minute. -/
structure Valid (t : Timestamp) : Prop where
  date : Date.of? t.date.year t.date.month t.date.day = some t.date
  second : t.second < secondsOfDay
  nanos : t.nanos < 1000000000 ∨ t.second % 60 = 59 ∧ t.nanos < 2000000000

/-- The parts of a date of the calendar are small. -/
theorem Valid.date_lt {t : Timestamp} (h : t.Valid) : t.date.month < 100 ∧ t.date.day < 100 := by
  have hdate := h.date
  unfold Date.of? at hdate
  split at hdate
  · rename_i hparts
    have hdays : Date.daysIn t.date.year t.date.month ≤ 31 := by
      unfold Date.daysIn
      split_ifs <;> omega
    omega
  · cases hdate

/-- At no offset a valid timestamp is what its parts make up. -/
theorem Valid.atOffset?_zero {t : Timestamp} (h : t.Valid) :
    atOffset? t.date t.second t.nanos 0 = some t := by
  have hafter : ¬(t.second : Int) < 0 := by omega
  have hbefore : ¬(t.second : Int) ≥ secondsOfDay := by
    have := h.second
    omega
  unfold atOffset?
  simp only [if_neg hafter, if_neg hbefore, h.date, Option.map_some, Int.sub_zero, Int.toNat_natCast]

/-- A valid timestamp is read back from its text. -/
theorem ofText?_text {t : Timestamp} (h : t.Valid) : ofText? t.text = some t := by
  obtain ⟨hmonth, hday⟩ := h.date_lt
  have hsecond := h.second
  have hnanos := h.nanos
  unfold secondsOfDay at hsecond
  have hdash (rest : List Char) : Text.EndsDigits ('-' :: rest) := endsDigits_cons rfl rest
  have hcolon (rest : List Char) : Text.EndsDigits (':' :: rest) := endsDigits_cons rfl rest
  have htee (rest : List Char) : Text.EndsDigits ('T' :: rest) := endsDigits_cons rfl rest
  have hfraction : Text.EndsDigits (fractionText (t.nanos % 1000000000) ++ ['Z']) := by
    unfold fractionText
    split_ifs <;> exact endsDigits_cons rfl _
  have hdashBlank : Text.isBlank '-' = false := by decide
  have hcolonBlank : Text.isBlank ':' = false := by decide
  have hhour : t.second / 3600 < 24 := by omega
  have hminute : t.second / 60 % 60 < 60 := by omega
  -- The seconds of the minute are sixty in a leap second, and only then.
  have hleap : t.second % 60 + t.nanos / 1000000000 < 61 := by omega
  have hread : fraction? (fractionText (t.nanos % 1000000000) ++ ['Z']) =
      some (t.nanos % 1000000000, ['Z']) := fraction?_fractionText (by omega)
  have hsum : t.second / 3600 * 3600 + t.second / 60 % 60 * 60 +
      (t.second % 60 + t.nanos / 1000000000 - (t.second % 60 + t.nanos / 1000000000) / 60) =
        t.second := by omega
  have hparts : t.nanos % 1000000000 + (t.second % 60 + t.nanos / 1000000000) / 60 * 1000000000 =
      t.nanos := by omega
  have hmark : ¬('T' ≠ 't' ∧ 'T' ≠ 'T' ∧ 'T' ≠ ' ') := by decide
  have hend : ¬(Text.trimStart [] ≠ [] ∨ Int.natAbs 0 ≥ secondsOfDay) := by decide
  unfold ofText? text
  simp only [String.toList_ofList, dateText, minuteText, List.append_assoc, List.cons_append,
    year?_yearText _ (hdash _), behindMark?_cons hdashBlank, behindMark?_cons hcolonBlank,
    number?_padded_two hmonth (hdash _), number?_padded_two hday (htee _), h.date,
    below?_padded hhour (by decide) (hcolon _), below?_padded hminute (by decide) (hcolon _),
    below?_padded hleap (by decide) hfraction, hread, offset?_mark, bind, Option.bind,
    if_neg hmark, if_neg hend, hsum, hparts, h.atOffset?_zero]

/-! ## What is read -/

/-- A number that is read below a bound is below it. -/
theorem lt_of_below? {bound n : Nat} {text rest : List Char}
    (h : below? bound text = some (n, rest)) : n < bound := by
  unfold below? at h
  obtain ⟨⟨m, others⟩, -, h⟩ := Option.bind_eq_some_iff.1 h
  dsimp only at h
  split at h
  · rename_i hlt
    rw [← (Prod.mk.inj (Option.some.inj h)).1]
    exact hlt
  · cases h

/-- A fraction that is read is less than a second. -/
theorem lt_of_fraction? {n : Nat} {text rest : List Char} (h : fraction? text = some (n, rest)) :
    n < 1000000000 := by
  unfold fraction? at h
  split at h
  · rename_i others
    dsimp only at h
    split at h
    · cases h
    · rw [← (Prod.mk.inj (Option.some.inj h)).1]
      have hdigits : ∀ c ∈ (others.takeWhile Char.isDigit).take 9, c.isDigit = true := fun c hc =>
        List.all_eq_true.1 List.all_takeWhile c (List.mem_of_mem_take hc)
      have hlength : ((others.takeWhile Char.isDigit).take 9).length ≤ 9 := List.length_take_le 9 _
      have hvalue := Text.decimalValue_lt hdigits
      generalize ((others.takeWhile Char.isDigit).take 9) = kept at hlength hvalue ⊢
      -- So many digits, and zeros for the others, are less than one followed by nine zeros.
      have hpow : 10 ^ kept.length * 10 ^ (9 - kept.length) = 1000000000 := by
        rw [← Nat.pow_add, Nat.add_sub_cancel' hlength]
      rw [← hpow]
      exact Nat.mul_lt_mul_of_pos_right hvalue (Nat.pow_pos (by decide))
  · rw [← (Prod.mk.inj (Option.some.inj h)).1]
    decide

/-- Offsets are whole minutes. -/
theorem sixty_dvd_of_offset? {offset : Int} {text rest : List Char}
    (h : offset? text = some (offset, rest)) : (60 : Int) ∣ offset := by
  -- Hours and minutes behind a sign.
  have hsigned (sign : Int → Int) (hsign : ∀ n, (60 : Int) ∣ n → (60 : Int) ∣ sign n)
      (others : List Char)
      (h : (do
        let hours ← twoDigits? others
        let minutes ← twoDigits? (hours.2.dropWhile fun c => c = ':' || Text.isBlank c)
        if minutes.1 < 60 then some (sign (hours.1 * 3600 + minutes.1 * 60), minutes.2)
        else none) = some (offset, rest)) : (60 : Int) ∣ offset := by
    obtain ⟨hours, -, hminutes⟩ := Option.bind_eq_some_iff.1 h
    obtain ⟨minutes, -, hsum⟩ := Option.bind_eq_some_iff.1 hminutes
    split at hsum
    · rw [← (Prod.mk.inj (Option.some.inj hsum)).1]
      exact hsign _ (by omega)
    · cases hsum
  unfold offset? at h
  split at h
  · rename_i c others heq
    split_ifs at h
    · rw [← (Prod.mk.inj (Option.some.inj h)).1]
      exact Int.dvd_zero 60
    · rw [← (Prod.mk.inj (Option.some.inj h)).1]
      exact Int.dvd_zero 60
    · exact hsigned id (fun n hn => hn) others h
    · exact hsigned (fun n => -n) (fun n hn => Int.dvd_neg.2 hn) others h
  · cases h

/-- A timestamp at an offset is valid. -/
theorem valid_of_atOffset? {date : Date} {second nanos : Nat} {offset : Int} {t : Timestamp}
    (h : atOffset? date second nanos offset = some t) (hsecond : second < secondsOfDay)
    (hnanos : nanos < 1000000000 ∨ second % 60 = 59 ∧ nanos < 2000000000)
    (hoffset : offset.natAbs < secondsOfDay) (hminutes : (60 : Int) ∣ offset) : t.Valid := by
  unfold secondsOfDay at hsecond hoffset
  -- The day moves by one at most, and the second of the minute stays.
  have hmoved {day : Date} {shifted : Int}
      (h : (Date.of? day.year day.month day.day).map
        (fun found => (⟨found, shifted.toNat, nanos⟩ : Timestamp)) = some t)
      (hshifted : 0 ≤ shifted ∧ shifted < 86400 ∧ shifted % 60 = (second : Int) % 60) :
      t.Valid := by
    obtain ⟨found, hfound, rfl⟩ := Option.map_eq_some_iff.1 h
    refine ⟨Date.of?_of_eq_some hfound, ?_, ?_⟩
    · show shifted.toNat < 86400
      omega
    · show nanos < 1000000000 ∨ shifted.toNat % 60 = 59 ∧ nanos < 2000000000
      omega
  unfold atOffset? secondsOfDay at h
  dsimp only at h
  split_ifs at h
  · exact hmoved h (by omega)
  · exact hmoved h (by omega)
  · exact hmoved h (by omega)

/-- A timestamp that is read is valid. -/
theorem valid_of_ofText? {text : String} {t : Timestamp} (h : ofText? text = some t) :
    t.Valid := by
  unfold ofText? at h
  obtain ⟨⟨year, rest⟩, -, h⟩ := Option.bind_eq_some_iff.1 h
  obtain ⟨rest, -, h⟩ := Option.bind_eq_some_iff.1 h
  obtain ⟨⟨month, rest⟩, -, h⟩ := Option.bind_eq_some_iff.1 h
  obtain ⟨rest, -, h⟩ := Option.bind_eq_some_iff.1 h
  obtain ⟨⟨day, rest⟩, -, h⟩ := Option.bind_eq_some_iff.1 h
  obtain ⟨date, -, h⟩ := Option.bind_eq_some_iff.1 h
  dsimp only at h
  split at h
  · obtain ⟨⟨mark, rest⟩, -, h⟩ := Option.bind_eq_some_iff.1 h
    dsimp only at h
    split at h
    · cases h
    · obtain ⟨⟨hour, rest⟩, hhour, h⟩ := Option.bind_eq_some_iff.1 h
      obtain ⟨rest, -, h⟩ := Option.bind_eq_some_iff.1 h
      obtain ⟨⟨minute, rest⟩, hminute, h⟩ := Option.bind_eq_some_iff.1 h
      obtain ⟨rest, -, h⟩ := Option.bind_eq_some_iff.1 h
      obtain ⟨⟨second, rest⟩, hsecond, h⟩ := Option.bind_eq_some_iff.1 h
      obtain ⟨⟨nanos, rest⟩, hnanos, h⟩ := Option.bind_eq_some_iff.1 h
      obtain ⟨⟨offset, rest⟩, hoffset, h⟩ := Option.bind_eq_some_iff.1 h
      dsimp only at h
      split at h
      · cases h
      · rename_i hend
        have hday : offset.natAbs < secondsOfDay := by
          push Not at hend
          exact hend.2
        have hhour := lt_of_below? hhour
        have hminute := lt_of_below? hminute
        have hsecond := lt_of_below? hsecond
        have hnanos := lt_of_fraction? hnanos
        -- The sixtieth second is the leap second.
        have hleap : second / 60 = 0 ∨ second = 60 := by omega
        refine valid_of_atOffset? h ?_ ?_ hday (sixty_dvd_of_offset? hoffset)
        · unfold secondsOfDay
          omega
        · rcases hleap with hnone | rfl <;> omega
  · cases h

end Timestamp

end WallpaperRotation
