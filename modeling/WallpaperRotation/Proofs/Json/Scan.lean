/-
# Strings and numbers read back

A string read behind its opening quote is the text that was quoted, and a number that is read is
the one that was written, whatever follows as long as it does not go on with the number.
-/
import WallpaperRotation.Json.Printer
import WallpaperRotation.Json.Scan
import WallpaperRotation.Proofs.Text.Decimal

namespace WallpaperRotation.Json

/-! ## Strings -/

/-- A hexadecimal digit has the value that it was made for. -/
theorem hexValue?_hexDigit : ∀ n, n < 16 → hexValue? (hexDigit n) = some n := by
  decide

/-- Four hexadecimal digits that start with two zeros make up the number of the other two. -/
theorem hexCode?_hexDigit {high low : Nat} (hhigh : high < 16) (hlow : low < 16) :
    hexCode? '0' '0' (hexDigit high) (hexDigit low) = some (high * 16 + low) := by
  have hzero : hexValue? '0' = some 0 := by decide
  simp [hexCode?, hzero, hexValue?_hexDigit high hhigh, hexValue?_hexDigit low hlow]

/-- A character that stands for itself is read as it is. -/
theorem stringBody_cons {c : Char} (hquote : c ≠ '"') (hslash : c ≠ '\\')
    (hcontrol : 0x20 ≤ c.toNat) (rest : List Char) :
    stringBody true (c :: rest) = before c (stringBody true rest) := by
  have hplain : ¬c.toNat < 0x20 := by omega
  rw [stringBody.eq_def]
  split
  case h_7 d others _ _ _ _ _ heq =>
    obtain ⟨rfl, rfl⟩ := List.cons.inj heq
    rw [if_neg hplain]
  all_goals simp_all

/-- A quoted character is read back. -/
theorem stringBody_quoteChar (c : Char) (rest : List Char) :
    stringBody true (quoteChar c ++ rest) = before c (stringBody true rest) := by
  unfold quoteChar
  by_cases hquote : c = '"'
  · subst hquote; simp [stringBody, escaped?]
  by_cases hslash : c = '\\'
  · subst hslash; simp [stringBody, escaped?]
  by_cases hb : c = '\x08'
  · subst hb; simp [stringBody, escaped?]
  by_cases hf : c = '\x0c'
  · subst hf; simp [stringBody, escaped?]
  by_cases hn : c = '\n'
  · subst hn; simp [stringBody, escaped?]
  by_cases hr : c = '\r'
  · subst hr; simp [stringBody, escaped?]
  by_cases ht : c = '\t'
  · subst ht; simp [stringBody, escaped?]
  simp only [hquote, hslash, hb, hf, hn, hr, ht, if_false]
  by_cases hcontrol : c.toNat < 0x20
  · -- Control characters without a letter of their own are written by their number.
    have hcode : hexCode? '0' '0' (hexDigit (c.toNat / 16)) (hexDigit (c.toNat % 16)) =
        some (c.toNat / 16 * 16 + c.toNat % 16) := hexCode?_hexDigit (by omega) (by omega)
    have hnumber : c.toNat / 16 * 16 + c.toNat % 16 = c.toNat := by omega
    have hlow : isLowHalf c.toNat = false := by simp [isLowHalf]; omega
    have hhigh : isHighHalf c.toNat = false := by simp [isHighHalf]; omega
    rw [hnumber] at hcode
    simp [if_pos hcontrol, stringBody, hcode, hlow, hhigh, Char.ofNat_toNat]
  · rw [if_neg hcontrol, List.singleton_append]
    exact stringBody_cons hquote hslash (by omega) rest

/-- A quoted text is read back behind its opening quote. -/
theorem stringBody_quote (text rest : List Char) :
    stringBody true (text.flatMap quoteChar ++ '"' :: rest) = .ok (text, rest) := by
  induction text with
  | nil => simp [stringBody]
  | cons c text ih =>
    rw [List.flatMap_cons, List.append_assoc, stringBody_quoteChar, ih]
    rfl

/-! ## Numbers -/

/-- The text does not go on with a number. -/
def EndsNumber (rest : List Char) : Prop :=
  ∀ c ∈ rest.head?, c.isDigit = false ∧ c ≠ '.' ∧ c ≠ 'e' ∧ c ≠ 'E'

/-- A text that does not go on with a number does not go on with a digit. -/
theorem EndsNumber.endsDigits {rest : List Char} (h : EndsNumber rest) : Text.EndsDigits rest :=
  fun c hc => (h c hc).1

/-- Digits that make up a number of 64 bits are all taken into it. -/
theorem takeDigits_eq {n : Nat} {digits : List Char}
    (h : digits.foldl (fun n c => n * 10 + Text.decimalValue [c]) n < numberLimit) :
    takeDigits n digits = (digits.foldl (fun n c => n * 10 + Text.decimalValue [c]) n, []) := by
  induction digits generalizing n with
  | nil => rfl
  | cons c digits ih =>
    have hgrows (digits : List Char) (m : Nat) :
        m ≤ digits.foldl (fun n c => n * 10 + Text.decimalValue [c]) m := by
      induction digits generalizing m with
      | nil => exact Nat.le_refl m
      | cons d digits ih => exact Nat.le_trans (by omega) (ih (m * 10 + Text.decimalValue [d]))
    rw [List.foldl_cons] at h ⊢
    have hlt := Nat.lt_of_le_of_lt (hgrows digits _) h
    simp only [takeDigits, if_pos hlt]
    exact ih h

/-- No exponent is read where the text does not go on with a number. -/
theorem exponent?_of_endsNumber (atEnd : Fault) {rest : List Char} (hrest : EndsNumber rest) :
    exponent? atEnd rest = .ok (none, rest) := by
  cases rest with
  | nil => rfl
  | cons c rest =>
    obtain ⟨-, -, he, hE⟩ := hrest c rfl
    simp [exponent?, he, hE]

/-- Digits with a text behind them that does not go on with a number are read as a whole number. -/
theorem numeral_append (atEnd : Fault) {digits rest : List Char} (hne : digits ≠ [])
    (hdigits : ∀ c ∈ digits, c.isDigit = true)
    (hzero : ¬(digits.head? = some '0' ∧ digits.length > 1)) (hrest : EndsNumber rest) :
    numeral atEnd (digits ++ rest) = .ok (⟨false, digits, [], 0, false⟩, rest) := by
  obtain ⟨htake, hdrop⟩ := Text.takeWhile_isDigit_append hdigits hrest.endsDigits
  unfold numeral
  split
  rename_i negative text hsign
  split at hsign
  · -- A digit is no sign.
    rename_i others heq
    cases digits with
    | nil => exact absurd rfl hne
    | cons c digits =>
      have hc := hdigits c List.mem_cons_self
      rw [(List.cons.inj heq).1] at hc
      exact absurd hc (by decide)
  · obtain ⟨rfl, rfl⟩ := Prod.mk.inj hsign
    simp only [htake, hdrop, if_neg hne, if_neg hzero]
    split
    · exact absurd rfl (hrest '.' rfl).2.1
    · simp only [pure_bind, exponent?_of_endsNumber atEnd hrest]
      rfl

/-- Rounding to 53 binary digits makes a number of 64 bits greater by less than its double. -/
theorem roundToFloat_lt {n : Nat} (h : n < numberLimit) :
    Text.roundToFloat n < 2 * numberLimit := by
  have hlog : n.log2 ≤ 63 := by
    by_cases hn : n = 0
    · subst hn
      decide
    · have : n.log2 < 64 := (Nat.log2_lt hn).2 (by unfold numberLimit at h; omega)
      omega
  have hunit : Nat.pow 2 (n.log2 + 1 - 53) ≤ Nat.pow 2 11 :=
    Nat.pow_le_pow_right (by decide) (by omega)
  have hkept : n / Nat.pow 2 (n.log2 + 1 - 53) * Nat.pow 2 (n.log2 + 1 - 53) ≤ n :=
    Nat.div_mul_le_self n _
  have hsmall : Nat.pow 2 11 < numberLimit := by decide
  unfold Text.roundToFloat
  simp only
  split
  · rw [Nat.succ_mul]
    omega
  · omega

/-- A number of 64 bits is not too large for a binary fraction. -/
theorem productExceedsFloat_eq_false {n : Nat} (h : n < numberLimit) :
    Text.productExceedsFloat n 0 = false := by
  have hone : Text.roundToFloat (Nat.pow 10 (Int.toNat 0)) = 1 := by decide +kernel
  have hbound : 2 * numberLimit < Text.floatBound := by decide +kernel
  have hlt := roundToFloat_lt h
  unfold Text.productExceedsFloat
  rw [hone, Nat.mul_one]
  have hfits : ¬Text.floatBound ≤ Text.roundToFloat n := by omega
  simp [hfits, Text.greatestPower]

/-- A written number of 64 bits is read back. -/
theorem natural?_toString {n : Nat} (h : n < numberLimit) {rest : List Char}
    (hrest : EndsNumber rest) :
    natural? ((toString n).toList ++ rest) = .ok (some n, rest) := by
  have hzero : ¬((toString n).toList.head? = some '0' ∧ (toString n).toList.length > 1) := by
    rintro ⟨hhead, hlength⟩
    by_cases hn : n = 0
    · subst hn
      exact absurd hlength (by decide)
    · exact Text.head_toString_ne_zero hn hhead
  have hvalue := Text.decimalValue_toString n
  have hfold : (toString n).toList.foldl (fun n c => n * 10 + Text.decimalValue [c]) 0 = n := by
    refine Eq.trans ?_ hvalue
    unfold Text.decimalValue
    simp
  have htake : takeDigits 0 (toString n).toList = (n, []) := by
    rw [takeDigits_eq (by rw [hfold]; exact h), hfold]
  have hparts : Numeral.parts ⟨false, (toString n).toList, [], 0, false⟩ = (n, 0) := by
    simp only [Numeral.parts, htake, takeDigits]
    rfl
  have hnatural : Numeral.natural? ⟨false, (toString n).toList, [], 0, false⟩ = some n := by
    simp only [Numeral.natural?, hvalue, Bool.false_or, ge_iff_le,
      decide_eq_false (Nat.not_le.2 h), Bool.false_eq_true, if_false]
  unfold natural?
  rw [numeral_append .cutOff (Text.toList_toString_ne_nil n)
    (fun c hc => Text.isDigit_of_mem_toString hc) hzero hrest]
  simp only [bind, Except.bind, hparts, productExceedsFloat_eq_false h, hnatural]
  rfl

end WallpaperRotation.Json
