/-
# How intervals are written

An interval is written as digits and the name of a unit, or none for seconds, with blanks anywhere
but inside of them.  A text is read as an interval exactly when it is written so and the number and
the seconds that it comes to are counted by a word, and the seconds are not zero; then it is that
many seconds.
-/
import WallpaperRotation.Proofs.Text.Blank
import WallpaperRotation.Proofs.Text.Decimal
import WallpaperRotation.Watch.Interval

namespace WallpaperRotation.Interval

open Text

/-! ## Units -/

/-- A unit of time. -/
inductive TimeUnit where
  | second
  | minute
  | hour
  | day

/-- The names of a unit; seconds need none. -/
def TimeUnit.names : TimeUnit → List String
  | .second => ["", "s", "sec", "secs"]
  | .minute => ["m", "min", "mins"]
  | .hour => ["h", "hr", "hrs"]
  | .day => ["d", "day", "days"]

/-- The seconds in a unit. -/
def TimeUnit.seconds : TimeUnit → Nat
  | .second => 1
  | .minute => 60
  | .hour => 3600
  | .day => 86400

/-- A unit is a second at least. -/
theorem TimeUnit.seconds_pos (unit : TimeUnit) : 0 < unit.seconds := by
  cases unit <;> decide

/-- Names of units have neither blanks nor digits. -/
theorem TimeUnit.of_mem_name {unit : TimeUnit} {name : String} (hname : name ∈ unit.names)
    {c : Char} (hc : c ∈ name.toList) : isBlank c = false ∧ c.isDigit = false := by
  have hall : (unit.names.all fun name =>
      name.toList.all fun c => !isBlank c && !c.isDigit) = true := by
    cases unit <;> decide +kernel
  simpa using List.all_eq_true.1 (List.all_eq_true.1 hall name hname) c hc

/-- Blanks are no digits. -/
theorem isDigit_of_isBlank {c : Char} (h : isBlank c = true) : c.isDigit = false := by
  refine Bool.eq_false_iff.2 fun hdigit => ?_
  rw [isBlank_of_isDigit hdigit] at h
  cases h

/-- The texts that are read as units are their names. -/
theorem unitSeconds?_eq_some_iff {text : List Char} {n : Nat} :
    unitSeconds? text = some n ↔
      ∃ unit : TimeUnit, ∃ name ∈ unit.names, text = name.toList ∧ unit.seconds = n := by
  have hread (unit : TimeUnit) (name : String) (hname : name ∈ unit.names) :
      unitSeconds? name.toList = some unit.seconds := by
    have hall : ∀ name ∈ unit.names, unitSeconds? name.toList = some unit.seconds := by
      cases unit <;> decide +kernel
    exact hall name hname
  constructor
  · intro h
    by_cases hnamed : ∃ unit : TimeUnit, ∃ name ∈ unit.names, text = name.toList
    · obtain ⟨unit, name, hname, rfl⟩ := hnamed
      rw [hread unit name hname] at h
      exact ⟨unit, name, hname, rfl, Option.some.inj h⟩
    · -- A text that is no name is none of those that are looked for.
      have hother (unit : TimeUnit) (name : String) (hname : name ∈ unit.names) :
          String.ofList text ≠ name := by
        rintro rfl
        exact hnamed ⟨unit, _, hname, String.toList_ofList.symm⟩
      have hnone : unitSeconds? text = none := by
        have hseconds := hother .second
        have hminutes := hother .minute
        have hhours := hother .hour
        have hdays := hother .day
        simp only [TimeUnit.names, List.forall_mem_cons] at hseconds hminutes hhours hdays
        unfold unitSeconds?
        split <;> simp_all
      rw [hnone] at h
      cases h
  · rintro ⟨unit, name, hname, rfl, rfl⟩
    exact hread unit name hname

/-! ## Spellings -/

/-- A way to write an interval. -/
structure Spelling where
  before : List Char
  digits : List Char
  gap : List Char
  unit : TimeUnit
  name : String
  behind : List Char
  digits_ne_nil : digits ≠ []
  isDigit_of_mem : ∀ c ∈ digits, c.isDigit = true
  name_mem : name ∈ unit.names
  blank_before : IsAllBlank before
  blank_gap : IsAllBlank gap
  blank_behind : IsAllBlank behind

namespace Spelling

/-- The text that is written. -/
def text (spelling : Spelling) : String :=
  String.ofList (spelling.before ++ spelling.digits ++ spelling.gap ++ spelling.name.toList ++
    spelling.behind)

/-- The number that the digits make up. -/
def count (spelling : Spelling) : Nat :=
  Nat.ofDigits 10 (spelling.digits.reverse.map fun c => c.toNat - '0'.toNat)

/-- The seconds that it comes to. -/
def seconds (spelling : Spelling) : Nat :=
  spelling.count * spelling.unit.seconds

/-- The text without the blanks around it is the digits and something behind them that is, without
blanks, the name of the unit. -/
theorem exists_tail (spelling : Spelling) :
    ∃ tail, trim spelling.text.toList = spelling.digits ++ tail ∧ EndsDigits tail ∧
      trim tail = spelling.name.toList := by
  obtain ⟨before, digits, gap, unit, name, behind, hne, hdigits, hname, hbefore, hgap, hbehind⟩ :=
    spelling
  have hletter : ∀ c ∈ name.toList, isBlank c = false ∧ c.isDigit = false :=
    fun c hc => TimeUnit.of_mem_name hname hc
  refine ⟨trimEnd (gap ++ name.toList ++ behind), ?_, fun c hc => ?_, ?_⟩
  · simp only [text, String.toList_ofList, List.append_assoc]
    rw [← List.append_assoc]
    exact trim_word hbefore hne (fun c hc => isBlank_of_isDigit (hdigits c hc)) _
  · -- Behind the digits are only blanks and the name.
    obtain ⟨trail, htail, -, -⟩ :=
      trimEnd_eq_iff.1 (rfl : trimEnd (gap ++ name.toList ++ behind) = _)
    have hmem : c ∈ gap ++ name.toList ++ behind := by
      rw [htail]
      exact List.mem_append_left _ (List.mem_of_head? hc)
    rcases List.mem_append.1 hmem with hmem | hmem
    · rcases List.mem_append.1 hmem with hmem | hmem
      · exact isDigit_of_isBlank (hgap c hmem)
      · exact (hletter c hmem).2
    · exact isDigit_of_isBlank (hbehind c hmem)
  · rw [trim_trimEnd]
    refine trim_eq_iff.2 ⟨gap, behind, rfl, hgap, hbehind, fun c hc => ?_, fun c hc => ?_⟩
    · exact (hletter c (List.mem_of_head? hc)).1
    · exact (hletter c (List.mem_of_getLast? hc)).1

/-- The seconds, as they are worked out digit by digit. -/
theorem seconds_eq (spelling : Spelling) :
    spelling.seconds = decimalValue spelling.digits * spelling.unit.seconds := by
  rw [seconds, count, decimalValue_eq_ofDigits]

end Spelling

/-! ## Reading -/

/-- A text is read as an interval when what is left of it without blanks is digits and, behind them,
the name of a unit, and the seconds that they come to are as many as a word counts and not zero. -/
theorem ofText?_eq_some_iff_parts {text : String} {interval : Interval} :
    ofText? text = some interval ↔
      ∃ n, unitSeconds? (trim ((trim text.toList).dropWhile Char.isDigit)) = some n ∧
        (trim text.toList).takeWhile Char.isDigit ≠ [] ∧
        0 < decimalValue ((trim text.toList).takeWhile Char.isDigit) * n ∧
        decimalValue ((trim text.toList).takeWhile Char.isDigit) * n ≤ greatest ∧
        interval.seconds = decimalValue ((trim text.toList).takeWhile Char.isDigit) * n := by
  simp only [ofText?, Option.bind_eq_bind, Option.bind_eq_some_iff]
  refine exists_congr fun n => and_congr_right fun _ => ?_
  constructor
  · intro h
    split at h
    · rename_i hparts
      cases h
      exact ⟨hparts.1, hparts.2.1, hparts.2.2, rfl⟩
    · cases h
  · rintro ⟨hne, hpos, hle, hseconds⟩
    rw [dif_pos ⟨hne, hpos, hle⟩]
    cases interval
    simp only at hseconds
    subst hseconds
    rfl

/-- A text is read as an interval exactly when it is written as one: blanks, one digit or more,
blanks, the name of a unit and blanks.  The number that the digits make up, zeros in front not
counted, and the seconds that it comes to are counted by a word of 64 bits, and the seconds are one
at least; then the interval is exactly that many seconds. -/
theorem ofText?_eq_some_iff (text : String) (interval : Interval) :
    ofText? text = some interval ↔
      ∃ spelling : Spelling, spelling.text = text ∧ spelling.count < UInt64.size ∧
        1 ≤ spelling.seconds ∧ spelling.seconds < UInt64.size ∧
        interval.seconds = spelling.seconds := by
  rw [ofText?_eq_some_iff_parts]
  constructor
  · rintro ⟨n, hunit, hne, hpos, hle, hseconds⟩
    obtain ⟨unit, name, hname, htail, rfl⟩ := unitSeconds?_eq_some_iff.1 hunit
    obtain ⟨before, after, htext, hbefore, hafter, -, -⟩ :=
      trim_eq_iff.1 (rfl : trim text.toList = _)
    obtain ⟨gap, behind, hrest, hgap, hbehind, -, -⟩ := trim_eq_iff.1 htail
    let spelling : Spelling :=
      ⟨before, (trim text.toList).takeWhile Char.isDigit, gap, unit, name, behind ++ after, hne,
        fun c hc => List.mem_takeWhile_imp hc, hname, hbefore, hgap, hbehind.append hafter⟩
    have hnumber : (trim text.toList).takeWhile Char.isDigit ++
        (gap ++ name.toList ++ behind) = trim text.toList := by
      rw [← hrest]
      exact List.takeWhile_append_dropWhile
    have hspelled : spelling.text.toList = text.toList := by
      calc spelling.text.toList
          = before ++ ((trim text.toList).takeWhile Char.isDigit ++
              (gap ++ name.toList ++ behind)) ++ after := by simp [Spelling.text, spelling]
        _ = before ++ trim text.toList ++ after := by rw [hnumber]
        _ = text.toList := htext.symm
    have hcomes : spelling.seconds =
        decimalValue ((trim text.toList).takeWhile Char.isDigit) * unit.seconds :=
      spelling.seconds_eq
    rw [← hcomes] at hpos hle hseconds
    have hlt : spelling.seconds < UInt64.size := Nat.lt_succ_of_le hle
    refine ⟨spelling, String.toList_inj.1 hspelled, ?_, hpos, hlt, hseconds⟩
    -- No unit is less than a second, so the number is no more than the seconds.
    exact Nat.lt_of_le_of_lt (Nat.le_mul_of_pos_right _ unit.seconds_pos) hlt
  · rintro ⟨spelling, rfl, hcount, hpos, hlt, hseconds⟩
    obtain ⟨tail, htrim, hend, htail⟩ := spelling.exists_tail
    obtain ⟨htake, hdrop⟩ := takeWhile_isDigit_append spelling.isDigit_of_mem hend
    rw [htrim, htake, hdrop, htail]
    rw [spelling.seconds_eq] at hpos hlt hseconds
    exact ⟨_, unitSeconds?_eq_some_iff.2 ⟨_, _, spelling.name_mem, rfl, rfl⟩,
      spelling.digits_ne_nil, hpos, Nat.le_of_lt_succ hlt, hseconds⟩

/-- Blanks may stand anywhere but inside the number and the unit, and zeros in front do not
count. -/
example : (ofText? " 0090\tmin ").map seconds = some 5400 := by decide +kernel

end WallpaperRotation.Interval
