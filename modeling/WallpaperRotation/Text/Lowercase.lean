/-
# Lower case

The lower case of a text.  Every character has a lower case of its own, which is one character or,
for a capital I with a dot, two; only a capital sigma looks at its neighbours, as it has another
form at the end of a word.
-/
import WallpaperRotation.Text.CaseTable

namespace WallpaperRotation.Text

/-! ## Single characters -/

/-- The code point has a lower case listed in the run. -/
def CaseRun.holds (run : CaseRun) (code : Nat) : Bool :=
  run.first ≤ code && code ≤ run.last && (code - run.first) % run.stride == 0

/-- The lower case of a character, apart from its neighbours. -/
def lowerChar (c : Char) : List Char :=
  if c.toNat = 0x130 then ['i', Char.ofNat 0x307]
  else
    match caseRuns.find? (fun run => run.holds c.toNat) with
    | some run => [Char.ofNat (run.image + (c.toNat - run.first))]
    | none => [c]

/-! ## Sigma -/

/-- Looking away from a place in a word, past the characters that are ignored around case, the
first one has a case. -/
def meetsCased (text : List Char) : Bool :=
  match text.dropWhile (fun c => inRanges caseIgnorableRanges c.toNat) with
  | [] => false
  | c :: _ => inRanges casedRanges c.toNat

/-- The lower case of a capital sigma between the text before it, nearest character first, and the
text after it: the final form at the end of a word. -/
def lowerSigma (before following : List Char) : Char :=
  if meetsCased before && !meetsCased following then Char.ofNat 0x3C2 else Char.ofNat 0x3C3

/-! ## Texts -/

/-- The lower case of the text that follows `before`, which is given nearest character first. -/
def lowerAfter (before : List Char) : List Char → List Char
  | [] => []
  | c :: text =>
    (if c.toNat = 0x3A3 then [lowerSigma before text] else lowerChar c) ++
      lowerAfter (c :: before) text

/-- The lower case of a text. -/
def lowercase (text : List Char) : List Char :=
  lowerAfter [] text

end WallpaperRotation.Text
