/-
# Decimal numbers

The number that decimal digits make up, and whether a decimal number is too large for a binary
fraction of 64 bits.
-/

namespace WallpaperRotation.Text

/-- The number that decimal digits make up. -/
def decimalValue (digits : List Char) : Nat :=
  digits.foldl (fun n c => n * 10 + (c.toNat - '0'.toNat)) 0

/-- The least number that is too large for 64 bits of binary fraction and exponent: halfway behind
the greatest one that fits. -/
def floatBound : Nat := Nat.pow 2 1024 - Nat.pow 2 970

/-- The number `digits · 10 ^ exponent` is too large for 64 bits of binary fraction and exponent.
Far from the bound the number of digits tells. -/
def exceedsFloat (digits : Nat) (exponent : Int) : Bool :=
  let magnitude := exponent + (toString digits).length
  if digits = 0 ∨ magnitude < 300 then false
  else if magnitude > 400 then true
  else decide (floatBound * Nat.pow 10 (-exponent).toNat ≤ digits * Nat.pow 10 exponent.toNat)

/-- The number to 53 binary digits; halfway between two such numbers the even one is taken. -/
def roundToFloat (n : Nat) : Nat :=
  let unit := Nat.pow 2 (n.log2 + 1 - 53)
  let kept := n / unit
  let lost := 2 * (n % unit)
  if lost > unit ∨ (lost = unit ∧ kept % 2 = 1) then (kept + 1) * unit else kept * unit

/-- The greatest power of ten that is not too large. -/
def greatestPower : Nat := 308

/-- The number `significand · 10 ^ exponent` is too large when it is multiplied from its two
factors, each of which is rounded before. -/
def productExceedsFloat (significand : Nat) (exponent : Int) : Bool :=
  significand ≠ 0 &&
    (greatestPower < exponent ||
      (0 ≤ exponent && floatBound ≤
        roundToFloat significand * roundToFloat (Nat.pow 10 exponent.toNat)))

/-- One more digit at the end makes the number ten times as large, and adds to it. -/
theorem decimalValue_append_singleton (digits : List Char) (c : Char) :
    decimalValue (digits ++ [c]) = decimalValue digits * 10 + (c.toNat - '0'.toNat) := by
  simp [decimalValue]

end WallpaperRotation.Text
