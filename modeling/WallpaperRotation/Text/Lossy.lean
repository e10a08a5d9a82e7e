/-
# Reading bytes as text, whatever they are

Bytes that a program wrote need not be UTF-8.  `decodeLossy` reads them all the same: each longest
start of a character that is cut off, and each byte that can start none, becomes one U+FFFD.
-/

namespace WallpaperRotation.Text

/-! ## The shape of a character -/

/-- What a first byte announces: the bits it carries, the bounds of the byte after it, and how many
bytes follow in all. -/
structure Lead where
  bits : Nat
  low : Nat
  high : Nat
  follow : Nat

/-- The announcement of a first byte; `none` for a byte that starts no character. -/
def leadOf (byte : Nat) : Option Lead :=
  if byte < 0x80 then some ⟨byte, 0, 0, 0⟩
  else if 0xC2 ≤ byte ∧ byte ≤ 0xDF then some ⟨byte - 0xC0, 0x80, 0xBF, 1⟩
  else if byte = 0xE0 then some ⟨0, 0xA0, 0xBF, 2⟩
  else if byte = 0xED then some ⟨0xD, 0x80, 0x9F, 2⟩
  else if 0xE1 ≤ byte ∧ byte ≤ 0xEF then some ⟨byte - 0xE0, 0x80, 0xBF, 2⟩
  else if byte = 0xF0 then some ⟨0, 0x90, 0xBF, 3⟩
  else if 0xF1 ≤ byte ∧ byte ≤ 0xF3 then some ⟨byte - 0xF0, 0x80, 0xBF, 3⟩
  else if byte = 0xF4 then some ⟨4, 0x80, 0x8F, 3⟩
  else none

/-! ## Decoding -/

/-- The character that stands for bytes that are none. -/
def replacement : Char := Char.ofNat 0xFFFD

/-- Where the decoder stands: between characters, or inside one with the bits read so far, the
bounds of the next byte and the number of bytes still owed. -/
structure Pending where
  bits : Nat
  low : Nat
  high : Nat
  owed : Nat

/-- Decodes from between characters (`none`) or from inside one.  A byte that cannot continue the
character in hand closes it with a replacement and is looked at again as a first byte. -/
def decodeFrom : Option Pending → List UInt8 → List Char
  | none, [] => []
  | some _, [] => [replacement]
  | pending, byte :: rest =>
    let start : List Char :=
      match leadOf byte.toNat with
      | none => replacement :: decodeFrom none rest
      | some lead =>
        if lead.follow = 0 then Char.ofNat lead.bits :: decodeFrom none rest
        else decodeFrom (some ⟨lead.bits, lead.low, lead.high, lead.follow⟩) rest
    match pending with
    | none => start
    | some open_ =>
      if open_.low ≤ byte.toNat ∧ byte.toNat ≤ open_.high then
        let bits := open_.bits * 64 + (byte.toNat - 0x80)
        if open_.owed ≤ 1 then Char.ofNat bits :: decodeFrom none rest
        else decodeFrom (some ⟨bits, 0x80, 0xBF, open_.owed - 1⟩) rest
      else replacement :: start

/-- The text of the bytes, with replacements for what is not UTF-8. -/
def decodeLossy (bytes : List UInt8) : List Char :=
  decodeFrom none bytes

end WallpaperRotation.Text
