/-
# The BLAKE3 digest

The digest of a sequence of bytes.  Chunks of 1024 bytes are compressed block by block and become
the leaves of a binary tree, in which every left part holds a power of two of chunks; the root,
compressed once more under a flag of its own, gives the digest.
-/

namespace WallpaperRotation.Blake3

/-! ## Rows of words -/

/-- Four words of 32 bits. -/
structure Row where
  a : UInt32
  b : UInt32
  c : UInt32
  d : UInt32
  deriving DecidableEq

namespace Row

/-- The sums of the words. -/
def add (x y : Row) : Row :=
  ⟨x.a + y.a, x.b + y.b, x.c + y.c, x.d + y.d⟩

/-- The exclusive ors of the words. -/
def xor (x y : Row) : Row :=
  ⟨x.a ^^^ y.a, x.b ^^^ y.b, x.c ^^^ y.c, x.d ^^^ y.d⟩

/-- Every word turned to the right by so many bits, between 1 and 31. -/
def turn (bits : UInt32) (x : Row) : Row :=
  let one (w : UInt32) : UInt32 := (w >>> bits) ||| (w <<< (32 - bits))
  ⟨one x.a, one x.b, one x.c, one x.d⟩

/-- The words moved one column to the left. -/
def shift (x : Row) : Row :=
  ⟨x.b, x.c, x.d, x.a⟩

/-- The words of the row. -/
def words (x : Row) : List UInt32 :=
  [x.a, x.b, x.c, x.d]

end Row

/-! ## Compression -/

/-- A block of sixteen words. -/
abbrev Message := Vector UInt32 16

/-- The sixteen words in work, as four rows. -/
structure Grid where
  r0 : Row
  r1 : Row
  r2 : Row
  r3 : Row

/-- The initial words, which also are the chaining value of a tree's first blocks. -/
def seed : Row × Row :=
  (⟨0x6A09E667, 0xBB67AE85, 0x3C6EF372, 0xA54FF53A⟩,
   ⟨0x510E527F, 0x9B05688C, 0x1F83D9AB, 0x5BE0CD19⟩)

/-- Mixes the four columns of a grid with a word each, twice. -/
def Grid.mix (g : Grid) (mx my : Row) : Grid :=
  let r0 := (g.r0.add g.r1).add mx
  let r3 := (g.r3.xor r0).turn 16
  let r2 := g.r2.add r3
  let r1 := (g.r1.xor r2).turn 12
  let r0 := (r0.add r1).add my
  let r3 := (r3.xor r0).turn 8
  let r2 := r2.add r3
  let r1 := (r1.xor r2).turn 7
  ⟨r0, r1, r2, r3⟩

/-- Mixes the columns and then the diagonals with the words of a block. -/
def Grid.round (g : Grid) (m : Message) : Grid :=
  let g := g.mix ⟨m[0], m[2], m[4], m[6]⟩ ⟨m[1], m[3], m[5], m[7]⟩
  let slanted : Grid := ⟨g.r0, g.r1.shift, g.r2.shift.shift, g.r3.shift.shift.shift⟩
  let g := slanted.mix ⟨m[8], m[10], m[12], m[14]⟩ ⟨m[9], m[11], m[13], m[15]⟩
  ⟨g.r0, g.r1.shift.shift.shift, g.r2.shift.shift, g.r3.shift⟩

/-- The order of a block's words in the next round. -/
def permute (m : Message) : Message :=
  #v[m[2], m[6], m[3], m[10], m[7], m[0], m[4], m[13],
     m[1], m[11], m[12], m[5], m[9], m[14], m[15], m[8]]

/-- So many rounds, each with the words in a new order. -/
def Grid.rounds : Nat → Grid → Message → Grid
  | 0, g, _ => g
  | n + 1, g, m => Grid.rounds n (g.round m) (permute m)

/-- What is compressed at one place of the tree, before it is known whether it is the root. -/
structure Input where
  chain : Row × Row
  message : Message
  counter : Nat
  size : Nat
  flags : UInt32

/-- The chaining value that an input is compressed to, under further flags. -/
def Input.compress (input : Input) (further : UInt32) : Row × Row :=
  let low := UInt32.ofNat (input.counter % 4294967296)
  let high := UInt32.ofNat (input.counter / 4294967296)
  let start : Grid :=
    ⟨input.chain.1, input.chain.2, seed.1,
     ⟨low, high, UInt32.ofNat input.size, input.flags ||| further⟩⟩
  let g := start.rounds 7 input.message
  (g.r0.xor g.r2, g.r1.xor g.r3)

/-! ## Chunks -/

/-- The flags of a chunk's first block, of its last one, of an inner place of the tree and of the
root. -/
def chunkStart : UInt32 := 1
def chunkEnd : UInt32 := 2
def inner : UInt32 := 4
def root : UInt32 := 8

/-- The word at an offset, lowest byte first; bytes behind the end are zero. -/
def wordAt (bytes : ByteArray) (offset : Nat) : UInt32 :=
  let byte (i : Nat) : UInt32 :=
    if h : offset + i < bytes.size then bytes[offset + i].toUInt32 else 0
  byte 0 ||| (byte 1 <<< 8) ||| (byte 2 <<< 16) ||| (byte 3 <<< 24)

/-- The block at an offset that ends before `stop`. -/
def blockAt (bytes : ByteArray) (offset stop : Nat) : Message :=
  Vector.ofFn fun i =>
    if offset + 4 * i.val < stop then wordAt bytes (offset + 4 * i.val) else 0

/-- The input for a chunk's last block, after the blocks before it were compressed. -/
def chunkInput (bytes : ByteArray) (index offset stop : Nat) (chain : Row × Row)
    (flags : UInt32) : Nat → Input
  | 0 => ⟨chain, blockAt bytes offset stop, index, stop - offset, flags ||| chunkEnd⟩
  | more + 1 =>
    let block : Input := ⟨chain, blockAt bytes offset stop, index, 64, flags⟩
    chunkInput bytes index (offset + 64) stop (block.compress 0) 0 more

/-- The size of a chunk in bytes. -/
def chunkSize : Nat := 1024

/-- The input for the chunk with an index. -/
def chunkAt (bytes : ByteArray) (index : Nat) : Input :=
  let offset := index * chunkSize
  let stop := min bytes.size (offset + chunkSize)
  chunkInput bytes index offset stop seed chunkStart ((stop - offset - 1) / 64)

/-! ## The tree -/

/-- The input that joins two parts of the tree. -/
def join (left right : Row × Row) : Input :=
  let words := left.1.words ++ left.2.words ++ right.1.words ++ right.2.words
  ⟨seed, Vector.ofFn fun i => words[i.val]?.getD 0, 0, 64, inner⟩

/-- How many of a number of chunks, at least two, go to the left: the greatest power of two that
leaves one. -/
def leftShare (chunks : Nat) : Nat :=
  Nat.pow 2 (chunks - 1).log2

/-- The left part is smaller than the whole. -/
theorem leftShare_lt {chunks : Nat} (h : 2 ≤ chunks) : leftShare chunks < chunks := by
  have : Nat.pow 2 (chunks - 1).log2 ≤ chunks - 1 := Nat.log2_self_le (by omega)
  unfold leftShare
  omega

/-- The left part is not empty. -/
theorem leftShare_pos (chunks : Nat) : 0 < leftShare chunks :=
  Nat.pow_pos (by decide)

/-- The input for the part of the tree over so many chunks from an index on. -/
def tree (bytes : ByteArray) (index chunks : Nat) : Input :=
  if _h : chunks < 2 then chunkAt bytes index
  else
    join ((tree bytes index (leftShare chunks)).compress 0)
      ((tree bytes (index + leftShare chunks) (chunks - leftShare chunks)).compress 0)
termination_by chunks
decreasing_by
  · exact leftShare_lt (Nat.le_of_not_lt _h)
  · exact Nat.sub_lt (Nat.lt_of_lt_of_le Nat.zero_lt_two (Nat.le_of_not_lt _h))
      (leftShare_pos chunks)

/-! ## The digest -/

/-- The hexadecimal digit of a number below sixteen. -/
def hexDigit (n : Nat) : Char :=
  if n < 10 then Char.ofNat (48 + n) else Char.ofNat (87 + n)

/-- The digits of a word, lowest byte first. -/
def wordText (w : UInt32) : List Char :=
  [0, 1, 2, 3].flatMap fun i =>
    let byte := w.toNat / Nat.pow 256 i % 256
    [hexDigit (byte / 16), hexDigit (byte % 16)]

/-- The digest of the bytes, as 64 hexadecimal digits. -/
def digest (bytes : ByteArray) : String :=
  let chunks := max 1 ((bytes.size + chunkSize - 1) / chunkSize)
  let (left, right) := (tree bytes 0 chunks).compress root
  String.ofList ((left.words ++ right.words).flatMap wordText)

/-- A digest has as many digits as any other one. -/
theorem length_digest (bytes : ByteArray) : (digest bytes).length = 64 := by
  unfold digest
  simp only [String.length_ofList, Row.words, wordText, List.length_flatMap]
  rfl

end WallpaperRotation.Blake3
