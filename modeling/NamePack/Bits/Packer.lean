import NamePack.Bits.Layout

/-!
# Packing codes

`Packer` gathers codes in a word and moves whole bytes out as they fill up. The flag is the first bit
of the stream and is set last, once the number of codes is known (`finish`).
-/
namespace NamePack.Bits

/-- Packed codes that more may follow. -/
structure Packer where
  width : Nat
  /-- The bytes that are full. -/
  full : Array UInt8
  /-- The bits after the full bytes, as the lowest bits of a word. -/
  word : UInt32
  /-- The number of bits in `word`. -/
  held : Nat
  count : Nat
  deriving DecidableEq, Repr

namespace Packer

/-- A packer that holds the flag bit alone. -/
def new (width : Nat) : Packer := ⟨width, #[], 0, 1, 0⟩

/-- A new packer with memory set aside for the bytes that `capacity` codes take. -/
def withCapacity (width capacity : Nat) : Packer :=
  { new width with full := Array.emptyWithCapacity (packedSize capacity width) }

theorem withCapacity_eq (width capacity : Nat) : withCapacity width capacity = new width := rfl

/-- Moves the bytes that are full out of the lowest `bits` bits of a word. Returns the bytes and the
    number of bits that stay. -/
def flush (word : UInt32) (full : Array UInt8) (bits : Nat) : Array UInt8 × Nat :=
  if 8 ≤ bits then flush word (full.push (word >>> (bits - 8).toUInt32).toUInt8) (bits - 8)
  else (full, bits)
termination_by bits

/-- Adds the lowest `width` bits of a code. -/
def push : Packer → UInt8 → Packer
  | ⟨width, full, word, held, count⟩, code =>
    let longer := (word <<< width.toUInt32) ||| (code.toUInt32 &&& lowMask width)
    let (bytes, bits) := flush longer full (held + width)
    ⟨width, bytes, longer &&& lowMask bits, bits, count + 1⟩

theorem width_push (p : Packer) (code : UInt8) : (p.push code).width = p.width := rfl

theorem count_push (p : Packer) (code : UInt8) : (p.push code).count = p.count + 1 := rfl

def isEmpty (p : Packer) : Bool := p.count == 0

/-- The packed codes, with the last byte filled up and the flag set if it has to be. -/
def finish (p : Packer) : Bytes :=
  if p.count = 0 then []
  else
    let bytes :=
      if 0 < p.held then p.full.push (p.word <<< (8 - p.held).toUInt32).toUInt8
      else p.full
    if leavesRoom p.count p.width then setFlag bytes.toList else bytes.toList

end Packer

/-- Packs the lowest `width` bits of each code. -/
def pack (width : Nat) (codes : Bytes) : Bytes :=
  (codes.foldl Packer.push (.withCapacity width codes.length)).finish

end NamePack.Bits
