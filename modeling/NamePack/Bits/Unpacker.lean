import NamePack.Bits.Layout

/-!
# Unpacking codes

`Unpacker.new` finds the number of codes from the number of bytes and the flag, and refuses bytes that
no packer writes. `next` then reads the codes one by one.
-/
namespace NamePack.Bits

/-- The number of codes of `width` bits in packed bytes. -/
def countCodes (width : Nat) (data : Bytes) : Except Error Nat :=
  let size := data.length
  if size = 0 then .ok 0
  else
    let room := (size * 8 - 1) / width
    let count := if isFlagged data then room - 1 else room
    let padding := size * 8 - (1 + count * width)
    let last := data.getLast?.getD 0
    if count = 0 then .error (.malformed (.noCode size width))
    else if packedSize count width ≠ size then .error (.malformed (.surplusBytes size count width))
    else if last.toUInt32 &&& lowMask (min padding 8) ≠ 0 then .error (.malformed .dirtyPadding)
    else .ok count

/-- Packed codes that are being read. -/
structure Unpacker where
  data : Array UInt8
  width : Nat
  /-- The next bit, counted from the highest bit of the first byte. -/
  position : Nat
  /-- The number of codes that are left. -/
  left : Nat
  deriving DecidableEq, Repr

namespace Unpacker

/-- The codes of packed bytes. -/
def new (width : Nat) (data : Bytes) : Except Error Unpacker :=
  (countCodes width data).map fun count => ⟨data.toArray, width, 1, count⟩

/-- The bits of `value` followed by the `need` bits from bit `pos` on, taken byte by byte. There is no
    result if the bytes end before. -/
def readBits (data : Array UInt8) (pos need : Nat) (value : UInt32) : Option UInt32 :=
  if need = 0 then some value
  else
    match data[pos / 8]? with
    | none => none
    | some byte =>
      let offset := pos % 8
      let taken := min need (8 - offset)
      let bits := (byte.toUInt32 >>> (8 - offset - taken).toUInt32) &&& lowMask taken
      readBits data (pos + taken) (need - taken) ((value <<< taken.toUInt32) ||| bits)
termination_by need
decreasing_by omega

/-- The least number of codes that may follow and the greatest. -/
def sizeHint (u : Unpacker) : Nat × Option Nat := (u.left, some u.left)

/-- The next code, of which the lowest eight bits are kept, and the codes after it. -/
def next (u : Unpacker) : Option UInt8 × Unpacker :=
  if u.left = 0 then (none, u)
  else
    ((readBits u.data u.position u.width 0).map UInt32.toUInt8,
      { u with position := u.position + u.width, left := u.left - 1 })

theorem left_next (u : Unpacker) : u.next.2.left = u.left - 1 := by
  unfold next
  split
  · rename_i none_left
    rw [none_left]
  · rfl

/-- The codes in `done` followed by the next `n`. -/
def collect (n : Nat) (u : Unpacker) (done : Array UInt8) : Bytes :=
  match n with
  | 0 => done.toList
  | n + 1 =>
    match u.next with
    | (some code, rest) => collect n rest (done.push code)
    | (none, _) => done.toList

def toList (u : Unpacker) : Bytes := collect u.left u #[]

end Unpacker

/-- The codes of `width` bits in packed bytes. -/
def unpack (width : Nat) (data : Bytes) : Except Error Bytes :=
  (Unpacker.new width data).map Unpacker.toList

end NamePack.Bits
