import NamePack.Error

/-!
# The layout of packed codes

Codes of one width stand one after another, the highest bit first, behind a flag bit and before
padding of zeros that fills the last byte. No code at all takes no byte. Where the padding could hold
one more code, the flag is set, so that the number of codes can be told from the number of bytes.
-/
namespace NamePack.Bits

/-- The number of bytes that `count` codes of `width` bits take, flag and padding included. -/
def packedSize (count width : Nat) : Nat :=
  if count = 0 then 0 else (1 + count * width + 7) / 8

/-- Whether the padding after `count` codes of `width` bits could hold one more. -/
def leavesRoom (count width : Nat) : Bool :=
  let size := packedSize count width
  size != 0 && width ≤ size * 8 - 1 - count * width

def flagBit : UInt8 := 0x80

/-- The flag of packed codes. -/
def isFlagged : Bytes → Bool
  | [] => false
  | b :: _ => b &&& flagBit != 0

def setFlag : Bytes → Bytes
  | [] => []
  | b :: rest => (b ||| flagBit) :: rest

/-- A word whose `n` lowest bits alone are set. -/
def lowMask (n : Nat) : UInt32 := (1 <<< n.toUInt32) - 1

end NamePack.Bits
