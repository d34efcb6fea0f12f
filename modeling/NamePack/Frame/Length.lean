import NamePack.Error

/-!
# Lengths in groups of seven bits

A length is written in groups of seven bits, the highest group first, each in a byte of its own; the
top bit of a byte tells that another follows. `write` uses the fewest groups. `read` takes any number
of them, zeros at the front included, as long as the value fits into 64 bits.
-/
namespace NamePack.Length

/-- The number of bits of a number without its leading zeros. -/
def bitLength (n : UInt64) : Nat := if n = 0 then 0 else n.toNat.log2 + 1

/-- The number of groups of a length: the fewest that hold its bits, and at least one. -/
def groupCount (n : UInt64) : Nat := (max (bitLength n) 1 + 6) / 7

/-- The lowest `k` groups of a length, the highest of them first. -/
def groups (n : UInt64) : Nat → Bytes
  | 0 => []
  | k + 1 =>
    let bits := ((n >>> (7 * k).toUInt64) &&& 0x7f).toUInt8
    (if k = 0 then bits else bits ||| 0x80) :: groups n k

theorem length_groups (n : UInt64) (k : Nat) : (groups n k).length = k := by
  induction k with
  | zero => rfl
  | succ k ih => rw [groups, List.length_cons, ih]

def write (n : UInt64) : Bytes := groups n (groupCount n)

theorem length_write (n : UInt64) : (write n).length = groupCount n := length_groups n _

/-- The greatest value that has room for one more group. -/
def lastShiftable : UInt64 := (0xffffffffffffffff : UInt64) >>> 7

/-- Reads groups behind those of `value`, `used` bytes so far. -/
def readAfter (value : UInt64) (used : Nat) : Bytes → Except Error (UInt64 × Nat)
  | [] => .error (.malformed .truncatedLength)
  | b :: rest =>
    if lastShiftable < value then .error (.malformed .lengthOverflow)
    else
      let next := (value <<< 7) ||| (b &&& 0x7f).toUInt64
      if b &&& 0x80 = 0 then .ok (next, used + 1) else readAfter next (used + 1) rest

/-- The length at the front of bytes and the number of bytes it takes. -/
def read (data : Bytes) : Except Error (UInt64 × Nat) := readAfter 0 0 data

end NamePack.Length
