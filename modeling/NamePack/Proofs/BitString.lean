import Mathlib.Algebra.Group.Nat.Defs
import NamePack.Bits.Layout

/-!
# Bit strings

Bytes as a flat list of bits, the highest bit of each byte first. `lowBits` spells a number, `value`
reads it back, and `spread` spells bytes; bytes with the same bits are the same (`spread_injective`).
The last section ties the word operations of packer and unpacker to numbers.
-/
namespace NamePack.Bits

/-- The lowest `k` bits of a number, the highest of them first. -/
def lowBits : Nat → Nat → List Bool
  | 0, _ => []
  | k + 1, n => n.testBit k :: lowBits k n

/-- The number that bits spell, the highest bit first. -/
def value : List Bool → Nat
  | [] => 0
  | b :: rest => b.toNat * 2 ^ rest.length + value rest

/-- The bits of bytes in the order of the stream. -/
def spread (data : Bytes) : List Bool := data.flatMap fun b => lowBits 8 b.toNat

/-! ## Numbers as bits -/

theorem length_lowBits (k n : Nat) : (lowBits k n).length = k := by
  induction k with
  | zero => rfl
  | succ k ih => rw [lowBits, List.length_cons, ih]

theorem lowBits_congr {k n m : Nat} (same : ∀ i < k, n.testBit i = m.testBit i) : lowBits k n = lowBits k m := by
  induction k with
  | zero => rfl
  | succ k ih =>
    rw [lowBits, lowBits, same k (by omega), ih fun i below => same i (by omega)]

theorem lowBits_mod {k j : Nat} (inside : k ≤ j) (n : Nat) : lowBits k (n % 2 ^ j) = lowBits k n := by
  apply lowBits_congr
  intro i below
  have small : i < j := by omega
  rw [Nat.testBit_mod_two_pow, decide_eq_true small, Bool.true_and]

/-- The bits of a number split at any place. -/
theorem lowBits_add (a b n : Nat) : lowBits (a + b) n = lowBits a (n >>> b) ++ lowBits b n := by
  induction a with
  | zero => rw [Nat.zero_add, lowBits, List.nil_append]
  | succ a ih =>
    have next : a + 1 + b = (a + b) + 1 := by omega
    rw [next, lowBits, lowBits, Nat.testBit_shiftRight, Nat.add_comm b a, ih, List.cons_append]

/-- The bits of a number that is put together from two. -/
theorem lowBits_mul_add (a k n : Nat) {m : Nat} (small : m < 2 ^ k) :
    lowBits (a + k) (n * 2 ^ k + m) = lowBits a n ++ lowBits k m := by
  have high : (n * 2 ^ k + m) >>> k = n := by
    rw [Nat.shiftRight_eq_div_pow, Nat.mul_comm, Nat.mul_add_div (Nat.two_pow_pos k), Nat.div_eq_of_lt small,
      Nat.add_zero]
  have low : lowBits k (n * 2 ^ k + m) = lowBits k m := by
    rw [← lowBits_mod (Nat.le_refl k), Nat.mul_comm, Nat.mul_add_mod, Nat.mod_eq_of_lt small]
  rw [lowBits_add, high, low]

theorem lowBits_zero (k : Nat) : lowBits k 0 = List.replicate k false := by
  induction k with
  | zero => rfl
  | succ k ih => rw [lowBits, ih, Nat.zero_testBit, List.replicate_succ]

theorem value_append (xs ys : List Bool) : value (xs ++ ys) = value xs * 2 ^ ys.length + value ys := by
  induction xs with
  | nil => simp only [List.nil_append, value, Nat.zero_mul, Nat.zero_add]
  | cons x xs ih =>
    rw [List.cons_append, value, value, ih, List.length_append, Nat.pow_add, Nat.add_mul, Nat.mul_assoc,
      Nat.add_assoc]

theorem value_lt (xs : List Bool) : value xs < 2 ^ xs.length := by
  induction xs with
  | nil => decide
  | cons x xs ih =>
    rw [value, List.length_cons, Nat.pow_succ]
    cases x <;> simp only [Bool.toNat_false, Bool.toNat_true, Nat.zero_mul, Nat.one_mul] <;> omega

theorem value_lowBits (k n : Nat) : value (lowBits k n) = n % 2 ^ k := by
  induction k with
  | zero => rw [lowBits, value, Nat.pow_zero, Nat.mod_one]
  | succ k ih =>
    rw [lowBits, value, ih, length_lowBits, Nat.mod_pow_succ, ← Nat.toNat_testBit, Nat.add_comm, Nat.mul_comm]

theorem lowBits_value (xs : List Bool) : lowBits xs.length (value xs) = xs := by
  induction xs with
  | nil => rfl
  | cons x xs ih =>
    have low := value_lt xs
    have highest : (value (x :: xs)).testBit xs.length = x := by
      rw [value, Nat.mul_comm, Nat.testBit_two_pow_mul_add _ low]
      cases x <;> simp
    have rest : lowBits xs.length (value (x :: xs)) = lowBits xs.length (value xs) := by
      rw [← lowBits_mod (Nat.le_refl _) (value (x :: xs)), value, Nat.mul_comm, Nat.mul_add_mod,
        Nat.mod_eq_of_lt low]
    rw [List.length_cons, lowBits, highest, rest, ih]

/-- A slice that is read in two parts. -/
theorem value_slice {bits : List Bool} (pos a b : Nat) (inside : pos + (a + b) ≤ bits.length) :
    value ((bits.drop pos).take (a + b)) =
      value ((bits.drop pos).take a) * 2 ^ b + value ((bits.drop (pos + a)).take b) := by
  have size : ((bits.drop (pos + a)).take b).length = b := by
    rw [List.length_take, List.length_drop]
    omega
  rw [List.take_add, List.drop_drop, value_append, size]

theorem mul_add_lt {n m a b : Nat} (high : n < 2 ^ a) (low : m < 2 ^ b) : n * 2 ^ b + m < 2 ^ (a + b) := by
  calc n * 2 ^ b + m < (n + 1) * 2 ^ b := by rw [Nat.add_mul, Nat.one_mul]; omega
    _ ≤ 2 ^ a * 2 ^ b := Nat.mul_le_mul_right _ high
    _ = 2 ^ (a + b) := (Nat.pow_add ..).symm

/-! ## Bytes as bits -/

theorem spread_nil : spread [] = [] := rfl

theorem spread_cons (b : UInt8) (rest : Bytes) : spread (b :: rest) = lowBits 8 b.toNat ++ spread rest := rfl

theorem spread_append (xs ys : Bytes) : spread (xs ++ ys) = spread xs ++ spread ys := List.flatMap_append

theorem length_spread (data : Bytes) : (spread data).length = 8 * data.length := by
  induction data with
  | nil => rfl
  | cons b rest ih =>
    rw [spread_cons, List.length_append, length_lowBits, ih, List.length_cons]
    omega

theorem spread_injective {xs ys : Bytes} (same : spread xs = spread ys) : xs = ys := by
  induction xs generalizing ys with
  | nil =>
    have size := congrArg List.length same
    rw [length_spread, length_spread, List.length_nil] at size
    exact (List.length_eq_zero_iff.mp (by omega)).symm
  | cons x xs ih =>
    cases ys with
    | nil =>
      have size := congrArg List.length same
      rw [length_spread, length_spread, List.length_nil, List.length_cons] at size
      omega
    | cons y ys =>
      rw [spread_cons, spread_cons] at same
      obtain ⟨heads, tails⟩ := List.append_inj same (by rw [length_lowBits, length_lowBits])
      have equal := congrArg value heads
      rw [value_lowBits, value_lowBits, Nat.mod_eq_of_lt x.toNat_lt, Nat.mod_eq_of_lt y.toNat_lt] at equal
      rw [UInt8.toNat_inj.mp equal, ih tails]

/-- What holds of all 256 bytes holds of each. -/
theorem forall_byte {P : UInt8 → Prop} (each : ∀ n < 256, P (UInt8.ofNat n)) (b : UInt8) : P b := by
  rw [← UInt8.ofNat_toNat (x := b)]
  exact each _ b.toNat_lt

/-- Bits that lie within one byte. -/
theorem spread_slice {data : Bytes} {pos count : Nat} {b : UInt8} (at_pos : data[pos / 8]? = some b)
    (fits : pos % 8 + count ≤ 8) :
    ((spread data).drop pos).take count = lowBits count (b.toNat >>> (8 - pos % 8 - count)) := by
  obtain ⟨inside, is_b⟩ := List.getElem?_eq_some_iff.mp at_pos
  have split : spread data =
      spread (data.take (pos / 8)) ++ (lowBits 8 b.toNat ++ spread (data.drop (pos / 8 + 1))) := by
    rw [← spread_cons, ← is_b, ← List.drop_eq_getElem_cons inside, ← spread_append, List.take_append_drop]
  -- The bits of the byte fall into those before the slice, the slice and those after it.
  have parts : lowBits 8 b.toNat = lowBits (pos % 8) (b.toNat >>> (8 - pos % 8)) ++
      (lowBits count (b.toNat >>> (8 - pos % 8 - count)) ++ lowBits (8 - pos % 8 - count) b.toNat) := by
    have tail : 8 - pos % 8 = count + (8 - pos % 8 - count) := by omega
    have whole : 8 = pos % 8 + (8 - pos % 8) := by omega
    rw [← lowBits_add, ← tail, ← lowBits_add, ← whole]
  have before : (spread (data.take (pos / 8)) ++ lowBits (pos % 8) (b.toNat >>> (8 - pos % 8))).length = pos := by
    rw [List.length_append, length_spread, List.length_take, length_lowBits]
    omega
  rw [split, parts, List.append_assoc, ← List.append_assoc, List.drop_left' before, List.append_assoc,
    List.take_left' (length_lowBits _ _)]

/-! ## Words as bits -/

theorem toNat_toUInt32 {n : Nat} (small : n < 32) : n.toUInt32.toNat % 32 = n := by
  rw [Nat.toUInt32_eq, UInt32.toNat_ofNat']
  omega

theorem toNat_lowMask {n : Nat} (small : n < 32) : (lowMask n).toNat = 2 ^ n - 1 := by
  have positive := Nat.two_pow_pos n
  have below : 2 ^ n < 2 ^ 32 := Nat.pow_lt_pow_right (by decide) small
  have power : ((1 : UInt32) <<< n.toUInt32).toNat = 2 ^ n := by
    rw [UInt32.toNat_shiftLeft, toNat_toUInt32 small, UInt32.toNat_one, Nat.one_shiftLeft, Nat.mod_eq_of_lt below]
  have room : (1 : UInt32) ≤ 1 <<< n.toUInt32 := by
    rw [UInt32.le_iff_toNat_le, power, UInt32.toNat_one]
    omega
  rw [lowMask, UInt32.toNat_sub_of_le _ _ room, power, UInt32.toNat_one]

/-- A mask keeps the lowest bits of a word. -/
theorem toNat_and_lowMask (word : UInt32) {n : Nat} (small : n < 32) :
    (word &&& lowMask n).toNat = word.toNat % 2 ^ n := by
  rw [UInt32.toNat_and, toNat_lowMask small, Nat.and_two_pow_sub_one_eq_mod]

theorem toNat_shiftLeft {word : UInt32} {n : Nat} (small : n < 32) (room : word.toNat < 2 ^ (32 - n)) :
    (word <<< n.toUInt32).toNat = word.toNat * 2 ^ n := by
  have whole : word.toNat * 2 ^ n < 2 ^ 32 := by
    calc word.toNat * 2 ^ n < 2 ^ (32 - n) * 2 ^ n := Nat.mul_lt_mul_of_pos_right room (Nat.two_pow_pos n)
      _ = 2 ^ 32 := by rw [← Nat.pow_add, Nat.sub_add_cancel (Nat.le_of_lt small)]
  rw [UInt32.toNat_shiftLeft, toNat_toUInt32 small, Nat.shiftLeft_eq, Nat.mod_eq_of_lt whole]

/-- Bits put behind those of a word that has room for them. -/
theorem toNat_shiftLeft_or {word bits : UInt32} {n : Nat} (small : n < 32) (room : word.toNat < 2 ^ (32 - n))
    (fits : bits.toNat < 2 ^ n) : ((word <<< n.toUInt32) ||| bits).toNat = word.toNat * 2 ^ n + bits.toNat := by
  rw [UInt32.toNat_or, toNat_shiftLeft small room, ← Nat.shiftLeft_eq, Nat.shiftLeft_add_eq_or_of_lt fits]

theorem toNat_shiftRight {word : UInt32} {n : Nat} (small : n < 32) :
    (word >>> n.toUInt32).toNat = word.toNat >>> n := by
  rw [UInt32.toNat_shiftRight, toNat_toUInt32 small]

end NamePack.Bits
