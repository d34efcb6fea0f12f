import Mathlib.Tactic.SplitIfs
import NamePack.Bits.Unpacker
import NamePack.Proofs.Packing

/-!
# What an unpacker reads

The unpacker against the flat bit string of its bytes. Each code is the group of bits at the position
(`Unpacker.next_eq`), so all codes are the groups behind the flag (`unpack_ok_iff`). The number of
codes is found from the number of bytes and the flag; `countCodes_ok_iff` tells when it is accepted.
-/
namespace NamePack.Bits

/-- A code without the bits above its width. -/
def masked (width : Nat) (code : UInt8) : UInt8 := (code.toNat % 2 ^ width).toUInt8

/-- The first `n` groups of `width` bits as numbers, of which the lowest eight bits are kept. -/
def regroup (width : Nat) : Nat → List Bool → Bytes
  | 0, _ => []
  | n + 1, bits => (value (bits.take width)).toUInt8 :: regroup width n (bits.drop width)

/-! ## Groups of bits -/

theorem masked_of_lt {width : Nat} {code : UInt8} (small : code.toNat < 2 ^ width) : masked width code = code := by
  rw [masked, Nat.mod_eq_of_lt small, Nat.toUInt8_eq, UInt8.ofNat_toNat]

theorem map_masked_of_lt {width : Nat} {codes : Bytes} (small : ∀ c ∈ codes, c.toNat < 2 ^ width) :
    codes.map (masked width) = codes := by
  have each : codes.map (masked width) = codes.map id :=
    List.map_congr_left fun c member => masked_of_lt (small c member)
  rw [each, List.map_id]

theorem length_regroup (width n : Nat) (bits : List Bool) : (regroup width n bits).length = n := by
  induction n generalizing bits with
  | zero => rfl
  | succ n ih => rw [regroup, List.length_cons, ih]

/-- The groups of the bits of codes are the codes. -/
theorem regroup_codeBits (width : Nat) (codes : Bytes) (rest : List Bool) :
    regroup width codes.length (codeBits width codes ++ rest) = codes.map (masked width) := by
  induction codes with
  | nil => rfl
  | cons c more ih =>
    have size := length_lowBits width c.toNat
    have front : codeBits width (c :: more) ++ rest = lowBits width c.toNat ++ (codeBits width more ++ rest) := by
      simp [codeBits]
    rw [front, List.length_cons, regroup, List.take_left' size, List.drop_left' size, ih, value_lowBits]
    rfl

/-- Codes of at most eight bits lose nothing: their bits are the groups. -/
theorem codeBits_regroup {width : Nat} (narrow : width ≤ 8) {n : Nat} {bits : List Bool}
    (enough : n * width ≤ bits.length) : codeBits width (regroup width n bits) = bits.take (n * width) := by
  induction n generalizing bits with
  | zero => simp [regroup, codeBits]
  | succ n ih =>
    rw [Nat.add_mul, Nat.one_mul] at enough ⊢
    have size : (bits.take width).length = width := by rw [List.length_take]; omega
    have small := value_lt (bits.take width)
    rw [size] at small
    have below : value (bits.take width) < 2 ^ 8 :=
      Nat.lt_of_lt_of_le small (Nat.pow_le_pow_right (by decide) narrow)
    have first : lowBits width (value (bits.take width)).toUInt8.toNat = bits.take width := by
      rw [Nat.toUInt8_eq, UInt8.toNat_ofNat', Nat.mod_eq_of_lt below]
      simpa [size] using lowBits_value (bits.take width)
    have enough_left : n * width ≤ (bits.drop width).length := by rw [List.length_drop]; omega
    have rest := ih enough_left
    rw [regroup, codeBits, List.flatMap_cons, first, ← codeBits, rest, Nat.add_comm, List.take_add]

/-- Every group is below the greatest number of its width. -/
theorem regroup_lt (width n : Nat) (bits : List Bool) : ∀ c ∈ regroup width n bits, c.toNat < 2 ^ width := by
  induction n generalizing bits with
  | zero => simp [regroup]
  | succ n ih =>
    intro c member
    rcases List.mem_cons.mp member with rfl | later
    · have small := value_lt (bits.take width)
      have size : (bits.take width).length ≤ width := List.length_take_le ..
      have bound := Nat.pow_le_pow_right (n := 2) (by decide) size
      rw [Nat.toUInt8_eq, UInt8.toNat_ofNat']
      exact Nat.lt_of_le_of_lt (Nat.mod_le _ _) (by omega)
    · exact ih _ c later

namespace Unpacker

/-! ## Reading codes -/

/-- A byte's share of the bits goes behind those of a word that has room for it. -/
theorem toNat_taken {data : Bytes} {pos taken : Nat} {byte : UInt8} {word : UInt32}
    (at_pos : data[pos / 8]? = some byte) (fits : pos % 8 + taken ≤ 8) (room : word.toNat < 2 ^ (32 - taken)) :
    ((word <<< taken.toUInt32) |||
        ((byte.toUInt32 >>> (8 - pos % 8 - taken).toUInt32) &&& lowMask taken)).toNat =
      word.toNat * 2 ^ taken + value (((spread data).drop pos).take taken) := by
  have slice := spread_slice at_pos fits
  have bits_eq : ((byte.toUInt32 >>> (8 - pos % 8 - taken).toUInt32) &&& lowMask taken).toNat =
      value (((spread data).drop pos).take taken) := by
    rw [toNat_and_lowMask _ (by omega), toNat_shiftRight (by omega), UInt8.toNat_toUInt32, slice, value_lowBits]
  have bits_lt := value_lt (((spread data).drop pos).take taken)
  rw [slice, length_lowBits, ← slice, ← bits_eq] at bits_lt
  rw [toNat_shiftLeft_or (by omega) room bits_lt, bits_eq]

/-- The bits from a position on go behind those of a word that has room for them. -/
theorem readBits_eq (data : Bytes) (word : UInt32) {pos need : Nat} (inside : pos + need ≤ 8 * data.length)
    (short : need ≤ 32) (room : word.toNat < 2 ^ (32 - need)) :
    ∃ result, readBits data.toArray pos need word = some result ∧
      result.toNat = word.toNat * 2 ^ need + value (((spread data).drop pos).take need) := by
  induction need using Nat.strongRecOn generalizing pos word with
  | ind need ih =>
    rw [readBits]
    by_cases done : need = 0
    · subst done
      exact ⟨word, by simp, by simp [value]⟩
    · have in_byte : pos / 8 < data.length := by omega
      have at_pos : data[pos / 8]? = some data[pos / 8] := List.getElem?_eq_getElem in_byte
      have in_array : data.toArray[pos / 8]? = some data[pos / 8] := by simp [at_pos]
      -- At most the bits that are left of this byte are taken, then those of the bytes behind it.
      rw [if_neg done, in_array]
      dsimp only
      generalize taken_is : min need (8 - pos % 8) = taken
      have room_taken : word.toNat < 2 ^ (32 - taken) :=
        Nat.lt_of_lt_of_le room (Nat.pow_le_pow_right (by decide) (by omega))
      have longer := toNat_taken at_pos (by omega) room_taken
      have group_lt : value (((spread data).drop pos).take taken) < 2 ^ taken :=
        Nat.lt_of_lt_of_le (value_lt _) (Nat.pow_le_pow_right (by decide) (List.length_take_le ..))
      have room_rest := mul_add_lt room group_lt
      rw [← longer, show 32 - need + taken = 32 - (need - taken) by omega] at room_rest
      have inside_rest : (pos + taken) + (need - taken) ≤ 8 * data.length := by omega
      obtain ⟨result, read, sum⟩ := ih (need - taken) (by omega) _ inside_rest (by omega) room_rest
      refine ⟨result, read, ?_⟩
      have whole : need = taken + (need - taken) := by omega
      have in_spread : pos + (taken + (need - taken)) ≤ (spread data).length := by rw [length_spread]; omega
      have slice := value_slice pos taken (need - taken) in_spread
      rw [sum, longer, whole, slice, ← whole, Nat.add_mul, Nat.mul_assoc, ← Nat.pow_add, ← whole, Nat.add_assoc]

/-- The next code is the group of bits at the position. -/
theorem next_eq (data : Bytes) {width pos left : Nat} (short : width ≤ 32) (some_left : 0 < left)
    (inside : pos + width ≤ 8 * data.length) :
    next ⟨data.toArray, width, pos, left⟩ =
      (some (value (((spread data).drop pos).take width)).toUInt8, ⟨data.toArray, width, pos + width, left - 1⟩) := by
  obtain ⟨result, read, spelt⟩ := readBits_eq data 0 inside short (Nat.two_pow_pos _)
  rw [UInt32.toNat_zero, Nat.zero_mul, Nat.zero_add] at spelt
  have low : result.toUInt8 = (value (((spread data).drop pos).take width)).toUInt8 := by
    rw [← spelt, ← UInt8.toNat_inj, UInt32.toNat_toUInt8, Nat.toUInt8_eq, UInt8.toNat_ofNat']
  rw [next, if_neg (by simpa using Nat.ne_of_gt some_left)]
  simp [read, low]

theorem collect_eq (data : Bytes) {width pos n : Nat} (short : width ≤ 32) (inside : pos + n * width ≤ 8 * data.length)
    (done : Array UInt8) :
    collect n ⟨data.toArray, width, pos, n⟩ done = done.toList ++ regroup width n ((spread data).drop pos) := by
  induction n generalizing pos done with
  | zero => simp [collect, regroup]
  | succ n ih =>
    rw [Nat.add_mul, Nat.one_mul] at inside
    rw [collect, next_eq data short (by omega) (by omega)]
    dsimp only
    rw [Nat.add_sub_cancel, ih (by omega), Array.toList_push, regroup, List.drop_drop, List.append_assoc,
      List.singleton_append]

end Unpacker

/-! ## Counting codes -/

/-- The last bits of bytes are those of the last byte. -/
theorem drop_spread {data : Bytes} {k : Nat} (some_byte : data ≠ []) (short : k ≤ 8) :
    (spread data).drop (8 * data.length - k) = lowBits k (data.getLast?.getD 0).toNat := by
  have split := List.dropLast_concat_getLast some_byte
  have last : data.getLast?.getD 0 = data.getLast some_byte := by
    rw [List.getLast?_eq_some_getLast some_byte, Option.getD_some]
  have positive := List.length_pos_iff.mpr some_byte
  have bits : spread data = spread data.dropLast ++
      (lowBits (8 - k) ((data.getLast some_byte).toNat >>> k) ++ lowBits k (data.getLast some_byte).toNat) := by
    rw [← lowBits_add, Nat.sub_add_cancel short]
    conv => lhs; rw [← split]
    rw [spread_append, spread_cons, spread_nil, List.append_nil]
  have front : (spread data.dropLast ++ lowBits (8 - k) ((data.getLast some_byte).toNat >>> k)).length =
      8 * data.length - k := by
    rw [List.length_append, length_spread, length_lowBits, List.length_dropLast]
    omega
  rw [bits, ← List.append_assoc, List.drop_left' front, last]

theorem lowBits_eq_zeros_iff (k n : Nat) : lowBits k n = List.replicate k false ↔ n % 2 ^ k = 0 := by
  constructor
  · intro zeros
    have spelt := value_lowBits k n
    rw [zeros, ← lowBits_zero, value_lowBits, Nat.zero_mod] at spelt
    exact spelt.symm
  · intro divides
    rw [← lowBits_mod (Nat.le_refl k), divides, lowBits_zero]

/-- The number of codes that the size and the flag leave room for. -/
def announced (width : Nat) (data : Bytes) : Nat := (data.length * 8 - 1) / width - (isFlagged data).toNat

/-- What is checked: there is a code, the bytes are as many as a packer writes for so many codes, and
    the padding is clear. -/
theorem countCodes_eq {width : Nat} {data : Bytes} (some_byte : data ≠ []) :
    countCodes width data =
      if announced width data = 0 then .error (.malformed (.noCode data.length width))
      else if packedSize (announced width data) width ≠ data.length then
        .error (.malformed (.surplusBytes data.length (announced width data) width))
      else if (spread data).drop (1 + announced width data * width) ≠
          List.replicate (padding (announced width data) width) false then .error (.malformed .dirtyPadding)
      else .ok (announced width data) := by
  have size : data.length ≠ 0 := by simpa using some_byte
  have count_eq : (if isFlagged data = true then (data.length * 8 - 1) / width - 1
      else (data.length * 8 - 1) / width) = announced width data := by
    cases flag : isFlagged data <;> simp [announced, flag]
  unfold countCodes
  simp only [size, if_false, count_eq]
  generalize announced width data = n
  by_cases none : n = 0
  · rw [if_pos none, if_pos none]
  · rw [if_neg none, if_neg none]
    by_cases fits : packedSize n width = data.length
    · have fills := padding_spec width (Nat.pos_of_ne_zero none)
      rw [fits] at fills
      have rest : data.length * 8 - (1 + n * width) = padding n width := by omega
      have place : 8 * data.length - padding n width = 1 + n * width := by omega
      have last := drop_spread some_byte (Nat.le_of_lt fills.2)
      rw [place] at last
      -- The padding lies in the last byte alone, so its low bits tell all.
      have dirty_iff : (data.getLast?.getD 0).toUInt32 &&& lowMask (padding n width) ≠ 0 ↔
          (spread data).drop (1 + n * width) ≠ List.replicate (padding n width) false := by
        rw [last, ne_eq, ne_eq, lowBits_eq_zeros_iff, ← UInt32.toNat_inj, toNat_and_lowMask _ (by omega),
          UInt8.toNat_toUInt32, UInt32.toNat_zero]
      rw [if_neg (not_not_intro fits), if_neg (not_not_intro fits), rest, Nat.min_eq_left (Nat.le_of_lt fills.2)]
      simp only [dirty_iff]
    · rw [if_pos fits, if_pos fits]

theorem countCodes_ok_iff {width n : Nat} {data : Bytes} (some_byte : data ≠ []) :
    countCodes width data = .ok n ↔ 0 < n ∧ n = announced width data ∧ packedSize n width = data.length ∧
      (spread data).drop (1 + n * width) = List.replicate (padding n width) false := by
  rw [countCodes_eq some_byte]
  constructor
  · intro counted
    split_ifs at counted with none size clean
    cases counted
    exact ⟨Nat.pos_of_ne_zero none, rfl, Decidable.not_not.mp size, Decidable.not_not.mp clean⟩
  · rintro ⟨some_code, rfl, size, clean⟩
    rw [if_neg (Nat.ne_of_gt some_code), if_neg (not_not_intro size), if_neg (not_not_intro clean)]

/-! ## All codes -/

theorem unpack_nil (width : Nat) : unpack width [] = .ok [] := rfl

/-- The codes are the groups of bits behind the flag. -/
theorem unpack_eq {width n : Nat} {data : Bytes} (short : width ≤ 32) (some_byte : data ≠ [])
    (counted : countCodes width data = .ok n) :
    unpack width data = .ok (regroup width n ((spread data).drop 1)) := by
  obtain ⟨some_code, -, size, -⟩ := (countCodes_ok_iff some_byte).mp counted
  have bounds := (packedSize_eq_iff width some_code).mp size
  have inside : 1 + n * width ≤ 8 * data.length := by omega
  have read := Unpacker.collect_eq data short inside #[]
  simpa [unpack, Unpacker.new, counted, Except.map, Unpacker.toList] using read

theorem unpack_ok_iff {width : Nat} {data codes : Bytes} (short : width ≤ 32) (some_byte : data ≠ []) :
    unpack width data = .ok codes ↔
      ∃ n, countCodes width data = .ok n ∧ codes = regroup width n ((spread data).drop 1) := by
  constructor
  · intro read
    cases counted : countCodes width data with
    | error e => simp [unpack, Unpacker.new, counted, Except.map] at read
    | ok n =>
      rw [unpack_eq short some_byte counted] at read
      exact ⟨n, rfl, (Except.ok.inj read).symm⟩
  · rintro ⟨n, counted, rfl⟩
    exact unpack_eq short some_byte counted

end NamePack.Bits
