import NamePack.Bits.Packer
import NamePack.Proofs.BitString

/-!
# What a packer writes

The packer against the flat bit string it stands for. `Holds` is what every push keeps: the full bytes
and the word together spell the flag bit and the codes. `finish` fills the last byte with zeros and
sets the flag, so `pack` writes exactly the documented layout (`spread_pack`).
-/
namespace NamePack.Bits

/-- The bits of codes one after another. -/
def codeBits (width : Nat) (codes : Bytes) : List Bool := codes.flatMap fun c => lowBits width c.toNat

/-- The number of bits after the last of `count` codes. -/
def padding (count width : Nat) : Nat := packedSize count width * 8 - 1 - count * width

/-! ## Sizes -/

theorem length_codeBits (width : Nat) (codes : Bytes) : (codeBits width codes).length = codes.length * width := by
  induction codes with
  | nil => simp [codeBits]
  | cons c rest ih =>
    simp only [codeBits, List.flatMap_cons, List.length_append, length_lowBits, List.length_cons] at ih ⊢
    rw [ih, Nat.add_mul, Nat.one_mul, Nat.add_comm]

theorem codeBits_append (width : Nat) (xs ys : Bytes) :
    codeBits width (xs ++ ys) = codeBits width xs ++ codeBits width ys := List.flatMap_append

theorem packedSize_zero (width : Nat) : packedSize 0 width = 0 := rfl

/-- The packed size is the fewest bytes that hold the flag and the codes. -/
theorem packedSize_eq_iff (width : Nat) {count size : Nat} (some_code : 0 < count) :
    packedSize count width = size ↔ 1 + count * width ≤ size * 8 ∧ size * 8 < 1 + count * width + 8 := by
  rw [packedSize, if_neg (by omega)]
  omega

theorem packedSize_pos (width : Nat) {count : Nat} (some_code : 0 < count) : 0 < packedSize count width := by
  have bounds := (packedSize_eq_iff width some_code).mp rfl
  omega

/-- Flag, codes and padding fill the bytes. -/
theorem padding_spec (width : Nat) {count : Nat} (some_code : 0 < count) :
    1 + count * width + padding count width = packedSize count width * 8 ∧ padding count width < 8 := by
  have bounds := (packedSize_eq_iff width some_code).mp rfl
  rw [padding]
  omega

theorem leavesRoom_iff (width : Nat) {count : Nat} (some_code : 0 < count) :
    leavesRoom count width = true ↔ width ≤ padding count width := by
  have some_byte : packedSize count width ≠ 0 := Nat.ne_of_gt (packedSize_pos width some_code)
  simp [leavesRoom, padding, some_byte]

/-! ## The flag -/

theorem isFlagged_eq (data : Bytes) : isFlagged data = (spread data).head?.getD false := by
  cases data with
  | nil => rfl
  | cons b rest =>
    have highest : (b &&& flagBit != 0) = b.toNat.testBit 7 := by
      apply forall_byte (P := fun b => (b &&& flagBit != 0) = b.toNat.testBit 7)
      decide +kernel
    simp [isFlagged, spread_cons, lowBits, highest]

theorem spread_setFlag {data : Bytes} (some_byte : data ≠ []) : spread (setFlag data) = true :: (spread data).tail := by
  obtain ⟨b, rest, rfl⟩ := List.exists_cons_of_ne_nil some_byte
  have first : lowBits 8 (b ||| flagBit).toNat = true :: lowBits 7 b.toNat := by
    apply forall_byte (P := fun b => lowBits 8 (b ||| flagBit).toNat = true :: lowBits 7 b.toNat)
    decide +kernel
  rw [setFlag, spread_cons, spread_cons, first, lowBits]
  rfl

theorem length_setFlag (data : Bytes) : (setFlag data).length = data.length := by
  cases data <;> rfl

namespace Packer

/-! ## Pushing -/

/-- The bits that a packer holds. -/
def bits (p : Packer) : List Bool := spread p.full.toList ++ lowBits p.held p.word.toNat

/-- A packer between two pushes holds the flag bit, still clear, and the codes so far. -/
structure Holds (p : Packer) (width : Nat) (codes : Bytes) : Prop where
  width_eq : p.width = width
  count_eq : p.count = codes.length
  held_lt : p.held < 8
  word_lt : p.word.toNat < 2 ^ p.held
  bits_eq : p.bits = false :: codeBits width codes

theorem flush_spec (word : UInt32) (full : Array UInt8) (n : Nat) (small : n < 32) :
    (flush word full n).2 < 8 ∧
      spread (flush word full n).1.toList ++ lowBits (flush word full n).2 word.toNat =
        spread full.toList ++ lowBits n word.toNat := by
  induction n using Nat.strongRecOn generalizing full with
  | ind n ih =>
    rw [flush]
    by_cases more : 8 ≤ n
    · obtain ⟨settled, same⟩ := ih (n - 8) (by omega) (full.push (word >>> (n - 8).toUInt32).toUInt8) (by omega)
      have moved : lowBits n word.toNat =
          lowBits 8 (word >>> (n - 8).toUInt32).toUInt8.toNat ++ lowBits (n - 8) word.toNat := by
        rw [UInt32.toNat_toUInt8, lowBits_mod (Nat.le_refl 8), toNat_shiftRight (by omega), ← lowBits_add,
          Nat.add_sub_cancel' more]
      rw [if_pos more]
      refine ⟨settled, ?_⟩
      rw [same, moved, Array.toList_push, spread_append, List.append_assoc]
      simp [spread]
    · rw [if_neg more]
      exact ⟨by omega, rfl⟩

theorem holds_new (width : Nat) : (new width).Holds width [] := by
  refine ⟨rfl, rfl, by simp [new], by simp [new], ?_⟩
  simp [new, bits, spread, codeBits, lowBits]

/-- No bit is lost from the word when a code is put behind its bits. -/
theorem toNat_longer {word : UInt32} {n width : Nat} (below : n < 8) (small : word.toNat < 2 ^ n) (narrow : width ≤ 8)
    (code : UInt8) : ((word <<< width.toUInt32) ||| (code.toUInt32 &&& lowMask width)).toNat =
      word.toNat * 2 ^ width + code.toNat % 2 ^ width := by
  have masked : (code.toUInt32 &&& lowMask width).toNat = code.toNat % 2 ^ width := by
    rw [toNat_and_lowMask _ (by omega), UInt8.toNat_toUInt32]
  have masked_lt := Nat.mod_lt code.toNat (Nat.two_pow_pos width)
  have room : word.toNat < 2 ^ (32 - width) :=
    Nat.lt_of_lt_of_le small (Nat.pow_le_pow_right (by decide) (by omega))
  rw [toNat_shiftLeft_or (by omega) room (masked ▸ masked_lt), masked]

/-- A push puts the lowest bits of a code behind the bits so far. -/
theorem Holds.push {p : Packer} {width : Nat} {codes : Bytes} (held : p.Holds width codes) (narrow : width ≤ 8)
    (code : UInt8) : (p.push code).Holds width (codes ++ [code]) := by
  obtain ⟨pwidth, full, word, n, count⟩ := p
  obtain ⟨rfl, counted, below, small, spelt⟩ := held
  dsimp only at counted below small narrow ⊢
  have masked_lt := Nat.mod_lt code.toNat (Nat.two_pow_pos pwidth)
  have longer := toNat_longer below small narrow code
  obtain ⟨settled, same⟩ := flush_spec ((word <<< pwidth.toUInt32) ||| (code.toUInt32 &&& lowMask pwidth)) full
    (n + pwidth) (by omega)
  -- The bits of the whole bytes that were flushed are still in the word until it is masked.
  have kept := toNat_and_lowMask ((word <<< pwidth.toUInt32) ||| (code.toUInt32 &&& lowMask pwidth))
    (Nat.lt_trans settled (by decide))
  refine ⟨rfl, by simp [Packer.push, counted], settled, ?_, ?_⟩
  · exact kept ▸ Nat.mod_lt _ (Nat.two_pow_pos _)
  · have before : spread full.toList ++ lowBits n word.toNat = false :: codeBits pwidth codes := spelt
    have after : spread full.toList ++ lowBits (n + pwidth) (word.toNat * 2 ^ pwidth + code.toNat % 2 ^ pwidth) =
        false :: codeBits pwidth (codes ++ [code]) := by
      rw [lowBits_mul_add n pwidth word.toNat masked_lt, lowBits_mod (Nat.le_refl pwidth), ← List.append_assoc,
        before, codeBits_append]
      simp [codeBits]
    rw [← after, ← longer, ← same, bits, Packer.push]
    exact congrArg _ ((congrArg _ kept).trans (lowBits_mod (Nat.le_refl _) _))

/-- A run of pushes. -/
theorem Holds.foldl_push {p : Packer} {width : Nat} {before : Bytes} (held : p.Holds width before)
    (narrow : width ≤ 8) (codes : Bytes) : (codes.foldl Packer.push p).Holds width (before ++ codes) := by
  induction codes generalizing p before with
  | nil => simpa using held
  | cons c rest ih => simpa using ih (held.push narrow c)

theorem holds_foldl (width : Nat) (narrow : width ≤ 8) (codes : Bytes) :
    (codes.foldl Packer.push (new width)).Holds width codes := (holds_new width).foldl_push narrow codes

theorem Holds.size_eq {p : Packer} {width : Nat} {codes : Bytes} (held : p.Holds width codes) :
    8 * p.full.size + p.held = 1 + codes.length * width := by
  have lengths := congrArg List.length held.bits_eq
  rw [bits, List.length_append, length_spread, length_lowBits, List.length_cons, length_codeBits] at lengths
  simpa [Nat.add_comm 1] using lengths

/-! ## Finishing -/

/-- The bytes of a packer with the last one filled up, the flag still clear. -/
def filled (p : Packer) : Bytes :=
  (if 0 < p.held then p.full.push (p.word <<< (8 - p.held).toUInt32).toUInt8 else p.full).toList

theorem finish_eq {p : Packer} (some_code : p.count ≠ 0) :
    p.finish = if leavesRoom p.count p.width then setFlag p.filled else p.filled := by
  rw [finish, if_neg some_code]
  rfl

theorem Holds.spread_filled {p : Packer} {width : Nat} {codes : Bytes} (held : p.Holds width codes) :
    spread p.filled = p.bits ++ List.replicate ((8 - p.held) % 8) false := by
  have below := held.held_lt
  by_cases some_bit : 0 < p.held
  · have room : p.word.toNat < 2 ^ (32 - (8 - p.held)) :=
      Nat.lt_of_lt_of_le held.word_lt (Nat.pow_le_pow_right (by decide) (by omega))
    have last : lowBits 8 (p.word <<< (8 - p.held).toUInt32).toUInt8.toNat =
        lowBits p.held p.word.toNat ++ List.replicate (8 - p.held) false := by
      have whole : 8 = p.held + (8 - p.held) := by omega
      have split := lowBits_mul_add p.held (8 - p.held) p.word.toNat (Nat.two_pow_pos _)
      rw [UInt32.toNat_toUInt8, lowBits_mod (Nat.le_refl 8), toNat_shiftLeft (by omega) room]
      rw [← whole, Nat.add_zero, lowBits_zero] at split
      exact split
    have rest : (8 - p.held) % 8 = 8 - p.held := Nat.mod_eq_of_lt (by omega)
    rw [filled, if_pos some_bit, Array.toList_push, spread_append, spread_cons, spread_nil, List.append_nil, last,
      rest, bits, List.append_assoc]
  · have none_held : p.held = 0 := by omega
    simp [filled, bits, none_held, lowBits]

/-- The finished bytes: flag, codes and padding. -/
theorem Holds.finish {p : Packer} {width : Nat} {codes : Bytes} (held : p.Holds width codes)
    (some_code : 0 < codes.length) :
    p.finish.length = packedSize codes.length width ∧
      spread p.finish = leavesRoom codes.length width ::
        (codeBits width codes ++ List.replicate (padding codes.length width) false) := by
  have spelt := held.spread_filled
  rw [held.bits_eq] at spelt
  have size := congrArg List.length spelt
  simp only [length_spread, List.length_append, List.length_cons, length_codeBits, List.length_replicate] at size
  -- The padding is less than a byte, so the number of bytes is the one that the count needs.
  have bytes : packedSize codes.length width = p.filled.length := (packedSize_eq_iff width some_code).mpr (by omega)
  have rest : padding codes.length width = (8 - p.held) % 8 := by
    have fills := padding_spec width some_code
    omega
  have some_byte : p.filled ≠ [] := by
    intro empty
    have positive := packedSize_pos width some_code
    simp [bytes, empty] at positive
  have counted : p.count ≠ 0 := by rw [held.count_eq]; omega
  rw [finish_eq counted, held.count_eq, held.width_eq, bytes, rest]
  cases leavesRoom codes.length width with
  | true => simp [length_setFlag, spread_setFlag some_byte, spelt]
  | false => simp [spelt]

/-! ## Runs of pushes -/

/-- After any run of pushes, with memory set aside or not, a packer holds the flag bit and the codes in the
    order of the pushes, and its word has room for the next code. Finishing it there writes the layout:
    nothing for no code, else the flag, the codes and zeros to the end of the fewest bytes. -/
theorem finish_after_pushes {width capacity : Nat} (narrow : width ≤ 8) {codes : Bytes} {p : Packer}
    (run : codes.foldl push (withCapacity width capacity) = p) :
    p.Holds width codes ∧
    8 * p.full.size + p.held = 1 + codes.length * width ∧
    (∀ code : UInt8, ((p.word <<< width.toUInt32) ||| (code.toUInt32 &&& lowMask width)).toNat =
      p.word.toNat * 2 ^ width + code.toNat % 2 ^ width) ∧
    (codes = [] → p.finish = []) ∧
    (codes ≠ [] → ∃ size zeros, 1 + codes.length * width ≤ 8 * size ∧ 8 * size < 1 + codes.length * width + 8 ∧
      zeros = 8 * size - 1 - codes.length * width ∧ p.finish.length = size ∧
      spread p.finish =
        decide (width ≤ zeros) :: (codes.flatMap (fun c => lowBits width c.toNat) ++ List.replicate zeros false)) ∧
    p.finish = pack width codes := by
  have held : p.Holds width codes := run ▸ holds_foldl width narrow codes
  refine ⟨held, held.size_eq, ?_, ?_, ?_, ?_⟩
  · intro code
    exact toNat_longer held.held_lt held.word_lt narrow code
  · intro no_code
    have count : p.count = 0 := by rw [held.count_eq, no_code, List.length_nil]
    rw [finish, if_pos count]
  · intro some_code
    have count := List.length_pos_iff.mpr some_code
    obtain ⟨size, spelt⟩ := held.finish count
    have flag : leavesRoom codes.length width = decide (width ≤ padding codes.length width) := by
      rw [Bool.eq_iff_iff, leavesRoom_iff width count, decide_eq_true_iff]
    rw [flag] at spelt
    have bounds := (packedSize_eq_iff width count).mp rfl
    refine ⟨packedSize codes.length width, padding codes.length width, ?_, ?_, ?_, size, spelt⟩
    · omega
    · omega
    · rw [padding, Nat.mul_comm]
  · rw [← run, withCapacity_eq, pack, withCapacity_eq]

/-- Two codes of five bits, of which the first has a sixth, leave room for another. -/
theorem finish_after_pushes_two :
    (5 ≤ 8 ∧ [33, 2].foldl push (withCapacity 5 9) = ⟨5, #[0x04], 2, 3, 2⟩) ∧
    Holds ⟨5, #[0x04], 2, 3, 2⟩ 5 [33, 2] ∧ finish ⟨5, #[0x04], 2, 3, 2⟩ = pack 5 [33, 2] ∧
    pack 5 [33, 2] = [0x84, 0x40] := by
  have run : [33, 2].foldl push (withCapacity 5 9) = ⟨5, #[0x04], 2, 3, 2⟩ := by cbv
  obtain ⟨held, -, -, -, -, packed⟩ := finish_after_pushes (by decide) run
  exact ⟨⟨by decide, run⟩, held, packed, by cbv⟩

end Packer

/-! ## Packed codes -/

theorem pack_nil (width : Nat) : pack width [] = [] := rfl

theorem length_pack {width : Nat} (narrow : width ≤ 8) (codes : Bytes) :
    (pack width codes).length = packedSize codes.length width := by
  by_cases empty : codes = []
  · subst empty
    rfl
  · exact ((Packer.holds_foldl width narrow codes).finish (List.length_pos_iff.mpr empty)).1

/-- Packed codes are the flag, the codes and zeros. -/
theorem spread_pack {width : Nat} (narrow : width ≤ 8) {codes : Bytes} (some_code : 0 < codes.length) :
    spread (pack width codes) = leavesRoom codes.length width ::
      (codeBits width codes ++ List.replicate (padding codes.length width) false) :=
  ((Packer.holds_foldl width narrow codes).finish some_code).2

theorem pack_ne_nil {width : Nat} (narrow : width ≤ 8) {codes : Bytes} (some_code : 0 < codes.length) :
    pack width codes ≠ [] := by
  intro empty
  have size := length_pack narrow codes
  have positive := packedSize_pos width some_code
  simp only [empty, List.length_nil] at size
  omega

end NamePack.Bits
