import NamePack.Proofs.Unpacking

/-!
# Packed codes read back

Packer and unpacker against each other. Unpacking gives back the codes that were packed, up to the
zeros that a padding of two codes and more is read as (`unpack_pack_eq`); from four bits a code on
there are none. Bytes that unpack are those that packing their codes writes (`pack_of_unpack`).
-/
namespace NamePack.Bits

/-- The number of zeros that are read from the padding behind `count` codes. -/
def surplus (count width : Nat) : Nat := padding count width / width - 1

/-! ## What unpacking packed codes gives -/

theorem surplus_eq_zero {count width : Nat} (wide : 4 ≤ width) : surplus count width = 0 := by
  by_cases some_code : 0 < count
  · have fills := padding_spec width some_code
    have quotient : padding count width / width < 2 := (Nat.div_lt_iff_lt_mul (by omega)).mpr (by omega)
    rw [surplus]
    omega
  · have none : count = 0 := by omega
    simp [surplus, padding, none, packedSize_zero]

theorem announced_pack {width : Nat} (wide : 0 < width) (narrow : width ≤ 8) {codes : Bytes}
    (some_code : 0 < codes.length) :
    announced width (pack width codes) = codes.length + surplus codes.length width := by
  have fills := padding_spec width some_code
  have room : (packedSize codes.length width * 8 - 1) / width =
      codes.length + padding codes.length width / width := by
    have sum : packedSize codes.length width * 8 - 1 = padding codes.length width + codes.length * width := by omega
    rw [sum, Nat.add_mul_div_right _ _ wide, Nat.add_comm]
  have flag : isFlagged (pack width codes) = leavesRoom codes.length width := by
    simp [isFlagged_eq, spread_pack narrow some_code]
  rw [announced, length_pack narrow, room, flag, surplus]
  -- The flag takes off one of the codes that fit into the padding, if any fits.
  cases full : leavesRoom codes.length width with
  | true =>
    have fits := (leavesRoom_iff width some_code).mp full
    have positive := Nat.div_pos fits wide
    simp only [Bool.toNat_true]
    omega
  | false =>
    have short : ¬ width ≤ padding codes.length width := by simp [← leavesRoom_iff width some_code, full]
    simp [Nat.div_eq_of_lt (Nat.lt_of_not_le short)]

/-- The zeros read from the padding are bits of the padding. -/
theorem surplus_mul_le (count width : Nat) : surplus count width * width ≤ padding count width :=
  Nat.le_trans (Nat.mul_le_mul_right _ (Nat.sub_le ..)) (Nat.div_mul_le_self ..)

/-- The bits of packed codes, read as codes followed by zeros. -/
theorem spread_pack_surplus {width : Nat} (narrow : width ≤ 8) {codes : Bytes} (some_code : 0 < codes.length) :
    spread (pack width codes) = leavesRoom codes.length width ::
      (codeBits width (codes ++ List.replicate (surplus codes.length width) 0) ++
        List.replicate (padding codes.length width - surplus codes.length width * width) false) := by
  have zeros : codeBits width (List.replicate (surplus codes.length width) 0) =
      List.replicate (surplus codes.length width * width) false := by
    simp [codeBits, List.flatMap_replicate, lowBits_zero]
  have inside := surplus_mul_le codes.length width
  rw [spread_pack narrow some_code, codeBits_append, zeros, List.append_assoc, List.replicate_append_replicate,
    Nat.add_sub_cancel' inside]

theorem countCodes_pack {width : Nat} (wide : 0 < width) (narrow : width ≤ 8) {codes : Bytes}
    (some_code : 0 < codes.length) :
    countCodes width (pack width codes) = .ok (codes.length + surplus codes.length width) := by
  have fills := padding_spec width some_code
  have inside := surplus_mul_le codes.length width
  have total : (codes.length + surplus codes.length width) * width =
      codes.length * width + surplus codes.length width * width := Nat.add_mul ..
  have size : packedSize (codes.length + surplus codes.length width) width = packedSize codes.length width :=
    (packedSize_eq_iff width (by omega)).mpr (by omega)
  have rest : padding (codes.length + surplus codes.length width) width =
      padding codes.length width - surplus codes.length width * width := by
    rw [padding, size, total]
    omega
  have front : (leavesRoom codes.length width ::
      codeBits width (codes ++ List.replicate (surplus codes.length width) 0)).length =
      1 + (codes.length + surplus codes.length width) * width := by
    simp [length_codeBits, Nat.add_comm]
  rw [countCodes_ok_iff (pack_ne_nil narrow some_code)]
  refine ⟨by omega, (announced_pack wide narrow some_code).symm, ?_, ?_⟩
  · rw [size, length_pack narrow]
  · rw [spread_pack_surplus narrow some_code, rest, ← List.cons_append, List.drop_left' front]

/-- Unpacking gives the codes without the bits above their width, and zeros for the rest of the padding. -/
theorem unpack_pack {width : Nat} (wide : 0 < width) (narrow : width ≤ 8) (codes : Bytes) :
    unpack width (pack width codes) =
      .ok (codes.map (masked width) ++ List.replicate (surplus codes.length width) 0) := by
  by_cases empty : codes = []
  · subst empty
    simp [pack_nil, unpack_nil, surplus, padding, packedSize_zero]
  · have some_code := List.length_pos_iff.mpr empty
    have zero : masked width 0 = 0 := masked_of_lt (Nat.two_pow_pos width)
    have groups := regroup_codeBits width (codes ++ List.replicate (surplus codes.length width) 0)
      (List.replicate (padding codes.length width - surplus codes.length width * width) false)
    rw [List.length_append, List.length_replicate] at groups
    rw [unpack_eq (by omega) (pack_ne_nil narrow some_code) (countCodes_pack wide narrow some_code),
      spread_pack_surplus narrow some_code, List.drop_one, List.tail_cons, groups]
    simp [zero]

/-- From four bits a code on the padding is never read as codes. -/
theorem unpack_pack_wide {width : Nat} (wide : 4 ≤ width) (narrow : width ≤ 8) (codes : Bytes) :
    unpack width (pack width codes) = .ok (codes.map (masked width)) := by
  rw [unpack_pack (by omega) narrow, surplus_eq_zero wide, List.replicate_zero, List.append_nil]

theorem unpack_pack_of_lt {width : Nat} (wide : 4 ≤ width) (narrow : width ≤ 8) {codes : Bytes}
    (small : ∀ c ∈ codes, c.toNat < 2 ^ width) : unpack width (pack width codes) = .ok codes := by
  rw [unpack_pack_wide wide narrow, map_masked_of_lt small]

/-- Packed codes are given back, cut to their width. Where the padding leaves room for two codes and
    more, zeros follow, one for each code but one; where codes have at least four bits, none do. -/
theorem unpack_pack_eq (width : Nat) (wide : 1 ≤ width) (narrow : width ≤ 8) (codes : Bytes) :
    (codes = [] → unpack width (pack width codes) = .ok []) ∧
      (codes ≠ [] → unpack width (pack width codes) = .ok (codes.map (masked width) ++
        List.replicate ((8 * packedSize codes.length width - 1 - codes.length * width) / width - 1) 0)) ∧
      (4 ≤ width → unpack width (pack width codes) = .ok (codes.map (masked width))) := by
  refine ⟨?_, ?_, fun four => unpack_pack_wide four narrow codes⟩
  · rintro rfl
    rw [pack_nil, unpack_nil]
  · intro some_code
    have read := unpack_pack wide narrow codes
    rw [surplus, padding, Nat.mul_comm (packedSize codes.length width)] at read
    exact read

/-- One code of two bits leaves five bits of padding, which read as one more code. -/
theorem unpack_pack_two_bits : (1 ≤ 2 ∧ 2 ≤ 8 ∧ [7] ≠ ([] : Bytes) ∧ 4 ≤ 5 ∧ 5 ≤ 8) ∧
    unpack 2 (pack 2 []) = .ok [] ∧ unpack 2 (pack 2 [7]) = .ok [3, 0] ∧ unpack 5 (pack 5 [33]) = .ok [1] := by
  refine ⟨by decide, (unpack_pack_eq 2 (by decide) (by decide) []).1 rfl, ?_, ?_⟩
  · have read := (unpack_pack_eq 2 (by decide) (by decide) [7]).2.1 (by decide)
    rw [read]
    rfl
  · have read := (unpack_pack_eq 5 (by decide) (by decide) [33]).2.2 (by decide)
    rw [read]
    rfl

/-! ## What unpacks is packed -/

theorem isFlagged_eq_leavesRoom {width n : Nat} {data : Bytes} (wide : 0 < width) (some_code : 0 < n)
    (count : n = announced width data) (size : packedSize n width = data.length) :
    isFlagged data = leavesRoom n width := by
  have fills := padding_spec width some_code
  rw [size] at fills
  have room := Nat.div_add_mod (data.length * 8 - 1) width
  have rest := Nat.mod_lt (data.length * 8 - 1) wide
  rw [announced] at count
  cases flag : isFlagged data with
  | true =>
    rw [flag, Bool.toNat_true] at count
    have next : (data.length * 8 - 1) / width = n + 1 := by omega
    rw [next, Nat.mul_add, Nat.mul_comm, Nat.mul_one] at room
    exact ((leavesRoom_iff width some_code).mpr (by omega)).symm
  | false =>
    rw [flag, Bool.toNat_false, Nat.sub_zero] at count
    rw [← count, Nat.mul_comm] at room
    have short : ¬ leavesRoom n width = true := by
      rw [leavesRoom_iff width some_code]
      omega
    simpa using short

/-- Bytes that unpack are what packing their codes writes. -/
theorem pack_of_unpack {width : Nat} (wide : 0 < width) (narrow : width ≤ 8) {data codes : Bytes}
    (read : unpack width data = .ok codes) : pack width codes = data := by
  by_cases empty : data = []
  · subst empty
    rw [unpack_nil] at read
    cases read
    rfl
  · obtain ⟨n, counted, rfl⟩ := (unpack_ok_iff (by omega) empty).mp read
    obtain ⟨some_code, count, size, clear⟩ := (countCodes_ok_iff empty).mp counted
    have bounds := (packedSize_eq_iff width some_code).mp size
    have flag := isFlagged_eq_leavesRoom wide some_code count size
    have length := length_regroup width n ((spread data).drop 1)
    have enough : n * width ≤ ((spread data).drop 1).length := by
      rw [List.length_drop, length_spread]
      omega
    have first : spread data = isFlagged data :: (spread data).drop 1 := by
      obtain ⟨b, rest, rfl⟩ := List.exists_cons_of_ne_nil empty
      rw [isFlagged_eq, spread_cons, lowBits]
      rfl
    -- What is not among the codes was found clear when they were counted.
    have tail : (spread data).drop 1 = ((spread data).drop 1).take (n * width) ++
        List.replicate (padding n width) false := by
      rw [← clear, ← List.drop_drop, List.take_append_drop]
    apply spread_injective
    rw [spread_pack narrow (by rw [length]; exact some_code), length, codeBits_regroup narrow enough, ← tail, ← flag]
    exact first.symm

end NamePack.Bits
