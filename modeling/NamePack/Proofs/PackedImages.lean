import Mathlib.Tactic.IntervalCases
import NamePack.Proofs.PackedCodes

/-!
# Bytes that are packed codes

Which bytes packing can write, and for which codes. `Laid` says it on the flat bit string, without packer
or unpacker. Unpacking accepts exactly these bytes (`unpack_iff_pack`). From four bits on they stand for
one list of codes; codes of fewer bits may share their bytes with codes that have more zeros at the end
(`pack_injOn_iff`).
-/
namespace NamePack.Bits

/-- Codes laid out in bytes: none in no byte, others behind a flag and before zeros that fill the last
    byte. The flag is set where the zeros could hold one more code. -/
inductive Laid (width : Nat) : Bytes → Bytes → Prop
  | none : Laid width [] []
  | some {codes data : Bytes} {flag : Bool} {zeros : Nat} (some_code : codes ≠ [])
      (bits : spread data = flag :: (codeBits width codes ++ List.replicate zeros false))
      (no_surplus : zeros < 8) (flag_iff : flag = true ↔ width ≤ zeros) : Laid width codes data

/-- Codes with the zeros that are read behind them. -/
def padded (width : Nat) (codes : Bytes) : Bytes := codes ++ List.replicate (surplus codes.length width) 0

/-! ## The layout -/

/-- Packing writes the layout and nothing else is laid out so. -/
theorem laid_iff_pack {width : Nat} (narrow : width ≤ 8) (codes data : Bytes) :
    Laid width codes data ↔ pack width codes = data := by
  constructor
  · intro laid
    cases laid with
    | none => rfl
    | @some _ _ flag zeros some_code bits no_surplus flag_iff =>
      have count := List.length_pos_iff.mpr some_code
      have size := congrArg List.length bits
      simp only [length_spread, List.length_cons, List.length_append, length_codeBits, List.length_replicate] at size
      have bytes : packedSize codes.length width = data.length := (packedSize_eq_iff width count).mpr (by omega)
      have fills := padding_spec width count
      have rest : padding codes.length width = zeros := by omega
      have same_flag : leavesRoom codes.length width = flag := by
        rw [Bool.eq_iff_iff, leavesRoom_iff width count, rest, flag_iff]
      apply spread_injective
      rw [spread_pack narrow count, rest, same_flag, bits]
  · rintro rfl
    by_cases empty : codes = []
    · subst empty
      exact .none
    · have count := List.length_pos_iff.mpr empty
      exact .some empty (spread_pack narrow count) (padding_spec width count).2 (leavesRoom_iff width count)

theorem lt_of_unpack {width : Nat} {data codes : Bytes} (narrow : width ≤ 8)
    (read : unpack width data = .ok codes) : ∀ c ∈ codes, c.toNat < 2 ^ width := by
  by_cases empty : data = []
  · subst empty
    rw [unpack_nil] at read
    cases read
    simp
  · obtain ⟨n, -, rfl⟩ := (unpack_ok_iff (by omega) empty).mp read
    exact regroup_lt width n _

/-- From four bits on, what is read is what is laid out. -/
theorem unpack_ok_iff_laid {width : Nat} (wide : 4 ≤ width) (narrow : width ≤ 8) (data codes : Bytes) :
    unpack width data = .ok codes ↔ Laid width codes data ∧ ∀ c ∈ codes, c.toNat < 2 ^ width := by
  rw [laid_iff_pack narrow]
  constructor
  · intro read
    exact ⟨pack_of_unpack (by omega) narrow read, lt_of_unpack narrow read⟩
  · rintro ⟨rfl, small⟩
    exact unpack_pack_of_lt wide narrow small

/-! ## Accepted bytes -/

/-- Bytes are unpacked exactly if some codes pack to them, and then into such codes. -/
theorem unpack_iff_pack {width : Nat} (wide : 1 ≤ width) (narrow : width ≤ 8) (data : Bytes) :
    (∀ codes, unpack width data = .ok codes → (∀ c ∈ codes, c.toNat < 2 ^ width) ∧ pack width codes = data) ∧
    ((∃ e, unpack width data = .error e) ↔ ∀ codes, pack width codes ≠ data) := by
  constructor
  · intro codes read
    exact ⟨lt_of_unpack narrow read, pack_of_unpack wide narrow read⟩
  · constructor
    · rintro ⟨e, refused⟩ codes rfl
      rw [unpack_pack wide narrow] at refused
      cases refused
    · intro unwritten
      cases read : unpack width data with
      | error e => exact ⟨e, rfl⟩
      | ok codes => exact absurd (pack_of_unpack wide narrow read) (unwritten codes)

/-- A flagged byte holds a code of three bits but none of five. -/
theorem unpack_iff_pack_flag :
    (1 ≤ 3 ∧ 3 ≤ 8 ∧ 1 ≤ 5 ∧ 5 ≤ 8 ∧ unpack 3 [0xd0] = .ok [5]) ∧
    pack 3 [5] = [0xd0] ∧ ∀ codes, pack 5 codes ≠ [0x80] := by
  have accepted : unpack 3 [0xd0] = .ok [5] := by cbv
  have refused : unpack 5 [0x80] = .error (.malformed (.noCode 1 5)) := by cbv
  refine ⟨by simp [accepted], ?_, ?_⟩
  · exact ((unpack_iff_pack (by decide) (by decide) [0xd0]).1 [5] accepted).2
  · exact (unpack_iff_pack (by decide) (by decide) [0x80]).2.mp ⟨_, refused⟩

/-! ## Codes that share their bytes -/

theorem unpack_pack_padded {width : Nat} (wide : 0 < width) (narrow : width ≤ 8) {codes : Bytes}
    (small : ∀ c ∈ codes, c.toNat < 2 ^ width) : unpack width (pack width codes) = .ok (padded width codes) := by
  rw [unpack_pack wide narrow, map_masked_of_lt small, padded]

theorem padded_of_wide {width : Nat} (wide : 4 ≤ width) (codes : Bytes) : padded width codes = codes := by
  rw [padded, surplus_eq_zero wide, List.replicate_zero, List.append_nil]

/-- Codes share their bytes exactly if they differ in zeros that are read from the padding. -/
theorem pack_eq_iff {width : Nat} (wide : 0 < width) (narrow : width ≤ 8) {xs ys : Bytes}
    (small : ∀ c ∈ xs, c.toNat < 2 ^ width) (small' : ∀ c ∈ ys, c.toNat < 2 ^ width) :
    pack width xs = pack width ys ↔ padded width xs = padded width ys := by
  have read := unpack_pack_padded wide narrow small
  have read' := unpack_pack_padded wide narrow small'
  constructor
  · intro same
    rw [same, read'] at read
    exact (Except.ok.inj read).symm
  · intro same
    rw [same] at read
    rw [← pack_of_unpack wide narrow read, pack_of_unpack wide narrow read']

/-- Below four bits a code and a zero behind it share their bytes where the padding holds two. -/
theorem not_injOn_pack {width : Nat} (wide : 1 ≤ width) (small : width < 4) :
    ¬ Set.InjOn (pack width) {codes | ∀ c ∈ codes, c.toNat < 2 ^ width} := by
  have zeros : ∀ n, ∀ c ∈ List.replicate n (0 : UInt8), c.toNat < 2 ^ width := by
    intro n c member
    rw [List.eq_of_mem_replicate member]
    exact Nat.two_pow_pos width
  -- One code leaves room for two more in its byte; of three bits, three codes do so in two bytes.
  have shared : ∃ n, padded width (List.replicate n 0) = padded width (List.replicate (n + 1) 0) := by
    interval_cases width
    · exact ⟨1, by decide⟩
    · exact ⟨1, by decide⟩
    · exact ⟨3, by decide⟩
  obtain ⟨n, same⟩ := shared
  intro injective
  have equal := injective (zeros n) (zeros (n + 1))
    ((pack_eq_iff wide (by omega) (zeros n) (zeros (n + 1))).mpr same)
  have lengths := congrArg List.length equal
  simp at lengths

/-- Packed bytes tell codes apart from four bits on, and at no smaller width. What they always tell is
    the codes with the zeros that are read behind them. -/
theorem pack_injOn_iff {width : Nat} (wide : 1 ≤ width) (narrow : width ≤ 8) :
    (Set.InjOn (pack width) {codes | ∀ c ∈ codes, c.toNat < 2 ^ width} ↔ 4 ≤ width) ∧
    ∀ xs ys : Bytes, (∀ c ∈ xs, c.toNat < 2 ^ width) → (∀ c ∈ ys, c.toNat < 2 ^ width) →
      (pack width xs = pack width ys ↔
        xs ++ List.replicate (surplus xs.length width) 0 = ys ++ List.replicate (surplus ys.length width) 0) := by
  refine ⟨⟨?_, ?_⟩, fun xs ys small small' => pack_eq_iff wide narrow small small'⟩
  · intro injective
    by_contra few
    exact not_injOn_pack wide (Nat.lt_of_not_le few) injective
  · intro four xs small ys small' same
    rw [pack_eq_iff wide narrow small small', padded_of_wide four, padded_of_wide four] at same
    exact same

/-- Five bits are enough and two are not. -/
theorem pack_injOn_five_bits : (1 ≤ 5 ∧ 5 ≤ 8 ∧ 1 ≤ 2 ∧ 2 ≤ 8) ∧
    Set.InjOn (pack 5) {codes | ∀ c ∈ codes, c.toNat < 2 ^ 5} ∧
    ¬ Set.InjOn (pack 2) {codes | ∀ c ∈ codes, c.toNat < 2 ^ 2} := by
  refine ⟨by decide, (pack_injOn_iff (by decide) (by decide)).1.mpr (by decide), fun injective => ?_⟩
  have four := (pack_injOn_iff (by decide) (by decide)).1.mp injective
  omega

/-- A code of two bits has the same byte with a zero behind it. -/
theorem pack_two_bits_shared :
    (∀ c ∈ ([3] : Bytes), c.toNat < 2 ^ 2) ∧ (∀ c ∈ ([3, 0] : Bytes), c.toNat < 2 ^ 2) ∧
    pack 2 [3] = [0xe0] ∧ pack 2 [3, 0] = [0xe0] ∧ ([3] : Bytes) ≠ [3, 0] := by
  refine ⟨by simp, by simp, ?_, ?_, by simp⟩
  · cbv
  · cbv

end NamePack.Bits
