import Mathlib.Order.Bounds.Basic
import NamePack.Proofs.FailingRuns
import NamePack.Proofs.PackedCodes

/-!
# Runs of an unpacker

Which bytes an unpacker accepts, and what it reads from them call after call. `Filled` says on the flat bit
string which numbers of codes fill bytes; an unpacker announces the greatest of them
(`countCodes_ok_iff_isGreatest`). One call goes from one `stage` to the next, so after any number of calls it
is known what follows and which bytes are looked at (`Unpacker.reads_after_new`).
-/
namespace NamePack.Bits

/-- Bytes that `n` codes fill, with the flag that so many codes have and no bit set behind the last. -/
structure Filled (width : Nat) (data : Bytes) (n : Nat) : Prop where
  some_code : 1 ≤ n
  size_eq : packedSize n width = data.length
  flag_eq : (spread data)[0]? = some (leavesRoom n width)
  clear : ∀ i, 1 + n * width ≤ i → (spread data)[i]? ≠ some true

/-! ## The codes that fill bytes -/

theorem drop_eq_zeros_iff (bits : List Bool) (k : Nat) :
    bits.drop k = List.replicate (bits.length - k) false ↔ ∀ i, k ≤ i → bits[i]? ≠ some true := by
  rw [List.eq_replicate_iff, List.length_drop]
  constructor
  · rintro ⟨-, zeros⟩ i behind set
    have member : true ∈ bits.drop k := by
      rw [List.mem_iff_getElem?]
      exact ⟨i - k, by rw [List.getElem?_drop, Nat.add_sub_cancel' behind, set]⟩
    exact absurd (zeros true member) (by decide)
  · intro clear
    refine ⟨rfl, ?_⟩
    intro b member
    obtain ⟨i, at_i⟩ := List.mem_iff_getElem?.mp member
    rw [List.getElem?_drop] at at_i
    cases b with
    | false => rfl
    | true => exact absurd at_i (clear (k + i) (Nat.le_add_right k i))

section
variable {width n : Nat} {data : Bytes}

theorem Filled.ne_nil (filled : Filled width data n) : data ≠ [] := by
  rintro rfl
  exact absurd filled.size_eq (Nat.ne_of_gt (packedSize_pos width filled.some_code))

theorem Filled.isFlagged_eq (filled : Filled width data n) : isFlagged data = leavesRoom n width := by
  rw [Bits.isFlagged_eq, List.head?_eq_getElem?, filled.flag_eq, Option.getD_some]

/-- No more codes fill bytes than are announced. -/
theorem Filled.le_announced (filled : Filled width data n) (wide : 0 < width) : n ≤ announced width data := by
  have fills := padding_spec width filled.some_code
  rw [filled.size_eq] at fills
  rw [announced, filled.isFlagged_eq]
  cases room : leavesRoom n width with
  | true =>
    have one_more : width ≤ padding n width := (leavesRoom_iff width filled.some_code).mp room
    have fits : n + 1 ≤ (data.length * 8 - 1) / width := by
      rw [Nat.le_div_iff_mul_le wide, Nat.add_mul, Nat.one_mul]
      omega
    rw [Bool.toNat_true]
    omega
  | false =>
    rw [Bool.toNat_false, Nat.sub_zero, Nat.le_div_iff_mul_le wide]
    omega

theorem Filled.countCodes_eq (filled : Filled width data n) (wide : 0 < width) :
    countCodes width data = .ok (announced width data) := by
  have fewer := filled.le_announced wide
  have some_code := filled.some_code
  have bounds := (packedSize_eq_iff width some_code).mp filled.size_eq
  have used : n * width ≤ announced width data * width := Nat.mul_le_mul_right _ fewer
  have room : announced width data * width ≤ data.length * 8 - 1 :=
    Nat.le_trans (Nat.mul_le_mul_right _ (Nat.sub_le ..)) (Nat.div_mul_le_self ..)
  have size : packedSize (announced width data) width = data.length :=
    (packedSize_eq_iff width (by omega)).mpr (by omega)
  have rest : padding (announced width data) width = (spread data).length - (1 + announced width data * width) := by
    rw [padding, size, length_spread]
    omega
  rw [countCodes_ok_iff filled.ne_nil]
  refine ⟨by omega, rfl, size, ?_⟩
  rw [rest, drop_eq_zeros_iff]
  intro i behind
  exact filled.clear i (by omega)

theorem filled_of_countCodes (wide : 0 < width) (some_byte : data ≠ []) (counted : countCodes width data = .ok n) :
    Filled width data n := by
  obtain ⟨some_code, count, size, zeros⟩ := (countCodes_ok_iff some_byte).mp counted
  have rest : padding n width = (spread data).length - (1 + n * width) := by
    rw [padding, size, length_spread]
    omega
  rw [rest, drop_eq_zeros_iff] at zeros
  refine ⟨some_code, size, ?_, zeros⟩
  obtain ⟨b, more, rfl⟩ := List.exists_cons_of_ne_nil some_byte
  rw [← isFlagged_eq_leavesRoom wide some_code count size, isFlagged_eq, spread_cons, lowBits]
  rfl

/-- The number that is announced is the greatest that fills the bytes. -/
theorem countCodes_ok_iff_isGreatest (wide : 0 < width) (some_byte : data ≠ []) :
    countCodes width data = .ok n ↔ IsGreatest {m | Filled width data m} n := by
  constructor
  · intro counted
    refine ⟨filled_of_countCodes wide some_byte counted, ?_⟩
    intro m filled
    rw [((countCodes_ok_iff some_byte).mp counted).2.1]
    exact Filled.le_announced filled wide
  · rintro ⟨filled, most⟩
    have counted := Filled.countCodes_eq filled wide
    have fewer : announced width data ≤ n := most (filled_of_countCodes wide some_byte counted)
    rw [counted, Nat.le_antisymm fewer (Filled.le_announced filled wide)]

end

namespace Unpacker

/-! ## The bytes that are looked at -/

/-- The bytes that are looked at for the `need` bits from bit `pos` on. -/
def touched (pos need : Nat) : List Nat :=
  if need = 0 then []
  else pos / 8 :: touched (pos + min need (8 - pos % 8)) (need - min need (8 - pos % 8))
termination_by need
decreasing_by omega

/-- Bits are read if all bytes that are looked at are there. -/
theorem isSome_readBits_iff (data : Array UInt8) (pos need : Nat) (word : UInt32) :
    (readBits data pos need word).isSome = true ↔ ∀ i ∈ touched pos need, i < data.size := by
  induction need using Nat.strongRecOn generalizing pos word with
  | ind need ih =>
    rw [readBits, touched]
    by_cases done : need = 0
    · simp [done]
    · rw [if_neg done, if_neg done, List.forall_mem_cons]
      by_cases inside : pos / 8 < data.size
      · have at_pos : data[pos / 8]? = some data[pos / 8] := Array.getElem?_eq_getElem inside
        rw [at_pos]
        dsimp only
        rw [ih (need - min need (8 - pos % 8)) (by omega)]
        simp [inside]
      · have behind : data[pos / 8]? = none := Array.getElem?_eq_none (by omega)
        rw [behind]
        simp [inside]

/-! ## Calls -/

/-- The unpacker after `k` calls for the next code. -/
def after (u : Unpacker) (k : Nat) : Unpacker := (fun v => v.next.2)^[k] u

/-- Where an unpacker of `n` codes stands after `k` calls. -/
def stage (width : Nat) (data : Bytes) (n k : Nat) : Unpacker :=
  ⟨data.toArray, width, 1 + min k n * width, n - min k n⟩

section
variable {width n : Nat} {data : Bytes}

theorem new_ok_iff {u : Unpacker} :
    new width data = .ok u ↔ ∃ n, countCodes width data = .ok n ∧ stage width data n 0 = u := by
  have start : ∀ n, stage width data n 0 = ⟨data.toArray, width, 1, n⟩ := by
    intro n
    simp [stage]
  simp only [new, start, map_ok_iff]

/-- The codes that are announced lie within the bytes. -/
theorem group_inside (counted : countCodes width data = .ok n) {k : Nat} (more : k < n) :
    1 + k * width + width ≤ 8 * data.length := by
  by_cases empty : data = []
  · subst empty
    cases counted
    exact absurd more (Nat.not_lt_zero k)
  · obtain ⟨some_code, -, size, -⟩ := (countCodes_ok_iff empty).mp counted
    have bounds := (packedSize_eq_iff width some_code).mp size
    have group : (k + 1) * width ≤ n * width := Nat.mul_le_mul_right _ more
    rw [Nat.succ_mul] at group
    omega

/-- A call reads the group of bits at its place, or nothing once there are no more codes. -/
theorem next_stage (short : width ≤ 32) (counted : countCodes width data = .ok n) (k : Nat) :
    (stage width data n k).next =
      (if k < n then some (value (((spread data).drop (1 + k * width)).take width)).toUInt8 else none,
        stage width data n (k + 1)) := by
  by_cases more : k < n
  · have place : min k n = k := Nat.min_eq_left (Nat.le_of_lt more)
    have place' : min (k + 1) n = k + 1 := Nat.min_eq_left more
    have some_left : 0 < n - k := Nat.sub_pos_of_lt more
    rw [if_pos more, stage, stage, place, place', next_eq data short some_left (group_inside counted more), Nat.add_assoc,
      ← Nat.succ_mul, Nat.sub_sub]
  · have place : min k n = n := Nat.min_eq_right (by omega)
    have place' : min (k + 1) n = n := Nat.min_eq_right (by omega)
    rw [if_neg more, stage, stage, place, place', next, if_pos (Nat.sub_self n)]

/-- Every number of calls leads to its stage. -/
theorem after_stage (short : width ≤ 32) (counted : countCodes width data = .ok n) (k : Nat) :
    (stage width data n 0).after k = stage width data n k := by
  induction k with
  | zero => rfl
  | succ k ih => rw [after, Function.iterate_succ_apply', ← after, ih, next_stage short counted]

/-- A code that is left is read from bytes that are there. -/
theorem lt_of_mem_touched (short : width ≤ 32) (counted : countCodes width data = .ok n) {k : Nat} (more : k < n) :
    ∀ i ∈ touched (1 + k * width) width, i < data.length := by
  obtain ⟨result, read, -⟩ := readBits_eq data 0 (group_inside counted more) short (Nat.two_pow_pos _)
  have found := (isSome_readBits_iff data.toArray (1 + k * width) width 0).mp (by rw [read]; rfl)
  simpa using found

/-- Bytes are accepted if there are none of them or some codes fill them, and as many codes are announced as
    can. The calls that follow read them in order, each the next group of bits behind the flag, and then
    nothing. What is left is told after every call, and no call looks at a byte that is not there. -/
theorem reads_after_new (wide : 1 ≤ width) (narrow : width ≤ 24) :
    ((∃ u, new width data = .ok u) ↔ data = [] ∨ ∃ n, Filled width data n) ∧
    ∀ u, new width data = .ok u →
      (data = [] → u.left = 0) ∧ (data ≠ [] → IsGreatest {n | Filled width data n} u.left) ∧
      ∀ k,
        (u.after k).next.1 =
          (if k < u.left then some (value (((spread data).drop (1 + k * width)).take width)).toUInt8 else none) ∧
        (u.after k).left = u.left - min k u.left ∧
        (u.after k).sizeHint = (u.left - min k u.left, some (u.left - min k u.left)) ∧
        (k < u.left → 1 + k * width + width ≤ 8 * data.length ∧
          ∀ i ∈ touched (u.after k).position (u.after k).width, i < data.length) := by
  have short : width ≤ 32 := by omega
  refine ⟨⟨?_, ?_⟩, ?_⟩
  · rintro ⟨u, accepted⟩
    obtain ⟨n, counted, -⟩ := new_ok_iff.mp accepted
    by_cases empty : data = []
    · exact .inl empty
    · exact .inr ⟨n, filled_of_countCodes wide empty counted⟩
  · rintro (rfl | ⟨n, filled⟩)
    · exact ⟨_, new_ok_iff.mpr ⟨0, rfl, rfl⟩⟩
    · exact ⟨_, new_ok_iff.mpr ⟨_, filled.countCodes_eq wide, rfl⟩⟩
  · intro u accepted
    obtain ⟨n, counted, rfl⟩ := new_ok_iff.mp accepted
    have left_eq : (stage width data n 0).left = n := by simp [stage]
    rw [left_eq]
    refine ⟨?_, ?_, ?_⟩
    · rintro rfl
      exact (Except.ok.inj counted).symm
    · intro some_byte
      exact (countCodes_ok_iff_isGreatest wide some_byte).mp counted
    · intro k
      rw [after_stage short counted, next_stage short counted]
      refine ⟨rfl, rfl, rfl, ?_⟩
      intro more
      refine ⟨group_inside counted more, ?_⟩
      have place : (stage width data n k).position = 1 + k * width := by
        rw [stage, Nat.min_eq_left (Nat.le_of_lt more)]
      rw [place]
      exact lt_of_mem_touched short counted more

/-- A code of twelve bits is read by its lowest eight. A byte that one code of two bits fills, and two as
    well, is read as two. -/
theorem reads_after_new_twelve_bits :
    ((1 ≤ 12 ∧ 12 ≤ 24 ∧ new 12 [0x55, 0xe8] = .ok ⟨#[0x55, 0xe8], 12, 1, 1⟩) ∧
      1 ≤ 2 ∧ 2 ≤ 24 ∧ new 2 [0xe0] = .ok ⟨#[0xe0], 2, 1, 2⟩) ∧
    (after ⟨#[0x55, 0xe8], 12, 1, 1⟩ 0).next.1 = some 0xbd ∧ (after ⟨#[0x55, 0xe8], 12, 1, 1⟩ 1).next.1 = none ∧
    Filled 2 [0xe0] 1 ∧ IsGreatest {n | Filled 2 [0xe0] n} 2 := by
  have twelve : new 12 [0x55, 0xe8] = .ok ⟨#[0x55, 0xe8], 12, 1, 1⟩ := by cbv
  have two : new 2 [0xe0] = .ok ⟨#[0xe0], 2, 1, 2⟩ := by cbv
  obtain ⟨-, -, calls⟩ := (reads_after_new (by decide) (by decide)).2 _ twelve
  obtain ⟨-, greatest, -⟩ := (reads_after_new (by decide) (by decide)).2 _ two
  have one : Filled 2 [0xe0] 1 := by
    refine ⟨by decide, rfl, rfl, ?_⟩
    rw [← drop_eq_zeros_iff]
    rfl
  exact ⟨⟨⟨by decide, by decide, twelve⟩, by decide, by decide, two⟩, (calls 0).1.trans (by decide),
    (calls 1).1.trans (by decide), one, greatest (by decide)⟩

end

end Unpacker
end NamePack.Bits
