import Mathlib.Order.Bounds.Basic
import NamePack.Proofs.Lengths

/-!
# Lengths at the limit of 64 bits

The codec of lengths on all numbers below 2^64 and all bytes (`Length.codec_exact`). Behind bytes that all announce
another, the reader holds their exact worth as long as there is room for one more group, and it stops at the first byte
for which there is none (`readAfter_overflow`). So a group is shifted in only where no bit is lost.
-/
namespace NamePack.Length

/-- Behind bytes with top bits that leave no room, one more byte is too many. -/
theorem readAfter_overflow {front : Bytes} (above : ∀ b ∈ front, 128 ≤ b.toNat) (value : UInt64) (used : Nat)
    (full : 2 ^ 57 ≤ worth value.toNat front) (last : UInt8) (rest : Bytes) :
    readAfter value used (front ++ last :: rest) = .error (.malformed .lengthOverflow) := by
  induction front generalizing value used with
  | nil => exact readAfter_full used rest full last
  | cons b more ih =>
    obtain ⟨high, above⟩ := List.forall_mem_cons.mp above
    by_cases full_before : 2 ^ 57 ≤ value.toNat
    · exact readAfter_full used _ full_before b
    · have room_before : value.toNat < 2 ^ 57 := Nat.lt_of_not_le full_before
      rw [List.cons_append, readAfter_more used _ room_before high]
      apply ih above
      rwa [toNat_next room_before]

theorem isLeast_groupCount (n : UInt64) : IsLeast {k | 1 ≤ k ∧ n.toNat < 128 ^ k} (groupCount n) := by
  constructor
  · exact ⟨groupCount_pos n, (groupCount_le_iff (groupCount_pos n)).mp (Nat.le_refl _)⟩
  · rintro k ⟨some_group, holds⟩
    exact (groupCount_le_iff some_group).mpr holds

/-- The bytes that are read are those before the first without a top bit, and that one. -/
theorem read_ok_iff_front (data : Bytes) (n : UInt64) (k : Nat) :
    read data = .ok (n, k) ↔
      ∃ front last rest, data = front ++ last :: rest ∧ (∀ b ∈ front, 128 ≤ b.toNat) ∧ last.toNat < 128 ∧
        k = front.length + 1 ∧ worth 0 (front ++ [last]) = n.toNat := by
  simp only [read_ok_iff, grouped_iff]
  constructor
  · rintro ⟨_, rest, rfl, ⟨front, last, rfl, above, low⟩, exact_worth, rfl⟩
    exact ⟨front, last, rest, by simp, above, low, by simp, exact_worth.symm⟩
  · rintro ⟨front, last, rest, rfl, above, low, rfl, exact_worth⟩
    exact ⟨front ++ [last], rest, by simp, ⟨front, last, rfl, above, low⟩, exact_worth.symm, by simp⟩

/-- Every number below 2^64 is written in the fewest groups of seven bits, ten at most, and read back from them
    whatever follows. Reading accepts the groups of every number below 2^64, however many of them are zeros at the
    front, as exactly that number; all else is malformed. No group is shifted in where a bit would be lost: the
    value that is held before a byte is the exact worth of the bytes before it, or the byte is refused. -/
theorem codec_exact :
    (∀ (n : UInt64) (rest : Bytes),
      (write n).length = groupCount n ∧ IsLeast {k | 1 ≤ k ∧ n.toNat < 128 ^ k} (groupCount n) ∧
      groupCount n ≤ 10 ∧ read (write n ++ rest) = .ok (n, groupCount n)) ∧
    (∀ (data : Bytes) (n : UInt64) (k : Nat),
      (read data = .ok (n, k) ↔
        ∃ front last rest, data = front ++ last :: rest ∧ (∀ b ∈ front, 128 ≤ b.toNat) ∧ last.toNat < 128 ∧
          k = front.length + 1 ∧ worth 0 (front ++ [last]) = n.toNat) ∧
      (read data = .ok (n, k) → groupCount n ≤ k)) ∧
    (∀ data : Bytes, (∃ n k, read data = .ok (n, k)) ∨
      read data = .error (.malformed .truncatedLength) ∨ read data = .error (.malformed .lengthOverflow)) ∧
    ∀ (front : Bytes) (b : UInt8) (rest : Bytes), (∀ c ∈ front, 128 ≤ c.toNat) →
      (worth 0 front * 128 < 2 ^ 64 → ∃ held : UInt64, held.toNat = worth 0 front ∧
        read (front ++ b :: rest) = readAfter held front.length (b :: rest) ∧
        ¬ lastShiftable < held ∧ (held <<< 7).toNat = held.toNat * 128) ∧
      (2 ^ 64 ≤ worth 0 front * 128 → read (front ++ b :: rest) = .error (.malformed .lengthOverflow)) := by
  refine ⟨?_, ?_, ?_, ?_⟩
  · intro n rest
    exact ⟨length_write n, isLeast_groupCount n, groupCount_le n, read_write n rest⟩
  · intro data n k
    refine ⟨read_ok_iff_front data n k, ?_⟩
    intro accepted
    obtain ⟨groups, rest, -, grouped, exact_worth, rfl⟩ := (read_ok_iff data n k).mp accepted
    exact (grouped.eq_zeros_append_write exact_worth.symm).1
  · intro data
    cases outcome : read data with
    | ok result => exact .inl ⟨result.1, result.2, rfl⟩
    | error e =>
      rcases readAfter_error outcome with rfl | rfl
      · exact .inr (.inl rfl)
      · exact .inr (.inr rfl)
  · intro front b rest above
    refine ⟨?_, ?_⟩
    · intro room
      have held_room : worth 0 front < 2 ^ 57 := by omega
      obtain ⟨held, exact_worth, read_on⟩ := readAfter_front above 0 0 held_room (b :: rest)
      rw [Nat.zero_add] at read_on
      have shiftable : ¬ lastShiftable < held := by
        rw [lastShiftable_lt_iff, exact_worth]
        exact Nat.not_le_of_lt held_room
      exact ⟨held, exact_worth, read_on, shiftable, (toNat_shift_eq_iff held).mpr shiftable⟩
    · intro full
      have held_full : 2 ^ 57 ≤ worth 0 front := by omega
      exact readAfter_overflow above 0 0 held_full b rest

/-- Nine groups of all ones leave just enough room for a tenth, and the number after them leaves none. -/
theorem codec_exact_ten_groups :
    (read [0x80, 0x82, 0x00] = .ok (256, 3) ∧ (∀ c ∈ 0x81 :: List.replicate 8 0xff, 128 ≤ UInt8.toNat c) ∧
      worth 0 (0x81 :: List.replicate 8 0xff) * 128 < 2 ^ 64 ∧
      (∀ c ∈ 0x82 :: List.replicate 8 0x80, 128 ≤ UInt8.toNat c) ∧
      2 ^ 64 ≤ worth 0 (0x82 :: List.replicate 8 0x80) * 128) ∧
    groupCount 256 ≤ 3 ∧
    (∃ held : UInt64, held.toNat = 2 ^ 57 - 1 ∧
      read (0x81 :: List.replicate 8 0xff ++ [0x7f]) = readAfter held 9 [0x7f] ∧
      (held <<< 7).toNat = held.toNat * 128) ∧
    read (0x82 :: List.replicate 8 0x80 ++ [0x00]) = .error (.malformed .lengthOverflow) := by
  have padded : read [0x80, 0x82, 0x00] = .ok (256, 3) := by decide
  have above : ∀ c ∈ 0x81 :: List.replicate 8 0xff, 128 ≤ UInt8.toNat c := by simp
  have room : worth 0 (0x81 :: List.replicate 8 0xff) * 128 < 2 ^ 64 := by decide
  have above_full : ∀ c ∈ 0x82 :: List.replicate 8 0x80, 128 ≤ UInt8.toNat c := by simp
  have full : 2 ^ 64 ≤ worth 0 (0x82 :: List.replicate 8 0x80) * 128 := by decide
  obtain ⟨-, accepts, -, steps⟩ := codec_exact
  refine ⟨⟨padded, above, room, above_full, full⟩, (accepts _ _ _).2 padded, ?_, ?_⟩
  · obtain ⟨held, exact_worth, read_on, -, kept⟩ := (steps _ 0x7f [] above).1 room
    exact ⟨held, exact_worth.trans (by decide), read_on, kept⟩
  · exact (steps _ 0x00 [] above_full).2 full

end NamePack.Length
