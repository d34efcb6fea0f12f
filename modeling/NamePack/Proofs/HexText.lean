import Mathlib.Data.List.Basic
import Mathlib.Tactic.IntervalCases
import Mathlib.Tactic.SplitIfs
import NamePack.Text.Hex

/-!
# Hexadecimal text read back

The digits that are written are neither blanks nor a marker, so bytes written on any number of lines are read
back from all of the text (`Text.Hex.read_lines`). No text that is read begins with a dash.
-/
namespace NamePack.Text.Hex

/-! ## Digits -/

theorem digit?_digitChar {n : Nat} (small : n < 16) : digit? (Nat.digitChar n) = some n := by
  interval_cases n <;> decide

/-- A digit is an ASCII character, no blank and no part of a marker. -/
theorem plain_digitChar {n : Nat} (small : n < 16) :
    isAsciiBlank (Nat.digitChar n) = false ∧ Nat.digitChar n ≠ 'x' ∧ Nat.digitChar n ≠ 'X' ∧
      (Nat.digitChar n).toNat < 0x80 := by
  interval_cases n <;> decide

theorem exists_digit_of_mem {bytes : Bytes} {c : Char} (member : c ∈ bytes.flatMap byteDigits) :
    ∃ n < 16, c = Nat.digitChar n := by
  obtain ⟨b, -, digit⟩ := List.mem_flatMap.mp member
  have bound := b.toNat_lt
  rcases List.mem_pair.mp digit with rfl | rfl
  · exact ⟨b.toNat / 16, by omega, rfl⟩
  · exact ⟨b.toNat % 16, by omega, rfl⟩

theorem length_digits (bytes : Bytes) : (bytes.flatMap byteDigits).length = 2 * bytes.length := by
  induction bytes with
  | nil => rfl
  | cons b rest ih =>
    rw [List.flatMap_cons, List.length_append, ih, List.length_cons]
    simp [byteDigits]
    omega

theorem filter_digits (bytes : Bytes) :
    (bytes.flatMap byteDigits).filter (! isAsciiBlank ·) = bytes.flatMap byteDigits := by
  rw [List.filter_eq_self]
  intro c member
  obtain ⟨n, small, rfl⟩ := exists_digit_of_mem member
  simp [(plain_digitChar small).1]

theorem dropMarker_digits (bytes : Bytes) : dropMarker (bytes.flatMap byteDigits) = bytes.flatMap byteDigits := by
  cases bytes with
  | nil => rfl
  | cons b rest =>
    obtain ⟨-, no_marker, no_marker', -⟩ := plain_digitChar (Nat.mod_lt b.toNat (by decide : 0 < 16))
    simp only [List.flatMap_cons, byteDigits, List.cons_append, List.nil_append]
    unfold dropMarker
    split <;> simp_all

/-! ## Reading what was written -/

theorem readPairs_digits (done : Array UInt8) (bytes : Bytes) :
    readPairs done (bytes.flatMap byteDigits) = .ok (done.toList ++ bytes) := by
  induction bytes generalizing done with
  | nil => simp [readPairs]
  | cons b rest ih =>
    have bound := b.toNat_lt
    have high := digit?_digitChar (show b.toNat / 16 < 16 by omega)
    have low := digit?_digitChar (show b.toNat % 16 < 16 by omega)
    have whole : (16 * (b.toNat / 16) + b.toNat % 16).toUInt8 = b := by
      rw [Nat.div_add_mod, Nat.toUInt8_eq, UInt8.ofNat_toNat]
    have two : (b :: rest).flatMap byteDigits =
        Nat.digitChar (b.toNat / 16) :: Nat.digitChar (b.toNat % 16) :: rest.flatMap byteDigits := rfl
    simp only [two, readPairs, high, low, whole, ih]
    simp

/-- A text is read as the bytes whose digits are left of it once blanks and marker are gone. -/
theorem read_of_digitsOf {s : String} {bytes : Bytes} (digits : digitsOf s = bytes.flatMap byteDigits) :
    read s = .ok bytes := by
  have ascii : (bytes.flatMap byteDigits).any (0x80 ≤ ·.toNat) = false := by
    rw [List.any_eq_false]
    intro c member
    obtain ⟨n, small, rfl⟩ := exists_digit_of_mem member
    have bound := (plain_digitChar small).2.2.2
    simpa using bound
  have even : ¬ (bytes.flatMap byteDigits).length % 2 = 1 := by
    rw [length_digits]
    omega
  simp only [read, digits, ascii, even, Bool.false_eq_true, if_false]
  rw [readPairs_digits]
  rfl

theorem read_of_filter {s : String} {bytes : Bytes}
    (left : s.toList.filter (! isAsciiBlank ·) = bytes.flatMap byteDigits) : read s = .ok bytes := by
  apply read_of_digitsOf
  rw [digitsOf, left, dropMarker_digits]

/-- Hexadecimal text is never taken for an option. -/
theorem head?_ne_dash {s : String} {bytes : Bytes} (accepted : read s = .ok bytes) : s.toList.head? ≠ some '-' := by
  intro dash
  obtain ⟨rest, chars⟩ := List.head?_eq_some_iff.mp dash
  have digits : digitsOf s = '-' :: rest.filter (! isAsciiBlank ·) := by
    simp [digitsOf, chars, isAsciiBlank, dropMarker]
  have no_digit : digit? '-' = none := by decide
  simp only [read, digits] at accepted
  -- A dash is no digit, and alone it is an odd number of them.
  split_ifs at accepted with foreign odd
  cases left : rest.filter (! isAsciiBlank ·) with
  | nil => simp [left] at odd
  | cons low more => simp [left, readPairs, no_digit] at accepted

/-- Bytes written on lines of their own are read as one. -/
theorem read_lines (bss : List Bytes) :
    read (String.join (bss.map fun bytes => write bytes ++ "\n")) = .ok bss.flatten := by
  apply read_of_filter
  have lines : (String.join (bss.map fun bytes => write bytes ++ "\n")).toList =
      bss.flatMap fun bytes => bytes.flatMap byteDigits ++ ['\n'] := by
    simp [String.toList_join, write, List.flatMap_map]
  rw [lines, List.filter_flatMap, List.flatten_eq_flatMap, List.flatMap_assoc]
  congr 1
  funext bytes
  have feed : ['\n'].filter (! isAsciiBlank ·) = [] := by decide
  rw [List.filter_append, filter_digits, feed, List.append_nil]
  rfl

end NamePack.Text.Hex
