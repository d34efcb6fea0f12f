import NamePack.Proofs.Alphabets
import NamePack.Proofs.HexText

/-!
# What is read as hexadecimal text

The outcome of reading any text, told from what is left of it without blanks and marker (`Text.Hex.bare`). An even
number of digits is read as the bytes that write them in lower case; all else is refused, for a character that is
not ASCII, for an odd length or for the first pair that is not of two digits (`Text.Hex.read_bare`).
-/
namespace NamePack.Text.Hex

/-- The characters of a text that are no ASCII blanks. -/
def solid (s : String) : List Char := s.toList.filter (· ∉ [' ', '\t', '\n', '\x0c', '\r'])

/-- The characters of a text that are no ASCII blanks, without one marker at their front. -/
def bare (s : String) : List Char :=
  if ['0', 'x'] <+: solid s ∨ ['0', 'X'] <+: solid s then (solid s).drop 2 else solid s

/-- The digits of either case. -/
def digits : Set Char := Set.Icc '0' '9' ∪ Set.Icc 'a' 'f' ∪ Set.Icc 'A' 'F'

/-- The first of the pairs of characters that are not both digits. -/
def FirstBadPair (cs : List Char) (high low : Char) : Prop :=
  ∃ front back, cs = front ++ high :: low :: back ∧ Even front.length ∧ (∀ c ∈ front, c ∈ digits) ∧
    ¬ (high ∈ digits ∧ low ∈ digits)

/-! ## Blanks and the marker -/

theorem filter_eq_solid (s : String) : s.toList.filter (! isAsciiBlank ·) = solid s := by
  rw [solid]
  congr 1
  funext c
  simp [isAsciiBlank, Bool.and_assoc]

theorem dropMarker_eq (cs : List Char) :
    dropMarker cs = if ['0', 'x'] <+: cs ∨ ['0', 'X'] <+: cs then cs.drop 2 else cs := by
  unfold dropMarker
  split
  · simp
  · simp
  · rename_i no_marker no_marker'
    rw [if_neg]
    rintro (⟨rest, rfl⟩ | ⟨rest, rfl⟩)
    · exact no_marker rest rfl
    · exact no_marker' rest rfl

theorem digitsOf_eq_bare (s : String) : digitsOf s = bare s := by
  rw [digitsOf, filter_eq_solid, dropMarker_eq, bare]

/-! ## Digits -/

theorem ascii_of_mem_digits {c : Char} (digit : c ∈ digits) : c.toNat < 128 := by
  have bound : c ≤ 'f' := by
    rcases digit with (⟨-, last⟩ | ⟨-, last⟩) | ⟨-, last⟩
    · exact last.trans (by decide)
    · exact last
    · exact last.trans (by decide)
  have value : c.toNat ≤ 'f'.toNat := bound
  exact Nat.lt_of_le_of_lt value (by decide)

theorem digit?_eq_none_iff (c : Char) : digit? c = none ↔ c ∉ digits := by
  unfold digit?
  split_ifs with decimal lower upper
  · simp [digits, decimal]
  · simp [digits, lower]
  · simp [digits, upper]
  · simp only [digits, Set.mem_union, Set.mem_Icc, true_iff]
    tauto

/-- A digit has a value below 16, which is written as the digit in lower case. -/
theorem digit?_of_mem {c : Char} (digit : c ∈ digits) :
    ∃ n < 16, digit? c = some n ∧ Nat.digitChar n = c.toLower := by
  have table : ∀ n ∈ digit? c, n < 16 ∧ Nat.digitChar n = c.toLower := by
    have ascii := ascii_of_mem_digits digit
    apply forall_ascii (P := fun c => ∀ n ∈ digit? c, n < 16 ∧ Nat.digitChar n = c.toLower) _ ascii
    decide +kernel
  obtain ⟨n, value⟩ := Option.ne_none_iff_exists'.mp (mt (digit?_eq_none_iff c).mp (not_not.mpr digit))
  obtain ⟨small, written⟩ := table n value
  exact ⟨n, small, value, written⟩

theorem byteDigits_pair {h l : Nat} (high : h < 16) (low : l < 16) :
    byteDigits (16 * h + l).toUInt8 = [Nat.digitChar h, Nat.digitChar l] := by
  have value : (16 * h + l).toUInt8.toNat = 16 * h + l := by
    rw [Nat.toUInt8_eq, UInt8.toNat_ofNat']
    omega
  have first : (16 * h + l) / 16 = h := by omega
  have second : (16 * h + l) % 16 = l := by omega
  rw [byteDigits, value, first, second]

/-! ## Pairs -/

/-- Pairs of digits are read as the bytes that write them in lower case. -/
theorem readPairs_append (done : Array UInt8) (rest : List Char) :
    ∀ front : List Char, Even front.length → (∀ c ∈ front, c ∈ digits) →
      ∃ bytes : Bytes, bytes.flatMap byteDigits = front.map Char.toLower ∧
        readPairs done (front ++ rest) = readPairs (done ++ bytes.toArray) rest
  | [], _, _ => ⟨[], rfl, by simp⟩
  | [_], even_one, _ => absurd even_one (by simp)
  -- Two characters at a time, as the reader takes them.
  | high :: low :: front, even, all => by
    simp only [List.forall_mem_cons] at all
    obtain ⟨digit_high, digit_low, later⟩ := all
    obtain ⟨h, small_h, value_h, written_h⟩ := digit?_of_mem digit_high
    obtain ⟨l, small_l, value_l, written_l⟩ := digit?_of_mem digit_low
    have even_front : Even front.length := by
      simpa [Nat.even_add_one] using even
    obtain ⟨bytes, written, read⟩ := readPairs_append (done.push (16 * h + l).toUInt8) rest front even_front later
    refine ⟨(16 * h + l).toUInt8 :: bytes, ?_, ?_⟩
    · rw [List.flatMap_cons, byteDigits_pair small_h small_l, written_h, written_l, written]
      rfl
    · simp only [List.cons_append, readPairs, value_h, value_l, read]
      congr 1
      simp

theorem readPairs_firstBadPair {cs : List Char} {high low : Char} (first : FirstBadPair cs high low) :
    readPairs #[] cs = .error (.badPair high low) := by
  obtain ⟨front, back, rfl, even, before, bad⟩ := first
  obtain ⟨bytes, -, read⟩ := readPairs_append #[] (high :: low :: back) front even before
  rw [read, readPairs]
  rw [not_and_or, ← digit?_eq_none_iff, ← digit?_eq_none_iff] at bad
  rcases bad with none_high | none_low
  · simp [none_high]
  · simp [none_low]

theorem exists_firstBadPair : ∀ cs : List Char, Even cs.length → (∃ c ∈ cs, c ∉ digits) →
    ∃ high low, FirstBadPair cs high low
  | [], _, bad => absurd bad (by simp)
  | [_], even_one, _ => absurd even_one (by simp)
  | high :: low :: rest, even, bad => by
    by_cases pair : high ∈ digits ∧ low ∈ digits
    · have even_rest : Even rest.length := by simpa [Nat.even_add_one] using even
      have bad_rest : ∃ c ∈ rest, c ∉ digits := by simpa [pair.1, pair.2] using bad
      obtain ⟨high', low', front, back, rfl, even_front, before, first⟩ := exists_firstBadPair rest even_rest bad_rest
      refine ⟨high', low', high :: low :: front, back, rfl, ?_, ?_, first⟩
      · simpa [Nat.even_add_one] using even_front
      · simp only [List.forall_mem_cons]
        exact ⟨pair.1, pair.2, before⟩
    · exact ⟨high, low, [], rest, rfl, by simp, by simp, pair⟩

/-! ## Texts -/

theorem read_eq (s : String) :
    read s = if ∃ c ∈ bare s, 128 ≤ c.toNat then .error (.notAscii (String.ofList (bare s)))
      else if Odd (bare s).length then .error (.oddLength (String.ofList (bare s))) else readPairs #[] (bare s) := by
  simp only [read, digitsOf_eq_bare, List.any_eq_true, decide_eq_true_eq, Nat.odd_iff]

section
variable {s : String}

theorem read_of_foreign (foreign : ∃ c ∈ bare s, 128 ≤ c.toNat) :
    read s = .error (.notAscii (String.ofList (bare s))) := by
  rw [read_eq, if_pos foreign]

theorem read_of_odd (ascii : ∀ c ∈ bare s, c.toNat < 128) (odd : Odd (bare s).length) :
    read s = .error (.oddLength (String.ofList (bare s))) := by
  rw [read_eq, if_neg (by simpa using ascii), if_pos odd]

theorem read_of_even (ascii : ∀ c ∈ bare s, c.toNat < 128) (even : Even (bare s).length) :
    read s = readPairs #[] (bare s) := by
  rw [read_eq, if_neg (by simpa using ascii), if_neg (Nat.not_odd_iff_even.mpr even)]

theorem exists_badPair (ascii : ∀ c ∈ bare s, c.toNat < 128) (even : Even (bare s).length)
    (bad : ∃ c ∈ bare s, c ∉ digits) :
    ∃ high low, FirstBadPair (bare s) high low ∧ read s = .error (.badPair high low) := by
  obtain ⟨high, low, first⟩ := exists_firstBadPair _ even bad
  refine ⟨high, low, first, ?_⟩
  rw [read_of_even ascii even, readPairs_firstBadPair first]

theorem exists_bytes (even : Even (bare s).length) (all : ∀ c ∈ bare s, c ∈ digits) :
    ∃ bytes, read s = .ok bytes ∧ (write bytes).toList = (bare s).map Char.toLower := by
  have ascii : ∀ c ∈ bare s, c.toNat < 128 := fun c member => ascii_of_mem_digits (all c member)
  obtain ⟨bytes, written, pairs⟩ := readPairs_append #[] [] (bare s) even all
  rw [List.append_nil] at pairs
  refine ⟨bytes, ?_, ?_⟩
  · rw [read_of_even ascii even, pairs]
    simp [readPairs]
  · rw [write, String.toList_ofList, written]

/-- What is read has none of the faults. -/
theorem digits_of_read {bytes : Bytes} (accepted : read s = .ok bytes) :
    Even (bare s).length ∧ ∀ c ∈ bare s, c ∈ digits := by
  by_cases ascii : ∀ c ∈ bare s, c.toNat < 128
  · rcases Nat.even_or_odd (bare s).length with even | odd
    · refine ⟨even, ?_⟩
      intro c member
      by_contra bad
      obtain ⟨high, low, -, refused⟩ := exists_badPair ascii even ⟨c, member, bad⟩
      cases accepted.symm.trans refused
    · cases accepted.symm.trans (read_of_odd ascii odd)
  · have foreign : ∃ c ∈ bare s, 128 ≤ c.toNat := by simpa using ascii
    cases accepted.symm.trans (read_of_foreign foreign)

/-- A text of which the digits of some bytes are left is read as these bytes. -/
theorem read_of_solid {bytes : Bytes}
    (left : solid s = (write bytes).toList ∨ solid s = '0' :: 'x' :: (write bytes).toList ∨
      solid s = '0' :: 'X' :: (write bytes).toList) : read s = .ok bytes := by
  apply read_of_digitsOf
  rw [digitsOf, filter_eq_solid]
  simp only [write, String.toList_ofList] at left
  rcases left with plain | marked | marked
  · rw [plain, dropMarker_digits]
  · rw [marked, dropMarker]
  · rw [marked, dropMarker]

end

theorem solid_write (bytes : Bytes) : solid (write bytes) = (write bytes).toList := by
  rw [← filter_eq_solid, write, String.toList_ofList, filter_digits]

/-- A text is read exactly if an even number of digits is left of it, and the bytes are those that are written as
    these digits in lower case. Else the fault is the first that applies of a character that is not ASCII, an odd
    length, and a pair that is not of two digits, of which the first is named. So whatever is written is read back,
    with blanks anywhere and with a marker or without. -/
theorem read_bare (s : String) :
    ((∃ bytes, read s = .ok bytes) ↔ Even (bare s).length ∧ ∀ c ∈ bare s, c ∈ digits) ∧
    (∀ bytes, read s = .ok bytes → (write bytes).toList = (bare s).map Char.toLower) ∧
    ((∃ c ∈ bare s, 128 ≤ c.toNat) → read s = .error (.notAscii (String.ofList (bare s)))) ∧
    ((∀ c ∈ bare s, c.toNat < 128) → Odd (bare s).length → read s = .error (.oddLength (String.ofList (bare s)))) ∧
    ((∀ c ∈ bare s, c.toNat < 128) → Even (bare s).length → (∃ c ∈ bare s, c ∉ digits) →
      ∃ high low, FirstBadPair (bare s) high low ∧ read s = .error (.badPair high low)) ∧
    ∀ bytes, read (write bytes) = .ok bytes ∧
      (solid s = (write bytes).toList ∨ solid s = '0' :: 'x' :: (write bytes).toList ∨
        solid s = '0' :: 'X' :: (write bytes).toList → read s = .ok bytes) := by
  refine ⟨⟨?_, ?_⟩, ?_, read_of_foreign, read_of_odd, exists_badPair, ?_⟩
  · rintro ⟨bytes, accepted⟩
    exact digits_of_read accepted
  · rintro ⟨even, all⟩
    obtain ⟨bytes, accepted, -⟩ := exists_bytes even all
    exact ⟨bytes, accepted⟩
  · intro bytes accepted
    obtain ⟨even, all⟩ := digits_of_read accepted
    obtain ⟨bytes', accepted', written⟩ := exists_bytes even all
    obtain rfl := Except.ok.inj (accepted.symm.trans accepted')
    exact written
  · intro bytes
    exact ⟨read_of_solid (.inl (solid_write bytes)), read_of_solid⟩

/-- Capitals, blanks and a marker are read past. A character that is not ASCII, an odd length and the first of two
    bad pairs are blamed. -/
theorem read_bare_mixed :
    (read "0X 0a\tFf\n" = .ok [0x0a, 0xff] ∧ (∃ c ∈ bare "1é", 128 ≤ c.toNat) ∧
      ((∀ c ∈ bare "12 3", c.toNat < 128) ∧ Odd (bare "12 3").length) ∧
      ((∀ c ∈ bare "12 g3 zz", c.toNat < 128) ∧ Even (bare "12 g3 zz").length ∧ ∃ c ∈ bare "12 g3 zz", c ∉ digits) ∧
      solid "0 x0 a" = '0' :: 'x' :: (write [0x0a]).toList) ∧
    (write [0x0a, 0xff]).toList = ['0', 'a', 'f', 'f'] ∧
    read "1é" = .error (.notAscii "1é") ∧ read "12 3" = .error (.oddLength "123") ∧
    (∃ high low, FirstBadPair (bare "12 g3 zz") high low ∧ read "12 g3 zz" = .error (.badPair high low)) ∧
    read "0 x0 a" = .ok [0x0a] := by
  have accepted : read "0X 0a\tFf\n" = .ok [0x0a, 0xff] := by decide
  have left_odd : bare "12 3" = ['1', '2', '3'] := by decide
  have left_even : bare "12 g3 zz" = ['1', '2', 'g', '3', 'z', 'z'] := by decide
  have foreign : ∃ c ∈ bare "1é", 128 ≤ c.toNat := ⟨'é', by decide, by decide⟩
  have ascii_odd : ∀ c ∈ bare "12 3", c.toNat < 128 := by simp [left_odd]
  have odd : Odd (bare "12 3").length := by decide
  have ascii_even : ∀ c ∈ bare "12 g3 zz", c.toNat < 128 := by simp [left_even]
  have even : Even (bare "12 g3 zz").length := by decide
  have bad : ∃ c ∈ bare "12 g3 zz", c ∉ digits := ⟨'g', by decide, (digit?_eq_none_iff 'g').mp (by decide)⟩
  have marked : solid "0 x0 a" = '0' :: 'x' :: (write [0x0a]).toList := by decide
  refine ⟨⟨accepted, foreign, ⟨ascii_odd, odd⟩, ⟨ascii_even, even, bad⟩, marked⟩, ?_, ?_, ?_, ?_, ?_⟩
  · exact ((read_bare _).2.1 _ accepted).trans (by decide)
  · exact (read_bare _).2.2.1 foreign
  · exact (read_bare _).2.2.2.1 ascii_odd odd
  · exact (read_bare _).2.2.2.2.1 ascii_even even bad
  · exact ((read_bare _).2.2.2.2.2 _).2 (.inr (.inl marked))

end NamePack.Text.Hex
