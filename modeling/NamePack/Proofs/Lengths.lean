import Mathlib.Tactic.Ring
import Mathlib.Tactic.SplitIfs
import NamePack.Frame.Length
import NamePack.Proofs.BitString

/-!
# Lengths read and written

The groups of a length against the number they stand for in base 128 (`worth`). Reading takes the bytes up to the
first without its top bit and gives their exact worth, where it is below 2^64 (`read_ok_iff`); until then the reader
holds the worth of the bytes before (`readAfter_front`), and bytes that end before are truncated (`read_take`).
Writing takes the fewest bytes (`groupCount_le_iff`), and reading them gives the number back (`read_write`). All other
groups of a number are these behind groups of zero (`Grouped.eq_zeros_append_write`).
-/
namespace NamePack.Length

/-- The number that groups stand for behind those of `front`, the highest first. -/
def worth (front : Nat) (bytes : Bytes) : Nat := bytes.foldl (fun v b => v * 128 + b.toNat % 128) front

/-- Bytes of which the last alone has no top bit. -/
inductive Grouped : Bytes → Prop
  | last {b : UInt8} (low : b.toNat < 128) : Grouped [b]
  | more {b : UInt8} {rest : Bytes} (high : 128 ≤ b.toNat) (grouped : Grouped rest) : Grouped (b :: rest)

/-! ## Worth -/

theorem worth_nil (v : Nat) : worth v [] = v := rfl

theorem worth_cons (v : Nat) (b : UInt8) (rest : Bytes) :
    worth v (b :: rest) = worth (v * 128 + b.toNat % 128) rest := rfl

theorem worth_append (v : Nat) (xs ys : Bytes) : worth v (xs ++ ys) = worth (worth v xs) ys := List.foldl_append

theorem le_worth (v : Nat) (bytes : Bytes) : v ≤ worth v bytes := by
  induction bytes generalizing v with
  | nil => exact Nat.le_refl v
  | cons b rest ih =>
    have more := ih (v * 128 + b.toNat % 128)
    rw [worth_cons]
    omega

/-! ## Groups in a byte -/

theorem toNat_and_group (b : UInt8) : (b &&& 0x7f).toNat = b.toNat % 128 := by
  rw [UInt8.toNat_and]
  exact Nat.and_two_pow_sub_one_eq_mod b.toNat 7

theorem and_top_eq_zero_iff (b : UInt8) : b &&& 0x80 = 0 ↔ b.toNat < 128 := by
  revert b
  apply Bits.forall_byte (P := fun b => b &&& 0x80 = 0 ↔ b.toNat < 128)
  decide +kernel

theorem toNat_or_top {b : UInt8} (low : b.toNat < 128) : (b ||| 0x80).toNat = b.toNat + 128 := by
  rw [UInt8.toNat_or, Nat.or_comm]
  have sum := Nat.two_pow_add_eq_or_of_lt (i := 7) low 1
  simp at sum
  simpa [Nat.add_comm] using sum.symm

theorem lastShiftable_lt_iff (value : UInt64) : lastShiftable < value ↔ 2 ^ 57 ≤ value.toNat := by
  rw [UInt64.lt_iff_toNat_lt]
  have last : lastShiftable.toNat = 2 ^ 57 - 1 := by decide
  omega

/-- Only a value that has room keeps all its bits when a group is shifted in. -/
theorem toNat_shift_eq_iff (value : UInt64) :
    (value <<< 7).toNat = value.toNat * 128 ↔ ¬ lastShiftable < value := by
  have amount : (7 : UInt64).toNat % 64 = 7 := by decide
  rw [lastShiftable_lt_iff, UInt64.toNat_shiftLeft, amount, Nat.shiftLeft_eq]
  omega

/-- A value with room for a group takes it. -/
theorem toNat_next {value : UInt64} {b : UInt8} (room : value.toNat < 2 ^ 57) :
    ((value <<< 7) ||| (b &&& 0x7f).toUInt64).toNat = value.toNat * 128 + b.toNat % 128 := by
  have group : (b &&& 0x7f).toUInt64.toNat = b.toNat % 128 := by rw [UInt8.toNat_toUInt64, toNat_and_group]
  have below : b.toNat % 128 < 2 ^ 7 := Nat.mod_lt _ (by decide)
  have shiftable : ¬ lastShiftable < value := by rwa [lastShiftable_lt_iff, Nat.not_le]
  have shifted : (value <<< 7).toNat = 2 ^ 7 * value.toNat := by
    have kept := (toNat_shift_eq_iff value).mpr shiftable
    omega
  rw [UInt64.toNat_or, shifted, group, ← Nat.two_pow_add_eq_or_of_lt below, Nat.mul_comm]

/-! ## Reading -/

theorem grouped_cons_iff (b : UInt8) (rest : Bytes) :
    Grouped (b :: rest) ↔ if b.toNat < 128 then rest = [] else Grouped rest := by
  constructor
  · intro grouped
    cases grouped with
    | last low => rw [if_pos low]
    | more high grouped => rwa [if_neg (by omega)]
  · intro more
    split_ifs at more with low
    · subst more
      exact .last low
    · exact .more (by omega) more

/-- Groups are bytes with a top bit before one without. -/
theorem grouped_iff {groups : Bytes} :
    Grouped groups ↔ ∃ front last, groups = front ++ [last] ∧ (∀ b ∈ front, 128 ≤ b.toNat) ∧ last.toNat < 128 := by
  constructor
  · intro grouped
    induction grouped with
    | @last b low => exact ⟨[], b, rfl, by simp, low⟩
    | @more b rest high grouped ih =>
      obtain ⟨front, last, rfl, above, low⟩ := ih
      exact ⟨b :: front, last, rfl, List.forall_mem_cons.mpr ⟨high, above⟩, low⟩
  · rintro ⟨front, last, rfl, above, low⟩
    induction front with
    | nil => exact .last low
    | cons b rest ih =>
      obtain ⟨high, above⟩ := List.forall_mem_cons.mp above
      exact .more high (ih above)

theorem Grouped.exists_cons {groups : Bytes} (grouped : Grouped groups) : ∃ b rest, groups = b :: rest := by
  cases grouped <;> simp

section Step
variable {value : UInt64} {b : UInt8} (used : Nat) (rest : Bytes)

/-- No group is read behind a value that has no room for it. -/
theorem readAfter_full (full : 2 ^ 57 ≤ value.toNat) (b : UInt8) :
    readAfter value used (b :: rest) = .error (.malformed .lengthOverflow) := by
  rw [readAfter, if_pos ((lastShiftable_lt_iff value).mpr full)]

theorem readAfter_last (room : value.toNat < 2 ^ 57) (low : b.toNat < 128) :
    readAfter value used (b :: rest) = .ok ((value <<< 7) ||| (b &&& 0x7f).toUInt64, used + 1) := by
  rw [readAfter, if_neg (by rw [lastShiftable_lt_iff]; omega)]
  exact if_pos ((and_top_eq_zero_iff b).mpr low)

theorem readAfter_more (room : value.toNat < 2 ^ 57) (high : 128 ≤ b.toNat) :
    readAfter value used (b :: rest) = readAfter ((value <<< 7) ||| (b &&& 0x7f).toUInt64) (used + 1) rest := by
  rw [readAfter, if_neg (by rw [lastShiftable_lt_iff]; omega)]
  exact if_neg (mt (and_top_eq_zero_iff b).mp (by omega))

end Step

/-- Reading takes the groups at the front and finds their exact worth. -/
theorem readAfter_ok_iff (value : UInt64) (used : Nat) (data : Bytes) (n : UInt64) (k : Nat) :
    readAfter value used data = .ok (n, k) ↔
      ∃ groups rest, data = groups ++ rest ∧ Grouped groups ∧ n.toNat = worth value.toNat groups ∧
        k = used + groups.length := by
  induction data generalizing value used with
  | nil =>
    constructor
    · intro read
      cases read
    · rintro ⟨groups, rest, split, grouped, -⟩
      cases grouped <;> cases split
  | cons b more ih =>
    by_cases full : 2 ^ 57 ≤ value.toNat
    · rw [readAfter_full used more full]
      constructor
      · intro read
        cases read
      · rintro ⟨groups, rest, split, grouped, exact_worth, -⟩
        obtain ⟨first, later, rfl⟩ := grouped.exists_cons
        -- One more group would be worth 2^64 and more.
        have grown := le_worth (value.toNat * 128 + first.toNat % 128) later
        have bound := n.toNat_lt
        rw [worth_cons] at exact_worth
        omega
    · have room : value.toNat < 2 ^ 57 := Nat.lt_of_not_le full
      by_cases low : b.toNat < 128
      · rw [readAfter_last used more room low]
        simp only [Except.ok.injEq, Prod.mk.injEq]
        constructor
        · rintro ⟨rfl, rfl⟩
          exact ⟨[b], more, rfl, .last low, toNat_next room, rfl⟩
        · rintro ⟨groups, rest, split, grouped, exact_worth, rfl⟩
          obtain ⟨first, later, rfl⟩ := grouped.exists_cons
          obtain ⟨rfl, -⟩ := List.cons.inj split
          rw [grouped_cons_iff, if_pos low] at grouped
          subst grouped
          exact ⟨UInt64.toNat_inj.mp (by rw [toNat_next room, exact_worth]; rfl), rfl⟩
      · rw [readAfter_more used more room (Nat.le_of_not_lt low), ih, toNat_next room]
        constructor
        · rintro ⟨groups, rest, rfl, grouped, exact_worth, rfl⟩
          exact ⟨b :: groups, rest, rfl, .more (by omega) grouped, exact_worth, by simp; omega⟩
        · rintro ⟨groups, rest, split, grouped, exact_worth, rfl⟩
          obtain ⟨first, later, rfl⟩ := grouped.exists_cons
          obtain ⟨rfl, rest_split⟩ := List.cons.inj split
          rw [grouped_cons_iff, if_neg low] at grouped
          exact ⟨later, rest, rest_split, grouped, exact_worth, by simp; omega⟩

theorem read_ok_iff (data : Bytes) (n : UInt64) (k : Nat) :
    read data = .ok (n, k) ↔
      ∃ groups rest, data = groups ++ rest ∧ Grouped groups ∧ n.toNat = worth 0 groups ∧ k = groups.length := by
  rw [read, readAfter_ok_iff]
  simp

/-- Bytes are refused for ending too early or for being worth too much. -/
theorem readAfter_error {value : UInt64} {used : Nat} {data : Bytes} {e : Error}
    (refused : readAfter value used data = .error e) :
    e = .malformed .truncatedLength ∨ e = .malformed .lengthOverflow := by
  induction data generalizing value used with
  | nil =>
    cases refused
    exact .inl rfl
  | cons b rest ih =>
    by_cases full : 2 ^ 57 ≤ value.toNat
    · rw [readAfter_full used rest full] at refused
      cases refused
      exact .inr rfl
    · have room : value.toNat < 2 ^ 57 := Nat.lt_of_not_le full
      by_cases low : b.toNat < 128
      · rw [readAfter_last used rest room low] at refused
        cases refused
      · rw [readAfter_more used rest room (Nat.le_of_not_lt low)] at refused
        exact ih refused

/-- Behind bytes with top bits the reader holds their worth, if there is still room for a group. -/
theorem readAfter_front {front : Bytes} (above : ∀ b ∈ front, 128 ≤ b.toNat) (value : UInt64) (used : Nat)
    (room : worth value.toNat front < 2 ^ 57) (rest : Bytes) :
    ∃ held : UInt64, held.toNat = worth value.toNat front ∧
      readAfter value used (front ++ rest) = readAfter held (used + front.length) rest := by
  induction front generalizing value used with
  | nil => exact ⟨value, rfl, rfl⟩
  | cons b more ih =>
    obtain ⟨high, above⟩ := List.forall_mem_cons.mp above
    have grown := le_worth (value.toNat * 128 + b.toNat % 128) more
    rw [worth_cons] at room ⊢
    -- Worth never shrinks, so there was room for this group too.
    have room_before : value.toNat < 2 ^ 57 := by omega
    rw [← toNat_next room_before] at room ⊢
    obtain ⟨held, exact_worth, read⟩ := ih above _ (used + 1) room
    refine ⟨held, exact_worth, ?_⟩
    rw [List.cons_append, readAfter_more used _ room_before high, read, List.length_cons, Nat.add_right_comm,
      Nat.add_assoc]

/-- Groups that are cut short never overflow before they end. -/
theorem read_take {groups : Bytes} (grouped : Grouped groups) (small : worth 0 groups < 2 ^ 64) {k : Nat}
    (short : k < groups.length) : read (groups.take k) = .error (.malformed .truncatedLength) := by
  obtain ⟨front, last, rfl, above, -⟩ := grouped_iff.mp grouped
  have within : k ≤ front.length := by simpa [Nat.lt_succ_iff] using short
  have above_cut : ∀ b ∈ front.take k, 128 ≤ b.toNat := fun b member => above b (List.mem_of_mem_take member)
  have room : worth 0 (front.take k) < 2 ^ 57 := by
    have grown := le_worth (worth 0 (front.take k)) (front.drop k)
    rw [← worth_append, List.take_append_drop] at grown
    rw [worth_append, worth_cons, worth_nil] at small
    omega
  obtain ⟨held, -, read_on⟩ := readAfter_front above_cut 0 0 room []
  rw [List.append_nil] at read_on
  rw [List.take_append_of_le_length within, read, read_on]
  rfl

/-! ## Writing -/

/-- A length is written in the fewest groups that hold it, and at least one. -/
theorem groupCount_le_iff {n : UInt64} {k : Nat} (some_group : 0 < k) : groupCount n ≤ k ↔ n.toNat < 128 ^ k := by
  have power : 128 ^ k = 2 ^ (7 * k) := Nat.pow_mul 2 7 k ▸ rfl
  rw [groupCount, bitLength, power]
  split_ifs with zero
  · subst zero
    have pos := Nat.two_pow_pos (7 * k)
    simp
    omega
  · have positive : n.toNat ≠ 0 := fun none => zero (UInt64.toNat_inj.mp none)
    rw [← Nat.log2_lt positive]
    omega

theorem groupCount_pos (n : UInt64) : 0 < groupCount n := by
  rw [groupCount]
  omega

theorem groupCount_le (n : UInt64) : groupCount n ≤ 10 := by
  rw [groupCount_le_iff (by decide)]
  have bound := n.toNat_lt
  omega

theorem toNat_group (n : UInt64) {k : Nat} (inside : k < 10) :
    ((n >>> (7 * k).toUInt64) &&& 0x7f).toUInt8.toNat = n.toNat / 128 ^ k % 128 := by
  have power : 128 ^ k = 2 ^ (7 * k) := Nat.pow_mul 2 7 k ▸ rfl
  have amount : (7 * k).toUInt64.toNat % 64 = 7 * k := by
    rw [Nat.toUInt64_eq, UInt64.toNat_ofNat']
    omega
  have mask : (0x7f : UInt64).toNat = 2 ^ 7 - 1 := by decide
  rw [UInt64.toNat_toUInt8, UInt64.toNat_and, UInt64.toNat_shiftRight, amount, mask,
    Nat.and_two_pow_sub_one_eq_mod, Nat.shiftRight_eq_div_pow, power]
  omega

/-- One more group goes in front, with a top bit if others follow. -/
theorem groups_succ (n : UInt64) {k : Nat} (inside : k < 10) :
    ∃ b, groups n (k + 1) = b :: groups n k ∧ b.toNat % 128 = n.toNat / 128 ^ k % 128 ∧ (b.toNat < 128 ↔ k = 0) := by
  have group := toNat_group n inside
  refine ⟨_, rfl, ?_⟩
  split_ifs with last
  · rw [group]
    omega
  · rw [toNat_or_top (by omega), group]
    omega

/-- The groups that are written are worth the number. -/
theorem worth_groups (v : Nat) (n : UInt64) {k : Nat} (inside : k ≤ 10) :
    worth v (groups n k) = v * 128 ^ k + n.toNat % 128 ^ k := by
  induction k generalizing v with
  | zero => simp [groups, worth_nil, Nat.mod_one]
  | succ k ih =>
    obtain ⟨b, split, group, -⟩ := groups_succ n (k := k) (by omega)
    rw [split, worth_cons, group, ih _ (by omega), Nat.pow_succ, Nat.mod_mul]
    ring

theorem grouped_groups (n : UInt64) {k : Nat} (inside : k < 10) : Grouped (groups n (k + 1)) := by
  induction k with
  | zero =>
    obtain ⟨b, split, -, last⟩ := groups_succ n inside
    rw [split]
    exact .last (last.mpr rfl)
  | succ k ih =>
    obtain ⟨b, split, -, last⟩ := groups_succ n inside
    rw [split]
    exact .more (by omega) (ih (by omega))

theorem grouped_write (n : UInt64) : Grouped (write n) := by
  obtain ⟨k, count⟩ := Nat.exists_eq_add_one.mpr (groupCount_pos n)
  have inside := groupCount_le n
  rw [write, count]
  exact grouped_groups n (by omega)

theorem worth_write (n : UInt64) : worth 0 (write n) = n.toNat := by
  have fits := (groupCount_le_iff (groupCount_pos n)).mp (Nat.le_refl _)
  rw [write, worth_groups 0 n (groupCount_le n), Nat.zero_mul, Nat.zero_add, Nat.mod_eq_of_lt fits]

theorem toNat_toUInt64 {n : Nat} (small : n < 2 ^ 64) : n.toUInt64.toNat = n := by
  rw [Nat.toUInt64_eq, UInt64.toNat_ofNat', Nat.mod_eq_of_lt small]

/-- What was written is read back, whatever follows. -/
theorem read_write (n : UInt64) (rest : Bytes) : read (write n ++ rest) = .ok (n, groupCount n) :=
  (read_ok_iff ..).mpr ⟨write n, rest, rfl, grouped_write n, (worth_write n).symm, (length_write n).symm⟩

/-! ## Other groups of the same number -/

theorem worth_lt (v : Nat) (bytes : Bytes) : worth v bytes < (v + 1) * 128 ^ bytes.length := by
  induction bytes generalizing v with
  | nil => simp [worth_nil]
  | cons b rest ih =>
    have digit : b.toNat % 128 < 128 := Nat.mod_lt _ (by decide)
    calc worth v (b :: rest)
        < (v * 128 + b.toNat % 128 + 1) * 128 ^ rest.length := by rw [worth_cons]; exact ih _
      _ ≤ ((v + 1) * 128) * 128 ^ rest.length := Nat.mul_le_mul_right _ (by omega)
      _ = (v + 1) * 128 ^ (b :: rest).length := by rw [List.length_cons, Nat.pow_succ]; ring

/-- As many groups that are worth as much are the same, and so is what stands before them. -/
theorem Grouped.eq_of_worth {gs hs : Bytes} (grouped : Grouped gs) (grouped' : Grouped hs)
    (same_length : gs.length = hs.length) {v w : Nat} (same_worth : worth v gs = worth w hs) : v = w ∧ gs = hs := by
  induction grouped generalizing hs v w with
  | @last b low =>
    cases grouped' with
    | @last c low' =>
      simp only [worth_cons, worth_nil] at same_worth
      have values : b.toNat = c.toNat := by omega
      exact ⟨by omega, by rw [UInt8.toNat_inj.mp values]⟩
    | more high grouped' =>
      obtain ⟨c, rest, rfl⟩ := grouped'.exists_cons
      simp at same_length
  | @more b rest high grouped ih =>
    cases grouped' with
    | last low' =>
      obtain ⟨c, rest, rfl⟩ := grouped.exists_cons
      simp at same_length
    | @more c rest' high' grouped' =>
      rw [worth_cons, worth_cons] at same_worth
      obtain ⟨front, rfl⟩ := ih grouped' (by simpa using same_length) same_worth
      have bound := b.toNat_lt
      have bound' := c.toNat_lt
      have values : b.toNat = c.toNat := by omega
      exact ⟨by omega, by rw [UInt8.toNat_inj.mp values]⟩

theorem worth_zeros_append (k : Nat) (bytes : Bytes) : worth 0 (List.replicate k 0x80 ++ bytes) = worth 0 bytes := by
  induction k with
  | zero => rfl
  | succ k ih => rw [List.replicate_succ, List.cons_append, worth_cons]; exact ih

theorem Grouped.zeros_append {gs : Bytes} (grouped : Grouped gs) (k : Nat) : Grouped (List.replicate k 0x80 ++ gs) := by
  induction k with
  | zero => exact grouped
  | succ k ih => exact .more (by decide) ih

/-- The groups of a number are those that are written for it behind groups of zero. -/
theorem Grouped.eq_zeros_append_write {gs : Bytes} {n : UInt64} (grouped : Grouped gs)
    (exact_worth : worth 0 gs = n.toNat) :
    groupCount n ≤ gs.length ∧ gs = List.replicate (gs.length - groupCount n) 0x80 ++ write n := by
  have some_group : 0 < gs.length := by
    obtain ⟨b, rest, rfl⟩ := grouped.exists_cons
    simp
  have bound := worth_lt 0 gs
  have fewest : groupCount n ≤ gs.length := by
    rw [groupCount_le_iff some_group, ← exact_worth]
    simpa using bound
  refine ⟨fewest, (grouped.eq_of_worth ((grouped_write n).zeros_append _) ?_ (v := 0) (w := 0) ?_).2⟩
  · rw [List.length_append, List.length_replicate, length_write]
    omega
  · rw [worth_zeros_append, worth_write, exact_worth]

end NamePack.Length
