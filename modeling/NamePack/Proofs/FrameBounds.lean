import NamePack.Proofs.FrameGrammar

/-!
# The bounds of frames

A frame holds what tells where it ends. Nothing behind a frame is looked at, and whatever is cut off from
one is missed (`Frame.read_delimited`). The bytes of a frame are those that are written for the record that
is read from it, but for groups of zero in front of the length (`Frame.reframe_read`).
-/
namespace NamePack.Frame

variable {data : Bytes} {r : Record} {used : Nat}

/-! ## Records that were read -/

theorem fronts_of_read (framed : read data = .ok (r, used)) :
    Parts.Fronts ⟨r.encoding, r.special1, r.special2, r.payload, used⟩ data := by
  have outcome := outcome_read data
  rw [framed] at outcome
  exact outcome.1

/-- The text of a record that was read is the one that its payload spells. -/
theorem reread_of_read (framed : read data = .ok (r, used)) : r.reread = r := by
  have outcome := outcome_read data
  rw [framed] at outcome
  have kept := (Record.Made.read framed).decode.2
  rw [outcome.2.2.2, Except.ok.injEq] at kept
  rw [Record.reread, ← kept]

/-! ## The bytes of a frame -/

theorem Parts.Fronts.take_used {p : Parts} (fronts : p.Fronts data) : p.Fronts (data.take p.used) := by
  obtain ⟨groups, rest, rfl, grouped, exact_worth, small, size⟩ := fronts
  refine ⟨groups, [], ?_, grouped, exact_worth, small, size⟩
  rw [List.take_left' (by simp [size]; omega), List.append_nil]

theorem Parts.Fronts.append {p : Parts} (fronts : p.Fronts data) (more : Bytes) : p.Fronts (data ++ more) := by
  obtain ⟨groups, rest, rfl, layout⟩ := fronts
  exact ⟨groups, rest ++ more, by simp, layout⟩

theorem Parts.Fronts.used_bounds {p : Parts} (fronts : p.Fronts data) : 4 ≤ p.used ∧ p.used ≤ data.length := by
  obtain ⟨groups, rest, rfl, grouped, -, -, size⟩ := fronts
  obtain ⟨b, later, rfl⟩ := grouped.exists_cons
  simp only [List.length_append, List.length_cons, List.length_nil] at size ⊢
  omega

theorem read_eq_of_fronts {data' : Bytes} {p : Parts} (fronts : p.Fronts data) (fronts' : p.Fronts data') :
    read data = read data' := by
  rw [read_of_split (fronts_iff.mp fronts), read_of_split (fronts_iff.mp fronts')]

/-- What follows a frame is not looked at. -/
theorem read_append (framed : read data = .ok (r, used)) (more : Bytes) : read (data ++ more) = .ok (r, used) := by
  have fronts := fronts_of_read framed
  rw [← read_eq_of_fronts fronts (fronts.append more), framed]

/-- A frame is what is written for its parts, with groups of zero between its header and its length. -/
theorem take_used_of_fronts (fronts : Parts.Fronts ⟨r.encoding, r.special1, r.special2, r.payload, used⟩ data) :
    size r ≤ used ∧
      data.take used = (write r).take 3 ++ List.replicate (used - size r) 0x80 ++ (write r).drop 3 := by
  obtain ⟨groups, rest, rfl, grouped, exact_worth, small, used_eq⟩ := fronts
  dsimp only at exact_worth small used_eq ⊢
  rw [← Length.toNat_toUInt64 small] at exact_worth
  obtain ⟨fewest, padded⟩ := grouped.eq_zeros_append_write exact_worth
  have size_eq : size r = 3 + Length.groupCount r.payload.length.toUInt64 + r.payload.length := rfl
  have zeros : groups.length - Length.groupCount r.payload.length.toUInt64 = used - size r := by omega
  refine ⟨by omega, ?_⟩
  rw [List.take_left' (by simp [used_eq]; omega)]
  conv_lhs => rw [padded, zeros]
  simp [write]

/-! ## Frames written again -/

/-- The frame of a record that was read has the bytes that it was read from, but for groups of zero that
    stood behind the header. It is read as the same record. -/
theorem reframe_read (framed : read data = .ok (r, used)) :
    size r ≤ used ∧ used ≤ data.length ∧
    data.take used = (write r).take 3 ++ List.replicate (used - size r) 0x80 ++ (write r).drop 3 ∧
    (size r = used → data.take used = write r) ∧
    ∀ more, read (write r ++ more) = .ok (r, size r) := by
  have fronts := fronts_of_read framed
  obtain ⟨fewest, padded⟩ := take_used_of_fronts fronts
  refine ⟨fewest, fronts.used_bounds.2, padded, fun same => ?_, fun more => ?_⟩
  · rw [padded, same, Nat.sub_self, List.replicate_zero, List.append_nil, List.take_append_drop]
  · rw [read_write (.read framed), reread_of_read framed]

/-- A length of two bytes after two groups of zero: the record takes eight bytes, and six when it is written
    again. -/
theorem reframe_read_two_zeros :
    read [1, 46, 95, 0x80, 0x80, 2, 0x80, 0x20, 7] = .ok (⟨"ab", .lowerSpecial, 46, 95, [0x80, 0x20]⟩, 8) ∧
    List.take 8 ([1, 46, 95, 0x80, 0x80, 2, 0x80, 0x20, 7] : Bytes) =
      [1, 46, 95] ++ List.replicate 2 0x80 ++ [2, 0x80, 0x20] ∧
    read [1, 46, 95, 2, 0x80, 0x20] = .ok (⟨"ab", .lowerSpecial, 46, 95, [0x80, 0x20]⟩, 6) := by
  have framed : read [1, 46, 95, 0x80, 0x80, 2, 0x80, 0x20, 7] =
      .ok (⟨"ab", .lowerSpecial, 46, 95, [0x80, 0x20]⟩, 8) := by cbv
  obtain ⟨-, -, padded, -, again⟩ := reframe_read framed
  exact ⟨framed, padded, again []⟩

/-! ## Frames that are cut short -/

/-- What is missed when only `k` bytes of a frame of `used` bytes are there, the last `need` of which are its
    payload. -/
def truncation (need used k : Nat) : Malformed :=
  if k < headerSize then .truncatedHeader k
  else if k < used - need then .truncatedLength
  else .truncatedPayload need (k - (used - need))

theorem split_of_short (short : data.length < headerSize) :
    split data = .error (.malformed (.truncatedHeader data.length)) := by
  unfold headerSize at short
  match data with
  | [] | [_] | [_, _] => rfl
  | _ :: _ :: _ :: _ => simp at short; omega

theorem split_take {p : Parts} (fronts : p.Fronts data) {k : Nat} (short : k < p.used) :
    split (data.take k) = .error (.malformed (truncation p.payload.length p.used k)) := by
  obtain ⟨e, special1, special2, payload, used⟩ := p
  have bounds := fronts.used_bounds
  obtain ⟨groups, rest, rfl, grouped, exact_worth, small, used_eq⟩ := fronts
  dsimp only at *
  have length_end : used - payload.length = groups.length + 3 := by omega
  simp only [List.cons_append, List.nil_append, List.append_assoc] at bounds ⊢
  rw [truncation, length_end]
  -- The cut is in the header, among the groups of the length or in the payload.
  split_ifs with in_header in_length
  · have taken := List.length_take_of_le (Nat.le_of_lt (Nat.lt_of_lt_of_le short bounds.2))
    rw [split_of_short (by rwa [taken]), taken]
  · obtain ⟨j, rfl⟩ := Nat.exists_eq_add_of_le' (Nat.le_of_not_lt in_header)
    have inside : j < groups.length := Nat.lt_of_add_lt_add_right in_length
    have cut := Length.read_take grouped (by omega) inside
    simp [headerSize, split, Encoding.ofTag_tag, List.take_append_of_le_length (Nat.le_of_lt inside), cut, bind,
      Except.bind]
  · obtain ⟨j, rfl⟩ := Nat.exists_eq_add_of_le' (Nat.le_of_not_lt in_length)
    have held : j < payload.length := by omega
    have size := Length.toNat_toUInt64 small
    have length : Length.read (groups ++ payload.take j) = .ok (payload.length.toUInt64, groups.length) :=
      (Length.read_ok_iff ..).mpr ⟨groups, _, rfl, grouped, by rw [size, exact_worth], rfl⟩
    have body : (groups ++ (payload ++ rest)).take (j + groups.length) = groups ++ payload.take j := by
      rw [Nat.add_comm, List.take_length_add_append, List.take_append_of_le_length (Nat.le_of_lt held)]
    simp [← Nat.add_assoc, split, Encoding.ofTag_tag, body, length, size, held, Nat.min_eq_left (Nat.le_of_lt held),
      bind, Except.bind]

/-- A frame that was read ends inside the bytes, whatever follows it is not looked at, and without its last
    bytes it is malformed. -/
theorem read_delimited (framed : read data = .ok (r, used)) :
    4 ≤ used ∧ used ≤ data.length ∧ (∀ more, read (data.take used ++ more) = .ok (r, used)) ∧
    ∀ k < used, read (data.take k) = .error (.malformed (truncation r.payload.length used k)) := by
  have fronts := fronts_of_read framed
  obtain ⟨least, most⟩ := fronts.used_bounds
  refine ⟨least, most, fun more => ?_, fun k short => ?_⟩
  · rw [← read_eq_of_fronts fronts (fronts.take_used.append more), framed]
  · simp [read, split_take fronts short, bind, Except.bind]

/-- Another byte behind the frame changes nothing; cut inside the header, the length or the payload, that part
    is missed. -/
theorem read_delimited_cut :
    read [1, 46, 95, 0x80, 2, 0x80, 0x20, 7] = .ok (⟨"ab", .lowerSpecial, 46, 95, [0x80, 0x20]⟩, 7) ∧
    read [1, 46, 95, 0x80, 2, 0x80, 0x20, 0xff] = .ok (⟨"ab", .lowerSpecial, 46, 95, [0x80, 0x20]⟩, 7) ∧
    read [1, 46] = .error (.malformed (.truncatedHeader 2)) ∧
    read [1, 46, 95, 0x80] = .error (.malformed .truncatedLength) ∧
    read [1, 46, 95, 0x80, 2, 0x80] = .error (.malformed (.truncatedPayload 2 1)) := by
  have framed : read [1, 46, 95, 0x80, 2, 0x80, 0x20, 7] =
      .ok (⟨"ab", .lowerSpecial, 46, 95, [0x80, 0x20]⟩, 7) := by cbv
  obtain ⟨-, -, followed, cut⟩ := read_delimited framed
  exact ⟨framed, followed [0xff], cut 2 (by decide), cut 4 (by decide), cut 6 (by decide)⟩

end NamePack.Frame
