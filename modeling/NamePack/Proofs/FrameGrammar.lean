import NamePack.Proofs.AcceptedPayloads
import NamePack.Proofs.Frames

/-!
# The grammar of frames

What reading a frame gives, said on the bytes alone (`Frame.read_iff_grammar`). A frame is read exactly if
its header, length and payload are there, the special bytes are valid or not looked at, and the payload is
one of its encoding. Special bytes are blamed where all bytes are there, and whatever else fails is
malformed.
-/
namespace NamePack

/-! ## Lengths and headers -/

namespace Length

theorem onlyMalformed_readAfter (value : UInt64) (used : Nat) (data : Bytes) :
    OnlyMalformed (readAfter value used data) := by
  intro e refused
  rcases readAfter_error refused with rfl | rfl
  · exact ⟨_, rfl⟩
  · exact ⟨_, rfl⟩

end Length

namespace Frame

theorem onlyMalformed_split (data : Bytes) : OnlyMalformed (split data) := by
  have tagged : ∀ t, OnlyMalformed (Encoding.ofTag t) := by
    intro t
    unfold Encoding.ofTag
    split
    · exact .ok _
    · exact .malformed _
  unfold split
  split
  · refine (tagged _).bind fun e => (Length.onlyMalformed_readAfter 0 0 _).bind fun (length, used) => ?_
    dsimp only
    split
    · exact .malformed _
    · exact .ok _
  · exact .malformed _

/-! ## Frames -/

/-- Parts that stand at the front of a stream: a tag, two special bytes, groups that are worth the size of
    the payload, and the payload. Sizes have 64 bits. -/
def Parts.Fronts (p : Parts) (data : Bytes) : Prop :=
  ∃ groups rest, data = [p.encoding.tag, p.special1, p.special2] ++ groups ++ p.payload ++ rest ∧
    Length.Grouped groups ∧ Length.worth 0 groups = p.payload.length ∧ p.payload.length < 2 ^ 64 ∧
    p.used = 3 + groups.length + p.payload.length

theorem fronts_iff {data : Bytes} {p : Parts} : p.Fronts data ↔ split data = .ok p := (split_ok_iff data p).symm

theorem read_of_split {data : Bytes} {p : Parts} (taken : split data = .ok p) :
    read data = (p.encoding.readWith p.special1 p.special2 p.payload).map fun text =>
      (⟨text, p.encoding, p.special1, p.special2, p.payload⟩, p.used) := by
  rw [read, taken]
  cases decoded : p.encoding.readWith p.special1 p.special2 p.payload <;>
    simp [Parts.record, Record.ofParts, decoded, bind, Except.bind, Except.map, pure, Except.pure]

theorem Parts.Fronts.unique {data : Bytes} {p q : Parts} (fronts : p.Fronts data) (fronts' : q.Fronts data) : p = q := by
  rw [fronts_iff] at fronts fronts'
  exact Except.ok.inj (fronts.symm.trans fronts')

/-- What reading a frame gives, as the bytes tell. -/
def Outcome (data : Bytes) : Except Error (Record × Nat) → Prop
  | .ok (r, used) => Parts.Fronts ⟨r.encoding, r.special1, r.special2, r.payload, used⟩ data ∧
      r.encoding.Specialised r.special1 r.special2 ∧ r.encoding.Accepts r.payload ∧ r.decode = .ok r.text
  | .error (.invalidSpecial c) => ∃ p : Parts, p.Fronts data ∧ ¬ p.encoding.Specialised p.special1 p.special2 ∧
      c = Specials.blamed p.special1 p.special2
  | .error (.malformed _) => ∀ p : Parts, p.Fronts data → p.encoding.Specialised p.special1 p.special2 ∧
      ¬ p.encoding.Accepts p.payload
  | .error _ => False

theorem outcome_read (data : Bytes) : Outcome data (read data) := by
  cases taken : split data with
  | error err =>
    obtain ⟨cause, rfl⟩ := onlyMalformed_split data err taken
    have failed : read data = .error (.malformed cause) := by simp [read, taken, bind, Except.bind]
    rw [failed]
    intro p fronts
    rw [fronts_iff, taken] at fronts
    cases fronts
  | ok p =>
    have fronts := fronts_iff.mpr taken
    rw [read_of_split taken]
    rcases p.encoding.readWith_outcome p.special1 p.special2 p.payload with
      ⟨specialised, accepts, text, decoded⟩ | ⟨unspecialised, refused⟩ | ⟨specialised, rejects, cause, refused⟩
    · rw [decoded]
      exact ⟨fronts, specialised, accepts, decoded⟩
    · rw [refused]
      exact ⟨p, fronts, unspecialised, rfl⟩
    · rw [refused]
      intro q fronts'
      obtain rfl := fronts.unique fronts'
      exact ⟨specialised, rejects⟩

theorem exists_read_iff (data : Bytes) (used : Nat) :
    (∃ r, read data = .ok (r, used)) ↔ ∃ p : Parts, p.Fronts data ∧
      p.encoding.Specialised p.special1 p.special2 ∧ p.encoding.Accepts p.payload ∧ used = p.used := by
  have outcome := outcome_read data
  constructor
  · rintro ⟨r, framed⟩
    rw [framed] at outcome
    obtain ⟨fronts, specialised, accepts, -⟩ := outcome
    exact ⟨_, fronts, specialised, accepts, rfl⟩
  · rintro ⟨p, fronts, specialised, accepts, rfl⟩
    match ended : read data, outcome with
    | .ok (r, n), ⟨fronts', _⟩ =>
      obtain rfl := fronts.unique fronts'
      exact ⟨r, rfl⟩
    | .error (.invalidSpecial c), ⟨q, fronts', unspecialised, _⟩ =>
      obtain rfl := fronts.unique fronts'
      exact absurd specialised unspecialised
    | .error (.malformed cause), rejected => exact absurd accepts (rejected p fronts).2

theorem read_invalidSpecial_iff (data : Bytes) (c : Char) :
    read data = .error (.invalidSpecial c) ↔ ∃ p : Parts, p.Fronts data ∧
      ¬ p.encoding.Specialised p.special1 p.special2 ∧ c = Specials.blamed p.special1 p.special2 := by
  have outcome := outcome_read data
  constructor
  · intro refused
    rw [refused] at outcome
    exact outcome
  · rintro ⟨p, fronts, unspecialised, rfl⟩
    match ended : read data, outcome with
    | .ok (r, n), ⟨fronts', specialised, _⟩ =>
      obtain rfl := fronts.unique fronts'
      exact absurd specialised unspecialised
    | .error (.invalidSpecial d), ⟨q, fronts', _, blamed⟩ =>
      obtain rfl := fronts.unique fronts'
      rw [blamed]
    | .error (.malformed cause), rejected => exact absurd (rejected p fronts).1 unspecialised

theorem read_malformed_iff (data : Bytes) :
    (∃ cause, read data = .error (.malformed cause)) ↔ ∀ p : Parts, p.Fronts data →
      p.encoding.Specialised p.special1 p.special2 ∧ ¬ p.encoding.Accepts p.payload := by
  have outcome := outcome_read data
  constructor
  · rintro ⟨cause, refused⟩
    rw [refused] at outcome
    exact outcome
  · intro rejected
    match ended : read data, outcome with
    | .ok (r, n), ⟨fronts, _, accepts, _⟩ => exact absurd accepts (rejected _ fronts).2
    | .error (.invalidSpecial c), ⟨p, fronts, unspecialised, _⟩ => exact absurd (rejected p fronts).1 unspecialised
    | .error (.malformed cause), _ => exact ⟨cause, rfl⟩

/-- A frame is read exactly if the bytes of its parts are there, its special bytes are valid or not looked
    at and its payload is one of its encoding; the record holds the parts and the text that they spell.
    Where the parts are there, invalid special bytes are blamed first. All other bytes are malformed. -/
theorem read_iff_grammar (data : Bytes) :
    (∀ used, (∃ r, read data = .ok (r, used)) ↔ ∃ p : Parts, p.Fronts data ∧
      (p.encoding = .utf8 ∨ Specials.Valid p.special1 p.special2) ∧ p.encoding.Accepts p.payload ∧ used = p.used) ∧
    (∀ r used, read data = .ok (r, used) →
      Parts.Fronts ⟨r.encoding, r.special1, r.special2, r.payload, used⟩ data ∧ r.decode = .ok r.text) ∧
    (∀ c, read data = .error (.invalidSpecial c) ↔ ∃ p : Parts, p.Fronts data ∧
      (p.encoding ≠ .utf8 ∧ ¬ Specials.Valid p.special1 p.special2) ∧
      c = Specials.blamed p.special1 p.special2) ∧
    ((∃ cause, read data = .error (.malformed cause)) ↔ ∀ p : Parts, p.Fronts data →
      (p.encoding = .utf8 ∨ Specials.Valid p.special1 p.special2) ∧ ¬ p.encoding.Accepts p.payload) := by
  refine ⟨exists_read_iff data, ?_, ?_, read_malformed_iff data⟩
  · intro r used framed
    have outcome := outcome_read data
    rw [framed] at outcome
    exact ⟨outcome.1, outcome.2.2.2⟩
  · intro c
    rw [read_invalidSpecial_iff]
    simp only [Encoding.Specialised, not_or, ne_eq]

/-- A length may begin with groups of zero. A letter among the special bytes is blamed before the payload. -/
theorem read_iff_grammar_zero_group :
    (∃ r, read [1, 46, 95, 0x80, 0x02, 0x80, 0x20, 7] = .ok (r, 7) ∧ r.decode = .ok r.text) ∧
    read [1, 97, 95, 1, 0xff] = .error (.invalidSpecial 'a') := by
  constructor
  · have fronts : Parts.Fronts ⟨.lowerSpecial, 46, 95, [0x80, 0x20], 7⟩ [1, 46, 95, 0x80, 0x02, 0x80, 0x20, 7] :=
      ⟨[0x80, 0x02], [7], rfl, .more (by decide) (.last (by decide)), by decide, by decide, rfl⟩
    have laid : Bits.Laid 5 [0, 1] [0x80, 0x20] := (Bits.laid_iff_pack (by decide) ..).mpr (by cbv)
    have named : ∀ k ∈ ([0, 1] : Bytes), k.toNat < 28 := by simp
    have accepts : Encoding.lowerSpecial.Accepts [0x80, 0x20] := ⟨[0, 1], laid, named⟩
    obtain ⟨accepted, held, -, -⟩ := read_iff_grammar [1, 46, 95, 0x80, 0x02, 0x80, 0x20, 7]
    obtain ⟨r, framed⟩ := (accepted 7).mpr
      ⟨_, fronts, .inr ⟨by decide, by decide, by decide⟩, accepts, rfl⟩
    exact ⟨r, framed, (held r 7 framed).2⟩
  · have fronts : Parts.Fronts ⟨.lowerSpecial, 97, 95, [0xff], 5⟩ [1, 97, 95, 1, 0xff] :=
      ⟨[1], [], rfl, .last (by decide), by decide, by decide, rfl⟩
    obtain ⟨-, -, blamed, -⟩ := read_iff_grammar [1, 97, 95, 1, 0xff]
    refine (blamed 'a').mpr ⟨_, fronts, ⟨by decide, ?_⟩, by decide⟩
    rintro ⟨letter, -⟩
    exact absurd letter (by decide)

end Frame
end NamePack
