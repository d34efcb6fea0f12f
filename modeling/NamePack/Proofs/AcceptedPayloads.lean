import NamePack.Proofs.PackedImages
import NamePack.Proofs.Payloads

/-!
# Payloads that are accepted

Which bytes an encoding reads, said on the bytes alone (`Encoding.Accepts`), and the three ways in which
reading them beside special bytes ends (`Encoding.readWith_outcome`): special bytes that are not valid are
blamed first, and a payload is refused as malformed only.
-/
namespace NamePack

/-! ## Failures -/

/-- A run that only fails for malformed bytes. -/
def OnlyMalformed {α : Type} (x : Except Error α) : Prop := ∀ err, x = .error err → ∃ cause, err = .malformed cause

namespace OnlyMalformed
variable {α β : Type}

theorem ok (a : α) : OnlyMalformed (.ok a) := by
  intro err failed
  cases failed

theorem malformed (cause : Malformed) : OnlyMalformed (α := α) (.error (.malformed cause)) := by
  intro err failed
  cases failed
  exact ⟨cause, rfl⟩

theorem bind {x : Except Error α} {f : α → Except Error β} (first : OnlyMalformed x)
    (next : ∀ a, OnlyMalformed (f a)) : OnlyMalformed (x >>= f) := by
  cases x with
  | error e =>
    intro err failed
    cases failed
    exact first e rfl
  | ok a => exact next a

theorem mapM {f : α → Except Error β} (each : ∀ a, OnlyMalformed (f a)) (xs : List α) :
    OnlyMalformed (xs.mapM f) := by
  induction xs with
  | nil => exact ok []
  | cons x xs ih =>
    rw [List.mapM_cons]
    exact (each x).bind fun y => ih.bind fun ys => ok (y :: ys)

end OnlyMalformed

/-! ## Special bytes -/

namespace Specials

/-- Bytes that are different ASCII characters, neither letters nor digits. -/
def Valid (b1 b2 : UInt8) : Prop :=
  isSpecial (Char.ofUInt8 b1) = true ∧ isSpecial (Char.ofUInt8 b2) = true ∧ b1 ≠ b2

/-- The character that is blamed for bytes that are not valid: the first if it can be no special one. -/
def blamed (b1 b2 : UInt8) : Char := if isSpecial (Char.ofUInt8 b1) then Char.ofUInt8 b2 else Char.ofUInt8 b1

theorem ofUInt8_inj {b1 b2 : UInt8} : Char.ofUInt8 b1 = Char.ofUInt8 b2 ↔ b1 = b2 := by
  constructor
  · intro same
    have values := congrArg Char.toNat same
    simpa [Char.ofUInt8, Char.toNat, UInt8.toNat_inj] using values
  · rintro rfl
    rfl

theorem exists_ofBytes {b1 b2 : UInt8} (valid : Valid b1 b2) : ∃ sp, ofBytes b1 b2 = .ok sp := by
  obtain ⟨first, second, differ⟩ := valid
  have chars : Char.ofUInt8 b1 ≠ Char.ofUInt8 b2 := mt ofUInt8_inj.mp differ
  exact ⟨⟨_, _, first, second, chars⟩, by rw [ofBytes, ofChars, dif_pos first, dif_pos second, dif_neg chars]⟩

theorem ofBytes_eq_error {b1 b2 : UInt8} (invalid : ¬ Valid b1 b2) :
    ofBytes b1 b2 = .error (.invalidSpecial (blamed b1 b2)) := by
  rw [ofBytes, ofChars, blamed]
  by_cases first : isSpecial (Char.ofUInt8 b1) = true
  · by_cases second : isSpecial (Char.ofUInt8 b2) = true
    · have same : b1 = b2 := by
        by_contra differ
        exact invalid ⟨first, second, differ⟩
      rw [dif_pos first, dif_pos second, dif_pos (ofUInt8_inj.mpr same), if_pos first]
    · rw [dif_pos first, dif_neg second, if_pos first]
  · rw [dif_neg first, if_neg first]

end Specials

/-! ## Payloads -/

namespace Encoding

/-- The payloads of an encoding: the UTF-8 of a text, or packed codes that all stand for a character. -/
def Accepts (e : Encoding) (payload : Bytes) : Prop :=
  match e.width? with
  | none => ∃ text, payload = Text.utf8 text
  | some width => ∃ codes, Bits.Laid width codes payload ∧ ∀ k ∈ codes, k.toNat < e.symbolCount

theorem exists_symbolOf_iff (e : Encoding) (sp : Specials) (k : UInt8) :
    (∃ c, e.symbolOf sp k = .ok c) ↔ k.toNat < e.symbolCount := by
  rw [← isSome_symbol?_iff e sp]
  unfold symbolOf
  cases e.symbol? sp k <;> simp

/-- A payload is read exactly if it is one of its encoding, with whatever special characters. -/
theorem exists_read_iff (e : Encoding) (sp : Specials) (payload : Bytes) :
    (∃ text, e.read sp payload = .ok text) ↔ e.Accepts payload := by
  cases packed : e.width? with
  | none =>
    obtain rfl := eq_utf8_of_width? packed
    simp only [read_utf8_ok_iff, Accepts, packed]
  | some width =>
    obtain ⟨wide, narrow⟩ := width_bounds packed
    have run : (∃ text, e.read sp payload = .ok text) ↔
        ∃ codes, Bits.unpack width payload = .ok codes ∧ ∀ k ∈ codes, k.toNat < e.symbolCount := by
      simp only [← exists_symbolOf_iff e sp, ← exists_mapM_ok_iff]
      simp only [read, packed, bind_ok_iff, pure, Except.pure, Except.ok.injEq]
      constructor
      · rintro ⟨_, codes, unpacked, cs, named, -⟩
        exact ⟨codes, unpacked, cs, named⟩
      · rintro ⟨codes, unpacked, cs, named⟩
        exact ⟨_, codes, unpacked, cs, named, rfl⟩
    simp only [run, Accepts, packed, Bits.unpack_ok_iff_laid wide narrow]
    constructor
    · rintro ⟨codes, ⟨laid, -⟩, named⟩
      exact ⟨codes, laid, named⟩
    · rintro ⟨codes, laid, named⟩
      exact ⟨codes, ⟨laid, fun k member => Nat.lt_of_lt_of_le (named k member) (symbolCount_le packed)⟩, named⟩

end Encoding

namespace Bits

theorem onlyMalformed_unpack (width : Nat) (data : Bytes) : OnlyMalformed (unpack width data) := by
  have counted : OnlyMalformed (countCodes width data) := by
    by_cases empty : data = []
    · subst empty
      exact .ok 0
    · rw [countCodes_eq empty]
      split_ifs
      · exact .malformed _
      · exact .malformed _
      · exact .malformed _
      · exact .ok _
  intro err failed
  simp only [unpack, Unpacker.new, map_error_iff] at failed
  exact counted err failed

end Bits

namespace Encoding

theorem onlyMalformed_read (e : Encoding) (sp : Specials) (payload : Bytes) : OnlyMalformed (e.read sp payload) := by
  have named : ∀ k, OnlyMalformed (e.symbolOf sp k) := by
    intro k
    unfold symbolOf
    split
    · exact .ok _
    · exact .malformed _
  unfold read
  split
  · split
    · exact .ok _
    · exact .malformed _
  · rename_i width packed
    exact (Bits.onlyMalformed_unpack width payload).bind fun codes =>
      (OnlyMalformed.mapM named codes).bind fun cs => .ok _

/-! ## Payloads beside their special bytes -/

section
variable {e : Encoding} {b1 b2 : UInt8}

/-- The special bytes beside a payload are not looked at or valid. -/
def Specialised (e : Encoding) (b1 b2 : UInt8) : Prop := e = utf8 ∨ Specials.Valid b1 b2

theorem exists_readWith_eq (specialised : e.Specialised b1 b2) (payload : Bytes) :
    ∃ sp, e.readWith b1 b2 payload = e.read sp payload := by
  rcases specialised with rfl | valid
  · exact ⟨.standard, rfl⟩
  · obtain ⟨sp, checked⟩ := Specials.exists_ofBytes valid
    cases e with
    | utf8 => exact ⟨.standard, rfl⟩
    | lowerSpecial | lowerUpperDigitSpecial | firstToLowerSpecial | allToLowerSpecial =>
      exact ⟨sp, by simp [readWith, checked, bind, Except.bind]⟩

theorem readWith_eq_error (unspecialised : ¬ e.Specialised b1 b2) (payload : Bytes) :
    e.readWith b1 b2 payload = .error (.invalidSpecial (Specials.blamed b1 b2)) := by
  obtain ⟨packed, invalid⟩ := not_or.mp unspecialised
  have refused := Specials.ofBytes_eq_error invalid
  cases e with
  | utf8 => exact absurd rfl packed
  | lowerSpecial | lowerUpperDigitSpecial | firstToLowerSpecial | allToLowerSpecial =>
    simp [readWith, refused, bind, Except.bind]

end

/-- The three ways in which reading a payload ends. -/
theorem readWith_outcome (e : Encoding) (b1 b2 : UInt8) (payload : Bytes) :
    (e.Specialised b1 b2 ∧ e.Accepts payload ∧ ∃ text, e.readWith b1 b2 payload = .ok text) ∨
    (¬ e.Specialised b1 b2 ∧ e.readWith b1 b2 payload = .error (.invalidSpecial (Specials.blamed b1 b2))) ∨
    (e.Specialised b1 b2 ∧ ¬ e.Accepts payload ∧
      ∃ cause, e.readWith b1 b2 payload = .error (.malformed cause)) := by
  by_cases specialised : e.Specialised b1 b2
  · obtain ⟨sp, same⟩ := exists_readWith_eq specialised payload
    have accepted := exists_read_iff e sp payload
    rw [same]
    cases decoded : e.read sp payload with
    | ok text => exact .inl ⟨specialised, accepted.mp ⟨text, decoded⟩, text, rfl⟩
    | error err =>
      obtain ⟨cause, rfl⟩ := onlyMalformed_read e sp payload err decoded
      refine .inr (.inr ⟨specialised, ?_, cause, rfl⟩)
      rw [← accepted, decoded]
      rintro ⟨text, impossible⟩
      cases impossible
  · exact .inr (.inl ⟨specialised, readWith_eq_error specialised payload⟩)

end Encoding
end NamePack
