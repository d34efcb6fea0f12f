import NamePack.Proofs.Alphabets
import NamePack.Proofs.FailingRuns
import NamePack.Proofs.PackedCodes

/-!
# Payloads written and read

What an encoding writes and reads, said on characters and codes: `write_ok_iff` and `read_ok_iff` for
the packed encodings. From these, reading gives back what was written up to the case that the
encoding gives up (`read_write`), and writing what was read gives the same payload (`write_read`).
-/
namespace NamePack

namespace Text

/-! ## UTF-8 -/

theorem ofUtf8?_utf8 (s : String) : ofUtf8? (utf8 s) = some s := by
  have valid : ByteArray.IsValidUTF8 ⟨⟨utf8 s⟩⟩ := s.isValidUTF8
  rw [ofUtf8?, String.fromUTF8?, dif_pos valid]
  rfl

theorem utf8_of_ofUtf8? {bytes : Bytes} {s : String} (read : ofUtf8? bytes = some s) : utf8 s = bytes := by
  unfold ofUtf8? String.fromUTF8? at read
  split_ifs at read
  cases read
  rfl

theorem length_utf8 (s : String) : (utf8 s).length = s.utf8ByteSize := by
  rw [utf8, Array.length_toList]
  rfl

theorem length_le_utf8ByteSize (s : String) : s.length ≤ s.utf8ByteSize := by
  rw [← String.length_toList, ← String.utf8Len_toList]
  induction s.toList with
  | nil => exact Nat.zero_le _
  | cons c rest ih =>
    have some_byte := c.utf8Size_pos
    rw [String.utf8Len_cons, List.length_cons]
    omega

theorem utf8Size_toLower (c : Char) : c.toLower.utf8Size = c.utf8Size := by
  by_cases upper : c.isUpper = true
  · have ascii : c.toNat < 128 := ascii_of_isAlphanum (isAlphanum_of_isUpper upper)
    apply forall_ascii (P := fun c => c.toLower.utf8Size = c.utf8Size) _ ascii
    decide +kernel
  · rw [Char.toLower_eq_of_not_isUpper upper]

/-- A text in lower case takes as many bytes. -/
theorem utf8ByteSize_map_toLower (s : String) : (s.map Char.toLower).utf8ByteSize = s.utf8ByteSize := by
  rw [← String.utf8Len_toList, ← String.utf8Len_toList, String.toList_map]
  induction s.toList with
  | nil => rfl
  | cons c rest ih => rw [List.map_cons, String.utf8Len_cons, String.utf8Len_cons, ih, utf8Size_toLower]

end Text

namespace Encoding

/-! ## Folding -/

/-- The character that stands in the alphabet for one behind the first of a text. -/
def foldLater : Encoding → Char → Char
  | allToLowerSpecial, c => c.toLower
  | _, c => c

/-- The text that is looked up in the alphabet. -/
def foldText? (e : Encoding) : List Char → Option (List Char)
  | [] => some []
  | c :: rest => (e.fold? 0 c).map fun d => d :: rest.map e.foldLater

/-- What an encoding keeps of a text: all of it, but for the case that `allToLowerSpecial` gives up. -/
def kept (e : Encoding) (text : String) : String :=
  if e = allToLowerSpecial then text.map Char.toLower else text

theorem map_toLower_eq_iff (cs : List Char) : cs.map Char.toLower = cs ↔ ∀ c ∈ cs, ¬ c.isUpper = true := by
  have each : ∀ c : Char, c.toLower = c ↔ ¬ c.isUpper = true := by
    intro c
    constructor
    · intro same upper
      have lower : c.toLower.isLower = true := isLower_toLower upper
      rw [same] at lower
      exact Char.not_isLower_of_isUpper upper lower
    · exact Char.toLower_eq_of_not_isUpper
  induction cs with
  | nil => simp
  | cons c rest ih => simp only [List.map_cons, List.cons.injEq, List.forall_mem_cons, each, ih]

/-- Only upper-case letters are given up. -/
theorem kept_eq_iff (e : Encoding) (text : String) :
    e.kept text = text ↔ ¬ (e = allToLowerSpecial ∧ ∃ c ∈ text.toList, c.isUpper = true) := by
  unfold kept
  split_ifs with lossy
  · rw [← String.toList_inj, String.toList_map, map_toLower_eq_iff]
    simp [lossy]
  · simp [lossy]

theorem length_foldText? {e : Encoding} {cs ds : List Char} (folded : e.foldText? cs = some ds) :
    ds.length = cs.length := by
  cases cs with
  | nil => cases folded; rfl
  | cons c rest =>
    obtain ⟨d, -, rfl⟩ := Option.map_eq_some_iff.mp folded
    simp

theorem fold?_succ (e : Encoding) (i : Nat) (c : Char) : e.fold? (i + 1) c = some (e.foldLater c) := by
  cases e <;> rfl

theorem codeAt_ok_iff (e : Encoding) (sp : Specials) (c : Char) (i : Nat) (k : UInt8) :
    e.codeAt sp c i = .ok k ↔ ∃ d, e.fold? i c = some d ∧ e.symbol? sp k = some d := by
  simp only [← code?_eq_some_iff, ← Option.bind_eq_some_iff]
  unfold codeAt
  cases (e.fold? i c).bind (e.code? sp) <;> simp

/-- Behind the first character, folding does not look at the position. -/
theorem codes_later (e : Encoding) (sp : Specials) (cs : List Char) (i : Nat) (ks : Bytes) :
    List.Forall₂ (fun p k => e.codeAt sp p.1 p.2 = .ok k) (cs.zipIdx (i + 1)) ks ↔
      e.Spells sp (cs.map e.foldLater) ks := by
  induction cs generalizing i ks with
  | nil => simp [Spells]
  | cons c rest ih =>
    simp only [List.zipIdx_cons, List.forall₂_cons_left_iff, ih]
    simp only [codeAt_ok_iff, fold?_succ, Option.some.injEq, exists_eq_left', Spells, List.map_cons,
      List.forall₂_cons_left_iff]

/-- The codes of a text spell the folded text. -/
theorem codes_ok_iff (e : Encoding) (sp : Specials) (text : String) (ks : Bytes) :
    e.codes sp text = .ok ks ↔ ∃ ds, e.foldText? text.toList = some ds ∧ e.Spells sp ds ks := by
  rw [codes, mapM_ok_iff]
  cases text.toList with
  | nil => simp [foldText?, Spells]
  | cons c rest =>
    simp only [List.zipIdx_cons, List.forall₂_cons_left_iff, codes_later]
    simp only [codeAt_ok_iff, foldText?]
    constructor
    · rintro ⟨k, more, ⟨d, first, named⟩, spells, rfl⟩
      exact ⟨d :: rest.map e.foldLater, by simp [first], .cons named spells⟩
    · rintro ⟨ds, folded, spells⟩
      obtain ⟨d, first, rfl⟩ := Option.map_eq_some_iff.mp folded
      cases spells with
      | cons named spells => exact ⟨_, _, ⟨d, first, named⟩, spells, rfl⟩

/-! ## Writing and reading -/

theorem eq_utf8_of_width? {e : Encoding} (plain : e.width? = none) : e = utf8 := by
  cases e <;> simp [width?] at plain ⊢

theorem read_utf8_ok_iff {sp : Specials} {text : String} {payload : Bytes} :
    utf8.read sp payload = .ok text ↔ payload = Text.utf8 text := by
  simp only [read, width?]
  constructor
  · intro decoded
    cases spelt : Text.ofUtf8? payload with
    | none => simp [spelt] at decoded
    | some s =>
      simp only [spelt, Except.ok.injEq] at decoded
      rw [← decoded, Text.utf8_of_ofUtf8? spelt]
  · rintro rfl
    rw [Text.ofUtf8?_utf8]

section Packed
variable {e : Encoding} {sp : Specials} {width : Nat} {text : String} {payload : Bytes}

theorem write_ok_iff (packed : e.width? = some width) :
    e.write sp text = .ok payload ↔
      ∃ ds ks, e.foldText? text.toList = some ds ∧ e.Spells sp ds ks ∧ payload = Bits.pack width ks := by
  simp only [write, packed, map_ok_iff, codes_ok_iff]
  constructor
  · rintro ⟨ks, ⟨ds, folded, spells⟩, rfl⟩
    exact ⟨ds, ks, folded, spells, rfl⟩
  · rintro ⟨ds, ks, folded, spells, rfl⟩
    exact ⟨ks, ⟨ds, folded, spells⟩, rfl⟩

theorem read_ok_iff (packed : e.width? = some width) :
    e.read sp payload = .ok text ↔
      ∃ ks ds, Bits.unpack width payload = .ok ks ∧ e.Spells sp ds ks ∧ text = String.ofList (e.restoreCase ds) := by
  have symbolOf_ok_iff : ∀ k c, e.symbolOf sp k = .ok c ↔ e.symbol? sp k = some c := by
    intro k c
    unfold symbolOf
    cases e.symbol? sp k <;> simp
  simp only [read, packed, bind_ok_iff, mapM_ok_iff, symbolOf_ok_iff, pure, Except.pure, Except.ok.injEq]
  constructor
  · rintro ⟨ks, unpacked, ds, spells, rfl⟩
    exact ⟨ks, ds, unpacked, spells.flip, rfl⟩
  · rintro ⟨ks, ds, unpacked, spells, rfl⟩
    exact ⟨ks, unpacked, ds, spells.flip, rfl⟩

end Packed

theorem width_bounds {e : Encoding} {width : Nat} (packed : e.width? = some width) : 4 ≤ width ∧ width ≤ 8 := by
  cases e <;> simp [width?] at packed <;> omega

/-! ## Reading what was written -/

theorem map_foldLater {e : Encoding} (cased : e ≠ allToLowerSpecial) (cs : List Char) : cs.map e.foldLater = cs := by
  cases e with
  | allToLowerSpecial => exact absurd rfl cased
  | utf8 | lowerSpecial | lowerUpperDigitSpecial | firstToLowerSpecial => exact List.map_id' cs

/-- Restoring the case undoes the folding, where there is something to restore it from. -/
theorem restoreCase_foldText? {e : Encoding} {cs ds : List Char} (folded : e.foldText? cs = some ds) :
    e.restoreCase ds = if e = allToLowerSpecial then cs.map Char.toLower else cs := by
  cases cs with
  | nil => cases folded; cases e <;> rfl
  | cons c rest =>
    obtain ⟨d, first, rfl⟩ := Option.map_eq_some_iff.mp folded
    cases e with
    | allToLowerSpecial => cases first; rfl
    | firstToLowerSpecial =>
      simp only [fold?, ite_true, Option.ite_none_right_eq_some, Option.some.injEq] at first
      obtain ⟨upper, rfl⟩ := first
      have back : c.toLower.toUpper = c := by
        rw [Char.toUpper_toLower_eq_toUpper, Char.toUpper_eq_of_not_isLower (Char.not_isLower_of_isUpper upper)]
      simp [restoreCase, back, map_foldLater]
    | utf8 | lowerSpecial | lowerUpperDigitSpecial => cases first; simp [restoreCase, map_foldLater]

/-- What was written is read back, up to the case that the encoding gives up. -/
theorem read_write {e : Encoding} {sp : Specials} {text : String} {payload : Bytes}
    (written : e.write sp text = .ok payload) : e.read sp payload = .ok (e.kept text) := by
  cases packed : e.width? with
  | none =>
    obtain rfl := eq_utf8_of_width? packed
    exact read_utf8_ok_iff.mpr (Except.ok.inj written).symm
  | some width =>
    obtain ⟨ds, ks, folded, spells, rfl⟩ := (write_ok_iff packed).mp written
    obtain ⟨wide, narrow⟩ := width_bounds packed
    refine (read_ok_iff packed).mpr ⟨ks, ds, Bits.unpack_pack_of_lt wide narrow (spells.lt packed), spells, ?_⟩
    rw [← String.toList_inj, String.toList_ofList, restoreCase_foldText? folded, kept]
    split_ifs
    · rw [String.toList_map]
    · rfl

/-! ## Writing what was read -/

/-- A special character at the front, which `firstToLowerSpecial` reads but does not write. -/
def leadingSpecial? (e : Encoding) (sp : Specials) (cs : List Char) : Option Char :=
  match e, cs with
  | firstToLowerSpecial, c :: _ => if sp.contains c then some c else none
  | _, _ => none

/-- What stands in the five-bit alphabet is not in upper case. -/
theorem not_isUpper_five {sp : Specials} {c : Char} (five : c.isLower = true ∨ sp.contains c = true) :
    ¬ c.isUpper = true := by
  rcases five with lower | special
  · exact fun upper => Char.not_isLower_of_isUpper upper lower
  · simp [Specials.classes_of_contains special]

theorem toLower_five {sp : Specials} {c : Char} (five : c.isLower = true ∨ sp.contains c = true) : c.toLower = c :=
  Char.toLower_eq_of_not_isUpper (not_isUpper_five five)

/-- What is read has no case left that its encoding would give up. -/
theorem kept_of_read {e : Encoding} {sp : Specials} {text : String} {payload : Bytes}
    (decoded : e.read sp payload = .ok text) : e.kept text = text := by
  rw [kept_eq_iff]
  rintro ⟨rfl, c, member, upper⟩
  obtain ⟨ks, ds, -, spells, rfl⟩ := (read_ok_iff rfl).mp decoded
  rw [String.toList_ofList] at member
  exact not_isUpper_five (spells.five rfl c member) upper

/-- Folding undoes the restoring of case, unless a special character is first. -/
theorem foldText?_restoreCase {e : Encoding} {sp : Specials} {ds : List Char} {ks : Bytes} (spells : e.Spells sp ds ks)
    (clean : e.leadingSpecial? sp (e.restoreCase ds) = none) : e.foldText? (e.restoreCase ds) = some ds := by
  cases ds with
  | nil => cases e <;> rfl
  | cons c rest =>
    cases e with
    | allToLowerSpecial =>
      have cased : ∀ d ∈ c :: rest, ¬ d.isUpper = true := fun d member => not_isUpper_five (spells.five rfl d member)
      exact congrArg some ((map_toLower_eq_iff _).mpr cased)
    | firstToLowerSpecial =>
      have five := spells.five rfl c (by simp)
      have lower : c.isLower = true := by
        rcases five with lower | special
        · exact lower
        · simp [restoreCase, leadingSpecial?, Specials.toUpper_of_contains special, special] at clean
      have upper : c.toUpper.isUpper = true := isUpper_toUpper lower
      have back : c.toUpper.toLower = c := by rw [Char.toLower_toUpper_eq_toLower, toLower_five five]
      simp [restoreCase, foldText?, fold?, upper, back, map_foldLater]
    | utf8 | lowerSpecial | lowerUpperDigitSpecial => simp [restoreCase, foldText?, fold?, map_foldLater]

/-- A text with a special character at the front is refused where that character is named. -/
theorem write_leadingSpecial {e : Encoding} {sp : Specials} {text : String} {c : Char}
    (leading : e.leadingSpecial? sp text.toList = some c) : e.write sp text = .error (.unsupported c e) := by
  cases e with
  | utf8 | lowerSpecial | lowerUpperDigitSpecial | allToLowerSpecial => cases leading
  | firstToLowerSpecial =>
    cases chars : text.toList with
    | nil => simp [chars, leadingSpecial?] at leading
    | cons d rest =>
      simp only [chars, leadingSpecial?, Option.ite_none_right_eq_some, Option.some.injEq] at leading
      obtain ⟨special, rfl⟩ := leading
      have cased := (Specials.classes_of_contains special).2.1
      simp [write, width?, codes, chars, codeAt, fold?, cased, bind, Except.bind, Except.map]

/-- What was read is written as the same payload, unless a special character is first. -/
theorem write_read {e : Encoding} {sp : Specials} {text : String} {payload : Bytes}
    (decoded : e.read sp payload = .ok text) (clean : e.leadingSpecial? sp text.toList = none) :
    e.write sp text = .ok payload := by
  cases packed : e.width? with
  | none =>
    obtain rfl := eq_utf8_of_width? packed
    rw [read_utf8_ok_iff.mp decoded]
    rfl
  | some width =>
    obtain ⟨ks, ds, unpacked, spells, rfl⟩ := (read_ok_iff packed).mp decoded
    obtain ⟨wide, narrow⟩ := width_bounds packed
    rw [String.toList_ofList] at clean
    refine (write_ok_iff packed).mpr ⟨ds, ks, ?_, spells, ?_⟩
    · rw [String.toList_ofList, foldText?_restoreCase spells clean]
    · exact (Bits.pack_of_unpack (by omega) narrow unpacked).symm

end Encoding
end NamePack
