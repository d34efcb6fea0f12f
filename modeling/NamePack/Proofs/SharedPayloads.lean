import NamePack.Proofs.RoundTrips

/-!
# One payload read in several ways

What a payload spells under another encoding or other special characters. The encodings of five bits write the
same payloads, which differ in the case that is read from them only (`Encoder.payload_shared`). Other special
characters take the place of those that a payload was written with and change nothing else
(`Encoding.read_renamed`).
-/
namespace NamePack

/-! ## The encodings of five bits -/

namespace Encoding

/-- Folding changes nothing but the case. -/
theorem map_toLower_foldText? {e : Encoding} {cs ds : List Char} (folded : e.foldText? cs = some ds) :
    ds.map Char.toLower = cs.map Char.toLower := by
  cases cs with
  | nil => cases folded; rfl
  | cons c rest =>
    obtain ⟨d, first, rfl⟩ := Option.map_eq_some_iff.mp folded
    have head : d.toLower = c.toLower := by
      cases e with
      | utf8 | lowerSpecial | lowerUpperDigitSpecial => rw [← Option.some.inj first]
      | allToLowerSpecial => rw [← Option.some.inj first, Char.toLower_toLower_eq_toLower]
      | firstToLowerSpecial =>
        simp only [fold?, if_true, Option.ite_none_right_eq_some, Option.some.injEq] at first
        rw [← first.2, Char.toLower_toLower_eq_toLower]
    have later : ∀ c, (e.foldLater c).toLower = c.toLower := by
      intro c
      cases e <;> simp [foldLater, Char.toLower_toLower_eq_toLower]
    simp [head, later]

section
variable {e : Encoding} {sp : Specials} {text : String} {payload : Bytes} (five : e.width? = some 5)
include five

theorem spells_five : e.Spells sp = lowerSpecial.Spells sp := by
  cases e with
  | utf8 | lowerUpperDigitSpecial => cases five
  | lowerSpecial | firstToLowerSpecial | allToLowerSpecial => rfl

/-- What is written in five bits is written in lower case by `lowerSpecial`. -/
theorem write_lowered (written : e.write sp text = .ok payload) :
    lowerSpecial.write sp (text.map Char.toLower) = .ok payload := by
  obtain ⟨ds, ks, folded, spells, rfl⟩ := (write_ok_iff five).mp written
  -- The alphabet has no capitals, so what was looked up is its own lower case.
  have lowered : ds = text.toList.map Char.toLower := by
    rw [← map_toLower_foldText? folded, (map_toLower_eq_iff ds).mpr]
    exact fun c member => not_isUpper_five (spells.five five c member)
  rw [spells_five five] at spells
  refine (write_ok_iff rfl).mpr ⟨ds, ks, ?_, spells, rfl⟩
  rw [String.toList_map, ← lowered]
  cases ds <;> simp [foldText?, fold?, map_foldLater]

theorem read_five_ok_iff :
    e.read sp payload = .ok text ↔
      ∃ plain, lowerSpecial.read sp payload = .ok plain ∧ text = String.ofList (e.restoreCase plain.toList) := by
  rw [read_ok_iff five, spells_five five]
  simp only [read_ok_iff (show lowerSpecial.width? = some 5 from rfl)]
  constructor
  · rintro ⟨ks, ds, unpacked, spells, rfl⟩
    refine ⟨_, ⟨ks, ds, unpacked, spells, rfl⟩, ?_⟩
    rw [String.toList_ofList]
    rfl
  · rintro ⟨_, ⟨ks, ds, unpacked, spells, rfl⟩, rfl⟩
    refine ⟨ks, ds, unpacked, spells, ?_⟩
    rw [String.toList_ofList]
    rfl

end

theorem restoreCase_firstToLowerSpecial (cs : List Char) :
    firstToLowerSpecial.restoreCase cs = cs.modifyHead Char.toUpper := by
  cases cs <;> rfl

end Encoding

namespace Encoder

/-- A name that is encoded in five bits a code has the payload of its lower case under `lowerSpecial`. Read back,
    a payload is accepted under all three encodings or none. It spells the same text under two of them, and
    under `firstToLowerSpecial` that text with its first character in upper case. -/
theorem payload_shared (enc : Encoder) :
    (∀ (e : Encoding) (text : String) (r : Record), e.width? = some 5 → enc.encodeAs e text = .ok r →
      enc.encodeAs .lowerSpecial (text.map Char.toLower) =
        .ok { r with text := text.map Char.toLower, encoding := .lowerSpecial }) ∧
    ∀ payload : Bytes,
      (∃ text, (Encoding.lowerSpecial).read enc.specials payload = .ok text ∧
        (Encoding.allToLowerSpecial).read enc.specials payload = .ok text ∧
        (Encoding.firstToLowerSpecial).read enc.specials payload =
          .ok (String.ofList (text.toList.modifyHead Char.toUpper))) ∨
      ∀ e : Encoding, e.width? = some 5 → ∃ err, e.read enc.specials payload = .error err := by
  refine ⟨?_, ?_⟩
  · intro e text r five encoded
    rw [encodeAs_eq] at encoded ⊢
    rw [Text.utf8ByteSize_map_toLower]
    split_ifs at encoded ⊢
    obtain ⟨payload, written, rfl⟩ := write_ok_iff.mp encoded
    exact write_ok_iff.mpr ⟨payload, Encoding.write_lowered five written, rfl⟩
  · intro payload
    cases decoded : (Encoding.lowerSpecial).read enc.specials payload with
    | ok text =>
      refine .inl ⟨text, rfl, ?_, ?_⟩
      · refine (Encoding.read_five_ok_iff rfl).mpr ⟨text, decoded, ?_⟩
        exact String.ofList_toList.symm
      · refine (Encoding.read_five_ok_iff rfl).mpr ⟨text, decoded, ?_⟩
        rw [Encoding.restoreCase_firstToLowerSpecial]
    | error err =>
      refine .inr ?_
      intro e five
      cases other : e.read enc.specials payload with
      | error err' => exact ⟨err', rfl⟩
      | ok text =>
        obtain ⟨plain, read, -⟩ := (Encoding.read_five_ok_iff five).mp other
        rw [decoded] at read
        cases read

/-- `A._` and `a._` share a payload; a code that stands for no character is refused under all three encodings. -/
theorem payload_shared_capital :
    ((Encoding.firstToLowerSpecial).width? = some 5 ∧
      (ofSpecials .standard).encodeAs .firstToLowerSpecial "A._" =
        .ok ⟨"A._", .firstToLowerSpecial, 46, 95, [0x03, 0x5b]⟩) ∧
    (ofSpecials .standard).encodeAs .lowerSpecial ("A._".map Char.toLower) =
      .ok ⟨"A._".map Char.toLower, .lowerSpecial, 46, 95, [0x03, 0x5b]⟩ ∧
    (Encoding.firstToLowerSpecial).read .standard [0x03, 0x5b] =
      .ok (String.ofList ("a._".toList.modifyHead Char.toUpper)) ∧
    ∃ err, (Encoding.allToLowerSpecial).read .standard [0x7c] = .error err := by
  have encoded : (ofSpecials .standard).encodeAs .firstToLowerSpecial "A._" =
      .ok ⟨"A._", .firstToLowerSpecial, 46, 95, [0x03, 0x5b]⟩ := by cbv
  have decoded : (Encoding.lowerSpecial).read .standard [0x03, 0x5b] = .ok "a._" := by cbv
  have unassigned : (Encoding.lowerSpecial).read .standard [0x7c] =
      .error (.malformed (.unassignedCode 31 .lowerSpecial)) := by cbv
  obtain ⟨lowered, read⟩ := payload_shared (ofSpecials .standard)
  refine ⟨⟨rfl, encoded⟩, lowered _ _ _ rfl encoded, ?_, ?_⟩
  · rcases read [0x03, 0x5b] with ⟨text, plain, -, capital⟩ | refused
    · obtain rfl := Except.ok.inj (decoded.symm.trans plain)
      exact capital
    · obtain ⟨err, failed⟩ := refused .lowerSpecial rfl
      cases decoded.symm.trans failed
  · rcases read [0x7c] with ⟨text, plain, -, -⟩ | refused
    · cases unassigned.symm.trans plain
    · exact refused .allToLowerSpecial rfl

end Encoder

/-! ## Other special characters -/

namespace Specials

/-- A character with the special ones of a pair replaced by those of another, first by first and second by
    second. -/
def rename (sp sp' : Specials) (c : Char) : Char :=
  if c = sp.first then sp'.first else if c = sp.second then sp'.second else c

theorem rename_first (sp sp' : Specials) : sp.rename sp' sp.first = sp'.first := if_pos rfl

theorem rename_second (sp sp' : Specials) : sp.rename sp' sp.second = sp'.second := by
  rw [rename, if_neg sp.first_ne_second.symm, if_pos rfl]

theorem rename_of_not_contains {sp : Specials} {c : Char} (sp' : Specials) (plain : sp.contains c = false) :
    sp.rename sp' c = c := by
  simp only [contains, Bool.or_eq_false_iff, beq_eq_false_iff_ne] at plain
  rw [rename, if_neg plain.1, if_neg plain.2]

theorem rename_of_isAlphanum {c : Char} (sp sp' : Specials) (alphanum : c.isAlphanum = true) : sp.rename sp' c = c :=
  rename_of_not_contains sp' (not_contains_of_isAlphanum alphanum)

theorem contains_rename {sp : Specials} {c : Char} (sp' : Specials) (special : sp.contains c = true) :
    sp'.contains (sp.rename sp' c) = true := by
  rw [contains_iff] at special ⊢
  rcases special with rfl | rfl
  · exact .inl (sp.rename_first sp')
  · exact .inr (sp.rename_second sp')

/-- Upper case neither takes a special character away nor brings one in. -/
theorem rename_toUpper (sp sp' : Specials) (c : Char) : sp.rename sp' c.toUpper = (sp.rename sp' c).toUpper := by
  by_cases special : sp.contains c = true
  · rw [toUpper_of_contains special, toUpper_of_contains (contains_rename sp' special)]
  · have kept : sp.rename sp' c = c := rename_of_not_contains sp' (by simpa using special)
    by_cases lower : c.isLower = true
    · have letter : c.toUpper.isAlphanum = true := isAlphanum_of_isUpper (isUpper_toUpper lower)
      rw [kept, sp.rename_of_isAlphanum sp' letter]
    · have same : c.toUpper = c := Char.toUpper_eq_of_not_isLower lower
      rw [same, kept, same]

end Specials

namespace Alphabet
variable (sp sp' : Specials) (k : UInt8)

theorem symbol5?_rename : symbol5? sp' k = (symbol5? sp k).map (sp.rename sp') := by
  unfold symbol5?
  split_ifs with letter is_first is_second
  · have lower := (code_lower letter).1
    rw [Option.map_some, sp.rename_of_isAlphanum sp' (isAlphanum_of_isLower lower)]
  · rw [Option.map_some, sp.rename_first]
  · rw [Option.map_some, sp.rename_second]
  · rfl

theorem symbol6?_rename : symbol6? sp' k = (symbol6? sp k).map (sp.rename sp') := by
  unfold symbol6?
  split_ifs with below_upper below_digit below_special is_first is_second
  · have lower := (code_lower (show k < special1Code5 from below_upper)).1
    rw [Option.map_some, sp.rename_of_isAlphanum sp' (isAlphanum_of_isLower lower)]
  · have upper := (code_upper below_upper below_digit).2.1
    rw [Option.map_some, sp.rename_of_isAlphanum sp' (isAlphanum_of_isUpper upper)]
  · have digit := (code_digit below_digit below_special).2.1
    rw [Option.map_some, sp.rename_of_isAlphanum sp' (isAlphanum_of_isDigit digit)]
  · rw [Option.map_some, sp.rename_first]
  · rw [Option.map_some, sp.rename_second]
  · rfl

end Alphabet

namespace Encoding

theorem symbolOf_rename (e : Encoding) (sp sp' : Specials) (k : UInt8) :
    e.symbolOf sp' k = (e.symbolOf sp k).map (sp.rename sp') := by
  have symbol : e.symbol? sp' k = (e.symbol? sp k).map (sp.rename sp') := by
    cases e with
    | utf8 => rfl
    | lowerUpperDigitSpecial => exact Alphabet.symbol6?_rename sp sp' k
    | lowerSpecial | firstToLowerSpecial | allToLowerSpecial => exact Alphabet.symbol5?_rename sp sp' k
  rw [symbolOf, symbolOf, symbol]
  cases e.symbol? sp k <;> rfl

theorem restoreCase_rename (e : Encoding) (sp sp' : Specials) (cs : List Char) :
    e.restoreCase (cs.map (sp.rename sp')) = (e.restoreCase cs).map (sp.rename sp') := by
  cases e with
  | utf8 | lowerSpecial | lowerUpperDigitSpecial | allToLowerSpecial => cases cs <;> rfl
  | firstToLowerSpecial =>
    simp only [restoreCase_firstToLowerSpecial]
    cases cs with
    | nil => rfl
    | cons c rest => simp [sp.rename_toUpper]

theorem read_rename {e : Encoding} (packed : e ≠ utf8) (sp sp' : Specials) (payload : Bytes) :
    e.read sp' payload = (e.read sp payload).map fun text => text.map (sp.rename sp') := by
  cases wide : e.width? with
  | none => exact absurd (eq_utf8_of_width? wide) packed
  | some width =>
    simp only [read, wide, mapM_eq_map (symbolOf_rename e sp sp')]
    -- Both runs go through the same two steps, and none of these fails for special characters.
    cases Bits.unpack width payload with
    | error err => rfl
    | ok codes =>
      simp only [bind, Except.bind]
      cases codes.mapM (e.symbolOf sp) with
      | error err => rfl
      | ok cs =>
        have text : String.ofList (e.restoreCase (cs.map (sp.rename sp'))) =
            (String.ofList (e.restoreCase cs)).map (sp.rename sp') := by
          rw [← String.toList_inj, String.toList_map, String.toList_ofList, String.toList_ofList, restoreCase_rename]
        exact congrArg Except.ok text

/-- With other special characters a packed payload is read alike, up to the special characters of the text: with
    the same error, or as the same text with each of them renamed. -/
theorem read_renamed {e : Encoding} (packed : e ≠ utf8) (sp sp' : Specials) (payload : Bytes) :
    e.read sp' payload = (e.read sp payload).map (fun text => text.map (sp.rename sp')) ∧
    e.readWith sp'.firstByte sp'.secondByte payload =
      (e.readWith sp.firstByte sp.secondByte payload).map fun text => text.map (sp.rename sp') := by
  rw [readWith_specials, readWith_specials]
  exact ⟨read_rename packed sp sp' payload, read_rename packed sp sp' payload⟩

/-- With the two characters swapped, full stops and underscores change places. -/
theorem read_renamed_swapped : lowerSpecial ≠ utf8 ∧
    lowerSpecial.read .standard [0x83, 0x41, 0xd8, 0x80] = .ok "a.b_c" ∧
    lowerSpecial.read { first := '_', second := '.' } [0x83, 0x41, 0xd8, 0x80] = .ok "a_b.c" := by
  have decoded : lowerSpecial.read .standard [0x83, 0x41, 0xd8, 0x80] = .ok "a.b_c" := by cbv
  have renamed := (read_renamed (e := lowerSpecial) (by decide) .standard { first := '_', second := '.' }
    [0x83, 0x41, 0xd8, 0x80]).1
  rw [decoded] at renamed
  exact ⟨by decide, decoded, renamed.trans (by cbv)⟩

end Encoding
end NamePack
