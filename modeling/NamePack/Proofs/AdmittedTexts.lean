import NamePack.Proofs.RoundTrips

/-!
# Texts that an encoding takes

Which texts fit an encoding, said on their characters alone: the counts of a census decide it for each alphabet
(`Census.fits_alphabets`). A text with a foreign character is refused for the first of them, as it stands in the
text, and any other is written as the codes of its folded characters (`Encoder.encodeAs_firstForeign`).
-/
namespace NamePack

/-! ## Alphabets as sets -/

theorem mem_Icc_lower (c : Char) : c ∈ Set.Icc 'a' 'z' ↔ c.isLower = true := by
  simp [Char.isLower, Set.mem_Icc, Char.le_def]

theorem mem_Icc_upper (c : Char) : c ∈ Set.Icc 'A' 'Z' ↔ c.isUpper = true := by
  simp [Char.isUpper, Set.mem_Icc, Char.le_def]

theorem mem_Icc_digit (c : Char) : c ∈ Set.Icc '0' '9' ↔ c.isDigit = true := by
  simp [Char.isDigit, Set.mem_Icc, Char.le_def]

namespace Encoding

/-- The characters that an encoding takes behind the first of a text. -/
def alphabet (e : Encoding) (sp : Specials) : Set Char :=
  match e with
  | utf8 => Set.univ
  | lowerSpecial | firstToLowerSpecial => Set.Icc 'a' 'z' ∪ {sp.first, sp.second}
  | allToLowerSpecial => Set.Icc 'A' 'Z' ∪ Set.Icc 'a' 'z' ∪ {sp.first, sp.second}
  | lowerUpperDigitSpecial => Set.Icc 'A' 'Z' ∪ Set.Icc 'a' 'z' ∪ Set.Icc '0' '9' ∪ {sp.first, sp.second}

theorem mem_alphabet_iff (e : Encoding) (sp : Specials) (c : Char) : c ∈ e.alphabet sp ↔ e.admits sp 1 c = true := by
  have special : c ∈ ({sp.first, sp.second} : Set Char) ↔ sp.contains c = true := (sp.contains_iff c).symm
  cases e with
  | utf8 => simp [alphabet, admits]
  | lowerSpecial | firstToLowerSpecial =>
    simp only [alphabet, admits, Set.mem_union, mem_Icc_lower, special, Nat.one_ne_zero, if_false, Bool.or_eq_true]
  | allToLowerSpecial =>
    simp only [alphabet, admits, Set.mem_union, mem_Icc_lower, mem_Icc_upper, special, Char.isAlpha, Bool.or_eq_true]
  | lowerUpperDigitSpecial =>
    simp only [alphabet, admits, Set.mem_union, mem_Icc_lower, mem_Icc_upper, mem_Icc_digit, special, Char.isAlphanum,
      Char.isAlpha, Bool.or_eq_true]

end Encoding

/-! ## What a census decides -/

namespace Census

theorem total_foldl (sp : Specials) (s : Census) (cs : List Char) :
    (cs.foldl (fun s c => s.add (sp.classOf c)) s).total = s.total + cs.length := by
  induction cs generalizing s with
  | nil => rfl
  | cons c rest ih =>
    rw [List.foldl_cons, ih, total_add, List.length_cons]
    omega

/-- Every character is counted once. -/
theorem total_ofText (sp : Specials) (text : String) : (ofText sp text).total = text.length := by
  have start : empty.total = 0 := rfl
  rw [ofText, total_foldl, String.length_toList, start, Nat.zero_add]

theorem fits_iff_alphabet {e : Encoding} (anywhere : e ≠ .firstToLowerSpecial) (sp : Specials) (text : String) :
    (ofText sp text).fits e = true ↔ ∀ c ∈ text.toList, c ∈ e.alphabet sp := by
  rw [fits_iff, Encoding.admits_iff anywhere]
  simp only [Encoding.mem_alphabet_iff, anywhere, false_implies, and_true]

theorem fits_firstToLowerSpecial_iff (sp : Specials) (text : String) :
    (ofText sp text).fits .firstToLowerSpecial = true ↔ ∃ c rest, text.toList = c :: rest ∧ c ∈ Set.Icc 'A' 'Z' ∧
      ∀ d ∈ rest, d ∈ (Encoding.firstToLowerSpecial).alphabet sp := by
  rw [fits_iff]
  cases text.toList with
  | nil => simp
  | cons c rest =>
    have first : (Encoding.firstToLowerSpecial).admits sp 0 c = true ↔ c ∈ Set.Icc 'A' 'Z' := (mem_Icc_upper c).symm
    simp [Encoding.admits_cons, first, Encoding.mem_alphabet_iff]

/-- What fits any packed encoding fits the one with the largest alphabet. -/
theorem fits_largest {s : Census} {e : Encoding} (packed : e ≠ .utf8) (fits : s.fits e = true) :
    s.fits .lowerUpperDigitSpecial = true := by
  cases e with
  | utf8 => exact absurd rfl packed
  | lowerSpecial | lowerUpperDigitSpecial | firstToLowerSpecial | allToLowerSpecial => simp_all [Census.fits]

/-- From the counts alone it is known in which alphabets a text is written. Every character is counted once, and
    nothing but plain UTF-8 fits exactly where one is in no alphabet. -/
theorem fits_alphabets (sp : Specials) (text : String) :
    ((ofText sp text).fits .lowerSpecial = true ↔
      ∀ c ∈ text.toList, c ∈ Set.Icc 'a' 'z' ∪ {sp.first, sp.second}) ∧
    ((ofText sp text).fits .firstToLowerSpecial = true ↔
      ∃ c rest, text.toList = c :: rest ∧ c ∈ Set.Icc 'A' 'Z' ∧
        ∀ d ∈ rest, d ∈ Set.Icc 'a' 'z' ∪ {sp.first, sp.second}) ∧
    ((ofText sp text).fits .allToLowerSpecial = true ↔
      ∀ c ∈ text.toList, c ∈ Set.Icc 'A' 'Z' ∪ Set.Icc 'a' 'z' ∪ {sp.first, sp.second}) ∧
    ((ofText sp text).fits .lowerUpperDigitSpecial = true ↔
      ∀ c ∈ text.toList, c ∈ Set.Icc 'A' 'Z' ∪ Set.Icc 'a' 'z' ∪ Set.Icc '0' '9' ∪ {sp.first, sp.second}) ∧
    (ofText sp text).lower + (ofText sp text).upper + (ofText sp text).digit + (ofText sp text).special +
      (ofText sp text).other = text.length ∧
    ((∀ e, (ofText sp text).fits e = true ↔ e = .utf8) ↔
      ∃ c ∈ text.toList, c ∉ Set.Icc 'A' 'Z' ∪ Set.Icc 'a' 'z' ∪ Set.Icc '0' '9' ∪ {sp.first, sp.second}) := by
  have largest := fits_iff_alphabet (e := .lowerUpperDigitSpecial) (by decide) sp text
  refine ⟨fits_iff_alphabet (by decide) sp text, fits_firstToLowerSpecial_iff sp text,
    fits_iff_alphabet (by decide) sp text, largest, total_ofText sp text, ?_⟩
  constructor
  · intro only
    by_contra every
    push Not at every
    exact absurd ((only .lowerUpperDigitSpecial).mp (largest.mpr every)) (by decide)
  · rintro ⟨c, member, foreign⟩ e
    constructor
    · intro fits
      by_contra packed
      exact foreign (largest.mp (fits_largest packed fits) c member)
    · rintro rfl
      rfl

/-- A dash that is no special character leaves plain UTF-8 alone. -/
theorem fits_alphabets_dash :
    (ofText .standard "A.b").fits .firstToLowerSpecial = true ∧
    ∀ e, (ofText .standard "A.b-9").fits e = true ↔ e = .utf8 := by
  constructor
  · refine (fits_alphabets .standard "A.b").2.1.mpr ⟨'A', ['.', 'b'], rfl, by decide, ?_⟩
    simp [Specials.standard, Char.le_def]
  · refine (fits_alphabets .standard "A.b-9").2.2.2.2.2.mpr ⟨'-', by simp, ?_⟩
    simp [Specials.standard, Char.le_def]

end Census

/-! ## The first foreign character -/

namespace Encoding

/-- The first character of a text that an encoding does not take where it stands. -/
def FirstForeign (e : Encoding) (sp : Specials) (cs : List Char) (i : Nat) (c : Char) : Prop :=
  cs[i]? = some c ∧ e.admits sp i c = false ∧ ∀ j < i, ∀ d, cs[j]? = some d → e.admits sp j d = true

/-- The character whose code stands for the one at position `i` of a text. -/
def folded (e : Encoding) (i : Nat) (c : Char) : Char :=
  match e with
  | allToLowerSpecial => c.toLower
  | firstToLowerSpecial => if i = 0 then c.toLower else c
  | utf8 | lowerSpecial | lowerUpperDigitSpecial => c

/-- A text with any foreign character has a first one. -/
theorem exists_firstForeign_iff (e : Encoding) (sp : Specials) (cs : List Char) :
    (∃ i c, e.FirstForeign sp cs i c) ↔ ∃ i c, cs[i]? = some c ∧ e.admits sp i c = false := by
  classical
  constructor
  · rintro ⟨i, c, found, foreign, -⟩
    exact ⟨i, c, found, foreign⟩
  · intro foreign
    obtain ⟨c, found, refused⟩ := Nat.find_spec foreign
    refine ⟨Nat.find foreign, c, found, refused, ?_⟩
    intro j before d at_j
    by_contra not_taken
    exact Nat.find_min foreign before ⟨d, at_j, by simpa using not_taken⟩

theorem codeAt_error_iff {e : Encoding} {sp : Specials} {i : Nat} {c : Char} {err : Error} (packed : e ≠ utf8) :
    e.codeAt sp c i = .error err ↔ e.admits sp i c = false ∧ .unsupported c e = err := by
  rw [← isSome_code?_fold? packed]
  unfold codeAt
  cases (e.fold? i c).bind (e.code? sp) <;> simp

theorem code?_of_codeAt {e : Encoding} {sp : Specials} {i : Nat} {c : Char} {k : UInt8}
    (coded : e.codeAt sp c i = .ok k) : e.code? sp (e.folded i c) = some k := by
  obtain ⟨d, fold, named⟩ := (codeAt_ok_iff ..).mp coded
  have same : e.folded i c = d := by
    cases e with
    | utf8 | lowerSpecial | lowerUpperDigitSpecial | allToLowerSpecial => exact Option.some.inj fold
    | firstToLowerSpecial =>
      by_cases first : i = 0
      · simp only [fold?, first, if_true, Option.ite_none_right_eq_some, Option.some.injEq] at fold
        simp [folded, first, fold.2]
      · simpa [fold?, folded, first] using fold
  rw [same]
  exact (code?_eq_some_iff ..).mpr named

section
variable {e : Encoding} {sp : Specials} {width : Nat} {text : String} (packed : e.width? = some width)
include packed

theorem write_error_iff (err : Error) :
    e.write sp text = .error err ↔ ∃ i c, e.FirstForeign sp text.toList i c ∧ err = .unsupported c e := by
  have coded : e ≠ utf8 := by rintro rfl; cases packed
  simp only [write, packed, map_error_iff, codes, mapM_error_iff_getElem?]
  -- The run is over numbered characters, each of which bears the position where it is found.
  simp only [List.getElem?_zipIdx, Nat.zero_add, Option.map_eq_some_iff, codeAt_error_iff coded,
    exists_codeAt_iff coded, FirstForeign]
  constructor
  · rintro ⟨i, _, ⟨c, found, rfl⟩, ⟨foreign, rfl⟩, earlier⟩
    refine ⟨i, c, ⟨found, foreign, ?_⟩, rfl⟩
    intro j before d at_j
    exact earlier j before _ ⟨d, at_j, rfl⟩
  · rintro ⟨i, c, ⟨found, foreign, earlier⟩, rfl⟩
    refine ⟨i, _, ⟨c, found, rfl⟩, ⟨foreign, rfl⟩, ?_⟩
    rintro j before _ ⟨d, at_j, rfl⟩
    exact earlier j before d at_j

theorem codes_of_write {payload : Bytes} (written : e.write sp text = .ok payload) :
    ∃ codes : Bytes, text.toList.zipIdx.map (fun p => e.code? sp (e.folded p.2 p.1)) = codes.map some ∧
      payload = Bits.pack width codes := by
  simp only [write, packed, map_ok_iff, codes, mapM_ok_iff] at written
  obtain ⟨ks, coded, rfl⟩ := written
  refine ⟨ks, ?_, rfl⟩
  rw [← List.forall₂_eq_eq_eq, List.forall₂_map_left_iff, List.forall₂_map_right_iff]
  exact coded.imp fun p k => code?_of_codeAt

end
end Encoding

namespace Encoder

/-- Encoding with a given encoding refuses names of 32767 bytes and more, whatever they consist of. Plain UTF-8
    takes all others as they are; a packed encoding fails exactly if there is a foreign character, of which it
    names the first, unfolded, and else packs the code of every folded character. -/
theorem encodeAs_firstForeign (enc : Encoder) (e : Encoding) (text : String) :
    (32767 ≤ text.utf8ByteSize → enc.encodeAs e text = .error (.tooLong text.utf8ByteSize)) ∧
    (text.utf8ByteSize < 32767 →
      (e = .utf8 → enc.encodeAs e text =
        .ok ⟨text, e, enc.specials.firstByte, enc.specials.secondByte, Text.utf8 text⟩) ∧
      ∀ width, e.width? = some width →
        ((∃ err, enc.encodeAs e text = .error err) ↔
          ∃ (i : Nat) (c : Char), text.toList[i]? = some c ∧ e.admits enc.specials i c = false) ∧
        (∀ err, enc.encodeAs e text = .error err ↔
          ∃ i c, e.FirstForeign enc.specials text.toList i c ∧ err = .unsupported c e) ∧
        ∀ r, enc.encodeAs e text = .ok r → ∃ codes : Bytes,
          text.toList.zipIdx.map (fun p => e.code? enc.specials (e.folded p.2 p.1)) = codes.map some ∧
          r = ⟨text, e, enc.specials.firstByte, enc.specials.secondByte, Bits.pack width codes⟩) := by
  refine ⟨?_, ?_⟩
  · intro long
    rw [encodeAs_eq, if_pos long]
  · intro short
    simp only [encodeAs_eq, if_neg (Nat.not_le_of_lt short)]
    refine ⟨?_, ?_⟩
    · rintro rfl
      rfl
    · intro width packed
      have refused : ∀ err, enc.write e text = .error err ↔
          ∃ i c, e.FirstForeign enc.specials text.toList i c ∧ err = .unsupported c e := by
        intro err
        rw [write, map_error_iff, Encoding.write_error_iff packed]
      refine ⟨?_, refused, ?_⟩
      · rw [← Encoding.exists_firstForeign_iff]
        simp only [refused]
        constructor
        · rintro ⟨_, i, c, first, -⟩
          exact ⟨i, c, first⟩
        · rintro ⟨i, c, first⟩
          exact ⟨_, i, c, first, rfl⟩
      · intro r written
        obtain ⟨payload, spelt, rfl⟩ := write_ok_iff.mp written
        obtain ⟨codes, coded, rfl⟩ := Encoding.codes_of_write packed spelt
        exact ⟨codes, coded, rfl⟩

/-- Too many dashes are too long; of `AbC-` the second capital is named; `aB` has the codes of `ab`. -/
theorem encodeAs_firstForeign_capital :
    (32767 ≤ (String.ofList (List.replicate 32767 '-')).utf8ByteSize ∧ "AbC-".utf8ByteSize < 32767 ∧
      "aB".utf8ByteSize < 32767 ∧ (Encoding.firstToLowerSpecial).width? = some 5 ∧
      (Encoding.allToLowerSpecial).width? = some 5) ∧
    (∃ size, (ofSpecials .standard).encodeAs .lowerSpecial (String.ofList (List.replicate 32767 '-')) =
      .error (.tooLong size)) ∧
    (ofSpecials .standard).encodeAs .firstToLowerSpecial "AbC-" = .error (.unsupported 'C' .firstToLowerSpecial) ∧
    (∃ r, (ofSpecials .standard).encodeAs .allToLowerSpecial "aB" = .ok r ∧ r.payload = Bits.pack 5 [0, 1]) := by
  have long : 32767 ≤ (String.ofList (List.replicate 32767 '-')).utf8ByteSize := by
    have length := Text.length_le_utf8ByteSize (String.ofList (List.replicate 32767 '-'))
    rwa [String.length_ofList, List.length_replicate] at length
  have short : "AbC-".utf8ByteSize < 32767 := by decide
  have short' : "aB".utf8ByteSize < 32767 := by decide
  refine ⟨⟨long, short, short', rfl, rfl⟩, ⟨_, (encodeAs_firstForeign ..).1 long⟩, ?_, ?_⟩
  · have first : (Encoding.firstToLowerSpecial).FirstForeign .standard "AbC-".toList 2 'C' := by
      refine ⟨rfl, by decide, ?_⟩
      intro j before d at_j
      interval_cases j
      · cases at_j
        decide
      · cases at_j
        decide
    obtain ⟨-, packed⟩ := (encodeAs_firstForeign (ofSpecials .standard) .firstToLowerSpecial "AbC-").2 short
    exact ((packed 5 rfl).2.1 _).mpr ⟨2, 'C', first, rfl⟩
  · have encoded : (ofSpecials .standard).encodeAs .allToLowerSpecial "aB" =
        .ok ⟨"aB", .allToLowerSpecial, 46, 95, [0x80, 0x20]⟩ := by cbv
    obtain ⟨-, packed⟩ := (encodeAs_firstForeign (ofSpecials .standard) .allToLowerSpecial "aB").2 short'
    obtain ⟨codes, coded, same⟩ := (packed 5 rfl).2.2 _ encoded
    have folded : codes = [0, 1] := List.map_injective_iff.mpr (Option.some_injective _) coded.symm
    exact ⟨_, encoded, by rw [same, folded]⟩

end Encoder
end NamePack
