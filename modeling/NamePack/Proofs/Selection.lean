import NamePack.Proofs.PayloadSizes
import NamePack.Proofs.RoundTrips

/-!
# The encoding that is selected

The census against the encoder. An encoding fits a census exactly if encoding with it succeeds, but for
the empty text, which `firstToLowerSpecial` writes and does not fit. So the selected encoding is the first
in the order of preference that is allowed and succeeds, with this one exception (`select_isFirst`). It takes
the fewest bytes of all that are allowed and succeed (`encode_smallest`).
-/
namespace NamePack

namespace Encoding

/-- The first encoding in the order of preference of which something holds. -/
def IsFirst (p : Encoding → Prop) (e : Encoding) : Prop :=
  ∃ before after, preference = before ++ e :: after ∧ p e ∧ ∀ d ∈ before, ¬ p d

open Classical in
theorem isFirst_iff_find? (p : Encoding → Prop) (e : Encoding) :
    IsFirst p e ↔ preference.find? (fun d => decide (p d)) = some e := by
  rw [List.find?_eq_some_iff_append, IsFirst]
  simp only [decide_eq_true_eq, Bool.not_eq_true', decide_eq_false_iff_not]
  constructor
  · rintro ⟨before, after, split, holds, first⟩
    exact ⟨holds, before, after, split, first⟩
  · rintro ⟨holds, before, after, split, first⟩
    exact ⟨before, after, split, holds, first⟩

theorem IsFirst.unique {p : Encoding → Prop} {e d : Encoding} (first : IsFirst p e) (first' : IsFirst p d) :
    e = d := by
  classical
  rw [isFirst_iff_find?] at first first'
  exact Option.some.inj (first.symm.trans first')

theorem IsFirst.cost_le {p : Encoding → Prop} {e d : Encoding} (first : IsFirst p e) (holds : p d)
    (text : String) : e.cost text ≤ d.cost text := by
  obtain ⟨before, after, split, -, earlier⟩ := first
  have sorted := pairwise_cost text
  have member := mem_preference d
  rw [split] at sorted member
  rcases List.mem_append.mp member with front | back
  · exact absurd holds (earlier d front)
  · rcases List.mem_cons.mp back with rfl | behind
    · exact Nat.le_refl _
    · exact (List.pairwise_cons.mp (List.pairwise_append.mp sorted).2.1).1 d behind

end Encoding

namespace Encoder

/-- Encoding a text with an encoding succeeds. -/
def Writes (enc : Encoder) (text : String) (e : Encoding) : Prop := ∃ r, enc.encodeAs e text = .ok r

/-- The one text and encoding of which a census says too little: `firstToLowerSpecial` counts on a first
    character that the empty text does not have. -/
def Overlooked (text : String) (e : Encoding) : Prop := e = .firstToLowerSpecial ∧ text = ""

/-! ## Fitting and writing -/

section
variable (enc : Encoder) {text : String} (short : text.utf8ByteSize < 32767)
include short

theorem writes_iff (e : Encoding) : enc.Writes text e ↔ e.Admits enc.specials text.toList := by
  rw [← Encoding.exists_write_iff]
  simp only [Writes, encodeAs_eq, if_neg (Nat.not_le_of_lt short), write_ok_iff]
  constructor
  · rintro ⟨_, payload, packed, -⟩
    exact ⟨payload, packed⟩
  · rintro ⟨payload, packed⟩
    exact ⟨_, payload, packed, rfl⟩

theorem fits_iff_writes (e : Encoding) :
    (Census.ofText enc.specials text).fits e = true ↔ enc.Writes text e ∧ ¬ Overlooked text e := by
  have empty_iff : text.toList = [] ↔ text = "" := String.toList_eq_nil_iff
  rw [Census.fits_iff, writes_iff enc short, Overlooked, not_and, ne_eq, empty_iff]

/-- Every encoding writes the empty text. -/
theorem writes_empty (e : Encoding) (empty : text = "") : enc.Writes text e := by
  rw [writes_iff enc short, empty]
  simp [Encoding.Admits]

end

/-! ## Selecting -/

theorem isFirst_select (sp : Specials) (allowed : EncodingSet) (text : String) :
    Encoding.IsFirst (fun e => allowed.allows e = true ∧ (Census.ofText sp text).fits e = true)
      (select sp allowed text) := by
  cases found : Encoding.preference.find? fun e => allowed.allows e && (Census.ofText sp text).fits e with
  | none =>
    have refused := List.find?_eq_none.mp found .utf8 (by decide)
    simp [allowed.allows_utf8, Census.fits] at refused
  | some e =>
    have chosen : select sp allowed text = e := by simp [select, found]
    rw [chosen, Encoding.isFirst_iff_find?]
    simpa using found

theorem lowerSpecial_mem_of_split {before after : List Encoding} {e : Encoding}
    (split : Encoding.preference = before ++ e :: after) (member : Encoding.firstToLowerSpecial ∈ before) :
    Encoding.lowerSpecial ∈ before := by
  cases before with
  | nil => cases member
  | cons d more =>
    obtain ⟨rfl, -⟩ := List.cons.inj split
    exact List.mem_cons_self

/-- Below the size limit the census tells which encodings succeed, and the first of them that is allowed
    is selected, unless the text is empty, `firstToLowerSpecial` is allowed and the one before it is not. -/
theorem select_isFirst (enc : Encoder) {text : String} (short : text.utf8ByteSize < 32767) :
    (∀ e, (Census.ofText enc.specials text).fits e = true ↔ enc.Writes text e ∧ ¬ Overlooked text e) ∧
    Encoding.IsFirst (fun e => enc.allowed.allows e = true ∧ enc.Writes text e ∧ ¬ Overlooked text e)
      (select enc.specials enc.allowed text) ∧
    (Encoding.IsFirst (fun e => enc.allowed.allows e = true ∧ enc.Writes text e)
        (select enc.specials enc.allowed text) ↔
      ¬ (text = "" ∧ enc.allowed.allows .lowerSpecial = false ∧
        enc.allowed.allows .firstToLowerSpecial = true)) := by
  have fits := fits_iff_writes enc short
  have selected : Encoding.IsFirst (fun e => enc.allowed.allows e = true ∧ enc.Writes text e ∧ ¬ Overlooked text e)
      (select enc.specials enc.allowed text) := by
    simpa only [fits] using isFirst_select enc.specials enc.allowed text
  refine ⟨fits, selected, ?_, ?_⟩
  · rintro first ⟨empty, refused, allowed⟩
    have second : Encoding.IsFirst (fun e => enc.allowed.allows e = true ∧ enc.Writes text e) .firstToLowerSpecial :=
      ⟨[.lowerSpecial], _, rfl, ⟨allowed, writes_empty enc short _ empty⟩, by simp [refused]⟩
    obtain ⟨-, -, -, ⟨-, -, seen⟩, -⟩ := selected
    exact seen ⟨first.unique second, empty⟩
  · intro plain
    obtain ⟨before, after, split, ⟨allowed, writes, -⟩, earlier⟩ := selected
    refine ⟨before, after, split, ⟨allowed, writes⟩, ?_⟩
    rintro d member ⟨allowed_d, writes_d⟩
    have overlooked : Overlooked text d := by
      by_contra seen
      exact earlier d member ⟨allowed_d, writes_d, seen⟩
    obtain ⟨rfl, empty⟩ := overlooked
    -- The encoding before the overlooked one writes the empty text too, so it would have been taken.
    have front := lowerSpecial_mem_of_split split member
    refine plain ⟨empty, ?_, allowed_d⟩
    by_contra open_front
    refine earlier .lowerSpecial front ⟨by simpa using open_front, writes_empty enc short _ empty, ?_⟩
    simp [Overlooked]

/-- A name with a capital inside takes six bits where no case may be given up. -/
theorem select_isFirst_lossless : "aB".utf8ByteSize < 32767 ∧
    Encoding.IsFirst (fun e => EncodingSet.lossless.allows e = true ∧ (Encoder.mk .standard .lossless).Writes "aB" e)
      .lowerUpperDigitSpecial := by
  have short : "aB".utf8ByteSize < 32767 := by decide
  have chosen : select .standard .lossless "aB" = .lowerUpperDigitSpecial := by cbv
  have first := (select_isFirst ⟨.standard, .lossless⟩ short).2.2.mpr (by simp)
  rw [chosen] at first
  exact ⟨short, first⟩

/-- The empty text is written with the encoding for capitalised names, but plain UTF-8 is selected for it
    where that encoding alone is allowed. -/
theorem select_empty_capitalised :
    (Encoding.firstToLowerSpecial.flag).allows .firstToLowerSpecial = true ∧
    (Encoder.mk .standard Encoding.firstToLowerSpecial.flag).encodeAs .firstToLowerSpecial "" =
      .ok ⟨"", .firstToLowerSpecial, 46, 95, []⟩ ∧
    (Census.ofText .standard "").fits .firstToLowerSpecial = false ∧
    select .standard Encoding.firstToLowerSpecial.flag "" = .utf8 := by
  refine ⟨by decide, ?_, by cbv, by cbv⟩
  cbv

/-! ## The smallest payload -/

theorem length_of_encodeAs {enc : Encoder} {e : Encoding} {text : String} {r : Record}
    (encoded : enc.encodeAs e text = .ok r) : r.encoding = e ∧ r.payload.length = e.cost text := by
  obtain ⟨payload, packed, rfl⟩ := write_ok_iff.mp (write_of_encodeAs encoded)
  exact ⟨rfl, Encoding.length_write packed⟩

theorem cost_select_le (enc : Encoder) {text : String} (short : text.utf8ByteSize < 32767) {e : Encoding}
    (allowed : enc.allowed.allows e = true) (writes : enc.Writes text e) :
    (select enc.specials enc.allowed text).cost text ≤ e.cost text := by
  by_cases overlooked : Overlooked text e
  · -- The census does not count on the encoding of the empty text, which takes no byte in any.
    rw [overlooked.2, Encoding.cost_empty, Encoding.cost_empty]
  · have fits := (fits_iff_writes enc short e).mpr ⟨writes, overlooked⟩
    exact (isFirst_select enc.specials enc.allowed text).cost_le ⟨allowed, fits⟩ text

/-- No allowed encoding that can write a name takes fewer bytes than the one that is selected. These are
    never more than the bytes of the name, and fewer if they are packed from five characters or more. -/
theorem encode_smallest (enc : Encoder) {text : String} (short : text.utf8ByteSize < 32767) :
    ∃ r, enc.encode text = .ok r ∧
      (∀ e other, enc.allowed.allows e = true → enc.encodeAs e text = .ok other →
        r.payload.length ≤ other.payload.length) ∧
      r.payload.length ≤ text.utf8ByteSize ∧
      (r.encoding ≠ .utf8 → 5 ≤ text.length → r.payload.length < text.utf8ByteSize) := by
  obtain ⟨r, encoded⟩ := exists_encode enc short
  rw [encode_eq] at encoded
  obtain ⟨chosen, size⟩ := length_of_encodeAs encoded
  refine ⟨r, encoded, ?_, ?_, ?_⟩
  · intro e other allowed written
    rw [size, (length_of_encodeAs written).2]
    exact cost_select_le enc short allowed ⟨other, written⟩
  · rw [size]
    exact Encoding.cost_le _ text
  · intro packed five
    rw [size, ← chosen]
    exact Encoding.cost_lt packed five

/-- Nine letters take six bytes where their case may be given up, and seven with the encoding that keeps it. -/
theorem encode_smallest_inner_capital :
    ("fieldName".utf8ByteSize < 32767 ∧ EncodingSet.all.allows .lowerUpperDigitSpecial = true ∧
      (ofSpecials .standard).encodeAs .lowerUpperDigitSpecial "fieldName" =
        .ok ⟨"fieldName", .lowerUpperDigitSpecial, 46, 95, [0x0a, 0x40, 0x85, 0x87, 0x38, 0x06, 0x08]⟩ ∧
      5 ≤ "fieldName".length) ∧
    ∃ r, (ofSpecials .standard).encode "fieldName" = .ok r ∧ r.encoding = .allToLowerSpecial ∧
      r.payload.length ≤ 7 ∧ r.payload.length < 9 := by
  have short : "fieldName".utf8ByteSize < 32767 := by decide
  have five : 5 ≤ "fieldName".length := by decide
  have cased : (ofSpecials .standard).encodeAs .lowerUpperDigitSpecial "fieldName" =
      .ok ⟨"fieldName", .lowerUpperDigitSpecial, 46, 95, [0x0a, 0x40, 0x85, 0x87, 0x38, 0x06, 0x08]⟩ := by cbv
  obtain ⟨r, encoded, least, -, less⟩ := encode_smallest (ofSpecials .standard) short
  have lowered : r.encoding = .allToLowerSpecial := by
    cases encoded
    rfl
  have packed : r.encoding ≠ .utf8 := by
    rw [lowered]
    decide
  refine ⟨⟨short, by decide, cased, five⟩, r, encoded, lowered, ?_, ?_⟩
  · exact least _ _ (by decide) cased
  · exact less packed five

end Encoder
end NamePack
