import NamePack.Proofs.Selection
import NamePack.Proofs.SharedPayloads

/-!
# Names encoded a second time

What an encoding keeps of a text it writes with the same payload (`Encoding.write_kept`), and the selection made
for it is the one made before, but for `lowerSpecial` in the place of `allToLowerSpecial` where both are allowed
(`select_kept`). So one round of encoding and decoding reaches a fixed point (`Encoder.encode_decode_encode`).
-/
namespace NamePack

namespace Encoding

/-- The encoding that is selected for a text once another round has given up its case. -/
def settled (allowed : EncodingSet) (e : Encoding) : Encoding :=
  if e = allToLowerSpecial ∧ allowed.allows lowerSpecial = true then lowerSpecial else e

theorem settled_of_cased {allowed : EncodingSet} {e : Encoding} (cased : e ≠ allToLowerSpecial) :
    settled allowed e = e := by
  rw [settled, if_neg]
  rintro ⟨lossy, -⟩
  exact cased lossy

theorem kept_of_cased {e : Encoding} (cased : e ≠ allToLowerSpecial) (text : String) : e.kept text = text :=
  if_neg cased

theorem kept_allToLowerSpecial (text : String) : allToLowerSpecial.kept text = text.map Char.toLower := if_pos rfl

theorem utf8ByteSize_kept (e : Encoding) (text : String) : (e.kept text).utf8ByteSize = text.utf8ByteSize := by
  unfold kept
  split_ifs
  · exact Text.utf8ByteSize_map_toLower text
  · rfl

/-- Giving up case once more changes nothing. -/
theorem kept_kept (e : Encoding) (text : String) : e.kept (e.kept text) = e.kept text := by
  by_cases lossy : e = allToLowerSpecial
  · subst lossy
    rw [kept_allToLowerSpecial, kept_allToLowerSpecial, ← String.toList_inj]
    simp [Char.toLower_toLower_eq_toLower]
  · rw [kept_of_cased lossy, kept_of_cased lossy]

/-- What an encoding keeps of a text has the payload of the text. -/
theorem write_kept {e : Encoding} {sp : Specials} {text : String} {payload : Bytes}
    (written : e.write sp text = .ok payload) : e.write sp (e.kept text) = .ok payload := by
  by_cases lossy : e = allToLowerSpecial
  · subst lossy
    exact write_read (read_write written) rfl
  · rwa [kept_of_cased lossy]

/-- The payload is the same under the encoding that is settled on. -/
theorem write_settled {e : Encoding} {sp : Specials} {text : String} {payload : Bytes} (allowed : EncodingSet)
    (written : e.write sp text = .ok payload) : (settled allowed e).write sp (e.kept text) = .ok payload := by
  unfold settled
  split_ifs with changed
  · obtain ⟨rfl, -⟩ := changed
    rw [kept_allToLowerSpecial]
    exact write_lowered rfl written
  · exact write_kept written

/-- The encoding that is settled on gives up no more than was given up before. -/
theorem kept_settled (allowed : EncodingSet) (e : Encoding) (text : String) :
    (settled allowed e).kept (e.kept text) = e.kept text := by
  unfold settled
  split_ifs with changed
  · exact kept_of_cased (by decide) _
  · exact kept_kept e text

end Encoding

/-! ## The encoding that is selected for a text in lower case -/

theorem Census.fits_of_write {e : Encoding} {sp : Specials} {text : String} {payload : Bytes}
    (anywhere : e ≠ .firstToLowerSpecial) (written : e.write sp text = .ok payload) :
    (Census.ofText sp text).fits e = true := by
  rw [Census.fits_iff]
  refine ⟨(Encoding.exists_write_iff ..).mp ⟨payload, written⟩, ?_⟩
  intro first
  exact absurd first anywhere

/-- A text in lower case has no capital to begin with. -/
theorem Census.not_fits_lowered (sp : Specials) (text : String) :
    ¬ (Census.ofText sp (text.map Char.toLower)).fits .firstToLowerSpecial = true := by
  rw [Census.fits_iff, String.toList_map]
  rintro ⟨admitted, some_character⟩
  cases chars : text.toList with
  | nil => simp [chars] at some_character
  | cons c rest =>
    rw [chars, List.map_cons, Encoding.admits_cons] at admitted
    have upper : c.toLower.isUpper = true := admitted.1
    have lowered : c.toLower.toLower = c.toLower := Char.toLower_toLower_eq_toLower c
    have lower : c.toLower.toLower.isLower = true := isLower_toLower upper
    rw [lowered] at lower
    exact Char.not_isLower_of_isUpper upper lower

theorem select_kept (sp : Specials) (allowed : EncodingSet) (text : String) :
    select sp allowed ((select sp allowed text).kept text) = Encoding.settled allowed (select sp allowed text) := by
  by_cases lossy : select sp allowed text = .allToLowerSpecial
  · obtain ⟨payload, written⟩ := exists_write_select sp allowed text
    have allowed_lossy := (select_spec sp allowed text).1
    rw [lossy] at written allowed_lossy ⊢
    have selected := Encoder.isFirst_select sp allowed (text.map Char.toLower)
    rw [Encoding.kept_allToLowerSpecial]
    by_cases plain : allowed.allows .lowerSpecial = true
    · rw [Encoding.settled, if_pos ⟨rfl, plain⟩]
      have fits := Census.fits_of_write (by decide) (Encoding.write_lowered rfl written)
      exact selected.unique ⟨[], _, rfl, ⟨plain, fits⟩, by simp⟩
    · rw [Encoding.settled, if_neg (fun both => plain both.2)]
      have fits := Census.fits_of_write (by decide) (Encoding.write_kept written)
      rw [Encoding.kept_allToLowerSpecial] at fits
      -- Of the two encodings that are preferred, one is not allowed and the other wants a capital.
      refine selected.unique ⟨[.lowerSpecial, .firstToLowerSpecial], _, rfl, ⟨allowed_lossy, fits⟩, ?_⟩
      rintro d before ⟨allowed_d, fits_d⟩
      rcases List.mem_pair.mp before with rfl | rfl
      · exact plain allowed_d
      · exact Census.not_fits_lowered sp text fits_d
  · rw [Encoding.kept_of_cased lossy, Encoding.settled_of_cased lossy]

/-! ## A second round -/

namespace Encoder

/-- Encoding what an encoding keeps of a name changes nothing but the text and the encoding of the record. -/
theorem encode_kept {enc : Encoder} {text : String} {r : Record} (encoded : enc.encode text = .ok r) :
    enc.encode (r.encoding.kept text) =
      .ok { r with text := r.encoding.kept text, encoding := Encoding.settled enc.allowed r.encoding } := by
  rw [encode_eq, encodeAs_eq] at encoded
  split_ifs at encoded with short
  obtain ⟨payload, written, rfl⟩ := write_ok_iff.mp encoded
  rw [encode_eq, encodeAs_eq, select_kept, Encoding.utf8ByteSize_kept, if_neg short]
  exact write_ok_iff.mpr ⟨payload, Encoding.write_settled enc.allowed written, rfl⟩

/-- What decoding gives back is encoded as the same payload and decoded as the same text again. The encoding is the
    same too, but where `allToLowerSpecial` gives way to `lowerSpecial`, which happens wherever that is allowed. -/
theorem encode_decode_encode (enc : Encoder) {text : String} (short : text.utf8ByteSize < 32767) :
    ∃ r t again, enc.encode text = .ok r ∧ r.decode = .ok t ∧ enc.encode t = .ok again ∧
      again.payload = r.payload ∧ again.decode = .ok t ∧
      again.encoding = if r.encoding = .allToLowerSpecial ∧ enc.allowed.allows .lowerSpecial = true then .lowerSpecial
        else r.encoding := by
  obtain ⟨r, encoded⟩ := exists_encode enc short
  obtain ⟨chosen, -, decoded⟩ := decode_of_write (write_of_encodeAs encoded)
  rw [← chosen] at decoded
  have rewritten := encode_kept encoded
  obtain ⟨chosen_again, -, decoded_again⟩ := decode_of_write (write_of_encodeAs rewritten)
  rw [← chosen_again, Encoding.kept_settled] at decoded_again
  exact ⟨r, _, _, encoded, decoded, rewritten, rfl, decoded_again, rfl⟩

/-- A name that lost a capital goes over to the encoding for lower case where every encoding is allowed, and stays
    with its own where that one is not. -/
theorem encode_decode_encode_inner_capital :
    "aB".utf8ByteSize < 32767 ∧
    (∃ again, (ofSpecials .standard).encode "ab" = .ok again ∧ again.payload = [0x80, 0x20] ∧
      again.decode = .ok "ab" ∧ again.encoding = .lowerSpecial) ∧
    ∃ again, (Encoder.mk .standard (Encoding.allToLowerSpecial).flag).encode "ab" = .ok again ∧
      again.payload = [0x80, 0x20] ∧ again.decode = .ok "ab" ∧ again.encoding = .allToLowerSpecial := by
  have short : "aB".utf8ByteSize < 32767 := by decide
  have record (enc : Encoder) (lossy : enc.encode "aB" = .ok ⟨"aB", .allToLowerSpecial, 46, 95, [0x80, 0x20]⟩) :
      ∃ again, enc.encode "ab" = .ok again ∧ again.payload = [0x80, 0x20] ∧ again.decode = .ok "ab" ∧
        again.encoding = if enc.allowed.allows .lowerSpecial = true then .lowerSpecial else .allToLowerSpecial := by
    obtain ⟨r, t, again, encoded, decoded, rewritten, same, reread, settled⟩ := encode_decode_encode enc short
    obtain rfl := Except.ok.inj (lossy.symm.trans encoded)
    have text : t = "ab" := Except.ok.inj (decoded.symm.trans (by cbv))
    subst text
    exact ⟨again, rewritten, same, reread, by simpa using settled⟩
  refine ⟨short, ?_, ?_⟩
  · exact record (ofSpecials .standard) (by cbv)
  · exact record ⟨.standard, (Encoding.allToLowerSpecial).flag⟩ (by cbv)

end Encoder
end NamePack
