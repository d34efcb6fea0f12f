import NamePack.Encoder
import NamePack.Proofs.Censuses

/-!
# Names written and read back

Encoding a name below the size limit always succeeds, and decoding gives the name back up to the case
that `allToLowerSpecial` gives up (`encode_decode`). Encoding a decoded text gives the same payload
again, where it succeeds, so each text has one payload in each encoding (`encodeAs_read`).
-/
namespace NamePack

namespace Encoding

/-! ## Reading with the special characters as bytes -/

/-- The special characters of an encoder come back from their bytes. -/
theorem readWith_specials (e : Encoding) (sp : Specials) (payload : Bytes) :
    e.readWith sp.firstByte sp.secondByte payload = e.read sp payload := by
  cases e with
  | utf8 => rfl
  | lowerSpecial | lowerUpperDigitSpecial | firstToLowerSpecial | allToLowerSpecial =>
    simp [readWith, Specials.ofBytes_firstByte_secondByte, bind, Except.bind]

theorem exists_read_of_readWith {e : Encoding} {special1 special2 : UInt8} {payload : Bytes} {text : String}
    (decoded : e.readWith special1 special2 payload = .ok text) : ∃ sp, e.read sp payload = .ok text := by
  cases e with
  | utf8 => exact ⟨.standard, decoded⟩
  | lowerSpecial | lowerUpperDigitSpecial | firstToLowerSpecial | allToLowerSpecial =>
    obtain ⟨sp, -, read⟩ := bind_ok_iff.mp decoded
    exact ⟨sp, read⟩

/-! ## One payload for each text -/

theorem restoreCase_injective {e : Encoding} {sp : Specials} {ds ds' : List Char} {ks ks' : Bytes}
    (spells : e.Spells sp ds ks) (spells' : e.Spells sp ds' ks') (same : e.restoreCase ds = e.restoreCase ds') :
    ds = ds' := by
  cases e with
  | utf8 | lowerSpecial | lowerUpperDigitSpecial | allToLowerSpecial => simpa [restoreCase] using same
  | firstToLowerSpecial =>
    cases ds with
    | nil => cases ds' <;> simp [restoreCase] at same ⊢
    | cons c rest =>
      cases ds' with
      | nil => simp [restoreCase] at same
      | cons c' rest' =>
        simp only [restoreCase, List.cons.injEq] at same
        obtain ⟨upper, later⟩ := same
        -- Only the first character was changed, and in lower case it is what it was.
        have first := toLower_five (spells.five rfl c (by simp))
        have first' := toLower_five (spells'.five rfl c' (by simp))
        rw [← Char.toLower_toUpper_eq_toLower] at first first'
        rw [← first, ← first', upper, later]

/-- A payload is determined by the text that is read from it. -/
theorem read_injective {e : Encoding} {sp : Specials} {payload payload' : Bytes} {text : String}
    (decoded : e.read sp payload = .ok text) (decoded' : e.read sp payload' = .ok text) : payload = payload' := by
  cases packed : e.width? with
  | none =>
    obtain rfl := eq_utf8_of_width? packed
    rw [read_utf8_ok_iff.mp decoded, read_utf8_ok_iff.mp decoded']
  | some width =>
    obtain ⟨ks, ds, unpacked, spells, rfl⟩ := (read_ok_iff packed).mp decoded
    obtain ⟨ks', ds', unpacked', spells', same⟩ := (read_ok_iff packed).mp decoded'
    obtain ⟨wide, narrow⟩ := width_bounds packed
    have texts : ds = ds' := restoreCase_injective spells spells' (String.ofList_injective same)
    subst texts
    rw [← Bits.pack_of_unpack (by omega) narrow unpacked, ← Bits.pack_of_unpack (by omega) narrow unpacked',
      spells.codes_eq spells']

end Encoding

namespace Encoder

/-! ## Encoding -/

theorem encodeAs_eq (enc : Encoder) (e : Encoding) (text : String) :
    enc.encodeAs e text =
      if 32767 ≤ text.utf8ByteSize then .error (.tooLong text.utf8ByteSize) else enc.write e text := by
  unfold encodeAs checkSize
  split_ifs with long short <;> simp_all [sizeLimit, bind, Except.bind]

/-- Encoding goes by the encoding that is selected. -/
theorem encode_eq (enc : Encoder) (text : String) :
    enc.encode text = enc.encodeAs (select enc.specials enc.allowed text) text := rfl

theorem write_ok_iff {enc : Encoder} {e : Encoding} {text : String} {r : Record} :
    enc.write e text = .ok r ↔ ∃ payload, e.write enc.specials text = .ok payload ∧
      ⟨text, e, enc.specials.firstByte, enc.specials.secondByte, payload⟩ = r := map_ok_iff

/-- A record that was written is read back, up to the case that its encoding gives up. -/
theorem decode_of_write {enc : Encoder} {e : Encoding} {text : String} {r : Record}
    (written : enc.write e text = .ok r) : r.encoding = e ∧ r.text = text ∧ r.decode = .ok (e.kept text) := by
  obtain ⟨payload, packed, rfl⟩ := write_ok_iff.mp written
  refine ⟨rfl, rfl, ?_⟩
  rw [Record.decode, Encoding.readWith_specials, Encoding.read_write packed]

theorem write_of_encodeAs {enc : Encoder} {e : Encoding} {text : String} {r : Record}
    (encoded : enc.encodeAs e text = .ok r) : enc.write e text = .ok r := by
  rw [encodeAs_eq] at encoded
  split_ifs at encoded with short
  exact encoded

/-- Encoding always succeeds below the size limit. -/
theorem exists_encode (enc : Encoder) {text : String} (short : text.utf8ByteSize < 32767) :
    ∃ r, enc.encode text = .ok r := by
  obtain ⟨payload, packed⟩ := exists_write_select enc.specials enc.allowed text
  rw [encode_eq, encodeAs_eq, if_neg (by omega)]
  exact ⟨_, write_ok_iff.mpr ⟨payload, packed, rfl⟩⟩

/-- Encoding fails for names of 32767 bytes and more only, and decoding gives all others back: as they
    were, or in lower case if `allToLowerSpecial` was chosen. It is chosen only if it is allowed. -/
theorem encode_decode (enc : Encoder) (text : String) :
    (enc.encode text = .error (.tooLong text.utf8ByteSize) ↔ 32767 ≤ text.utf8ByteSize) ∧
    (text.utf8ByteSize < 32767 → ∃ r, enc.encode text = .ok r ∧
      r.decode = .ok (if r.encoding = .allToLowerSpecial then text.map Char.toLower else text) ∧
      (enc.allowed.contains (Encoding.allToLowerSpecial).flag = false →
        r.encoding ≠ .allToLowerSpecial ∧ r.decode = .ok text)) ∧
    EncodingSet.lossless.contains (Encoding.allToLowerSpecial).flag = false ∧
    (∀ e r, enc.encodeAs e text = .ok r →
      r.encoding = e ∧ r.decode = .ok (if e = .allToLowerSpecial then text.map Char.toLower else text)) := by
  refine ⟨⟨?_, ?_⟩, ?_, by decide, ?_⟩
  · intro failed
    by_contra short
    obtain ⟨r, encoded⟩ := exists_encode enc (Nat.lt_of_not_le short)
    rw [encoded] at failed
    cases failed
  · intro long
    rw [encode_eq, encodeAs_eq, if_pos long]
  · intro short
    obtain ⟨r, encoded⟩ := exists_encode enc short
    obtain ⟨chosen, -, decoded⟩ := decode_of_write (write_of_encodeAs encoded)
    rw [← chosen, Encoding.kept] at decoded
    refine ⟨r, encoded, decoded, fun missing => ?_⟩
    have cased : r.encoding ≠ .allToLowerSpecial := by
      rw [chosen]
      exact select_ne_of_not_contains _ _ _ (by decide) missing
    rw [if_neg cased] at decoded
    exact ⟨cased, decoded⟩
  · intro e r encoded
    obtain ⟨chosen, -, decoded⟩ := decode_of_write (write_of_encodeAs encoded)
    exact ⟨chosen, decoded⟩

/-- A capital inside a name is lost where every encoding is allowed and kept where only lossless ones are. -/
theorem encode_decode_inner_capital :
    ("aB".utf8ByteSize < 32767 ∧ EncodingSet.lossless.contains (Encoding.allToLowerSpecial).flag = false) ∧
    (∃ r, (ofSpecials .standard).encode "aB" = .ok r ∧ r.decode = .ok "ab") ∧
    (∃ r, (Encoder.mk .standard .lossless).encode "aB" = .ok r ∧ r.decode = .ok "aB") := by
  refine ⟨⟨by decide, by decide⟩, ?_, ?_⟩
  · obtain ⟨r, encoded, decoded, -⟩ := (encode_decode (ofSpecials .standard) "aB").2.1 (by decide)
    have lowered : r.encoding = .allToLowerSpecial := by
      cases encoded
      rfl
    have text : "aB".map Char.toLower = "ab" := by cbv
    rw [if_pos lowered, text] at decoded
    exact ⟨r, encoded, decoded⟩
  · obtain ⟨r, encoded, -, kept⟩ := (encode_decode ⟨.standard, .lossless⟩ "aB").2.1 (by decide)
    exact ⟨r, encoded, (kept (by decide)).2⟩

/-! ## Decoding first -/

/-- A text that was decoded is encoded as the same payload again, unless it is too long or begins with
    a special character that should be a capital. No other payload decodes to it. -/
theorem encodeAs_read (enc : Encoder) {e : Encoding} {payload : Bytes} {text : String}
    (decoded : e.read enc.specials payload = .ok text) :
    enc.encodeAs e text =
      (if 32767 ≤ text.utf8ByteSize then .error (.tooLong text.utf8ByteSize)
      else match e.leadingSpecial? enc.specials text.toList with
        | some c => .error (.unsupported c e)
        | none => .ok ⟨text, e, enc.specials.firstByte, enc.specials.secondByte, payload⟩) ∧
    ∀ other, e.read enc.specials other = .ok text → other = payload := by
  refine ⟨?_, fun other same => Encoding.read_injective same decoded⟩
  rw [encodeAs_eq]
  congr 1
  cases leading : e.leadingSpecial? enc.specials text.toList with
  | some c => simp [write, Encoding.write_leadingSpecial leading, Except.map]
  | none => exact write_ok_iff.mpr ⟨payload, Encoding.write_read decoded leading, rfl⟩

/-- The payload of `Ab` is written again, that of `.b` is refused for its full stop. -/
theorem encodeAs_read_capital :
    (Encoding.firstToLowerSpecial.read .standard [0x80, 0x20] = .ok "Ab" ∧
      Encoding.firstToLowerSpecial.read .standard [0xe8, 0x20] = .ok ".b") ∧
    (ofSpecials .standard).encodeAs .firstToLowerSpecial "Ab" =
      .ok ⟨"Ab", .firstToLowerSpecial, 0x2e, 0x5f, [0x80, 0x20]⟩ ∧
    (ofSpecials .standard).encodeAs .firstToLowerSpecial ".b" = .error (.unsupported '.' .firstToLowerSpecial) := by
  have capital : Encoding.firstToLowerSpecial.read .standard [0x80, 0x20] = .ok "Ab" := by cbv
  have stop : Encoding.firstToLowerSpecial.read .standard [0xe8, 0x20] = .ok ".b" := by cbv
  exact ⟨⟨capital, stop⟩, (encodeAs_read (ofSpecials .standard) capital).1,
    (encodeAs_read (ofSpecials .standard) stop).1⟩

end Encoder
end NamePack
