import NamePack.Census
import NamePack.Proofs.Payloads

/-!
# Sizes of payloads

How many bytes an encoding takes for a text: no more than the text itself (`Encoding.cost_le`). The order of
preference is one of rising sizes (`Encoding.pairwise_cost`).
-/
namespace NamePack

namespace Bits

theorem packedSize_mono (count : Nat) {width width' : Nat} (narrower : width ≤ width') :
    packedSize count width ≤ packedSize count width' := by
  have bits : count * width ≤ count * width' := Nat.mul_le_mul_left _ narrower
  unfold packedSize
  split_ifs
  · exact Nat.le_refl 0
  · omega

/-- The flag of codes of six bits finds room in the two bits that each of them saves. -/
theorem packedSize_six_le (count : Nat) : packedSize count 6 ≤ count := by
  unfold packedSize
  split_ifs with none
  · omega
  · omega

theorem packedSize_six_lt {count : Nat} (five : 5 ≤ count) : packedSize count 6 < count := by
  rw [packedSize, if_neg (by omega)]
  omega

end Bits

namespace Encoding

/-- The number of bytes that an encoding takes for a text, if it can write it. -/
def cost (e : Encoding) (text : String) : Nat :=
  match e.width? with
  | none => text.utf8ByteSize
  | some width => Bits.packedSize text.length width

theorem length_write {e : Encoding} {sp : Specials} {text : String} {payload : Bytes}
    (written : e.write sp text = .ok payload) : payload.length = e.cost text := by
  unfold cost
  cases packed : e.width? with
  | none =>
    obtain rfl := eq_utf8_of_width? packed
    rw [← Except.ok.inj written, Text.length_utf8]
  | some width =>
    obtain ⟨ds, ks, folded, spells, rfl⟩ := (write_ok_iff packed).mp written
    have count : ks.length = text.length := by
      rw [← spells.length_eq, length_foldText? folded, String.length_toList]
    rw [Bits.length_pack (width_bounds packed).2, count]

theorem cost_empty (e : Encoding) : e.cost "" = 0 := by
  cases e <;> rfl

/-- An encoding is preferred to those that take more bytes. -/
theorem pairwise_cost (text : String) : preference.Pairwise fun d e => d.cost text ≤ e.cost text := by
  have five_six := Bits.packedSize_mono text.length (show 5 ≤ 6 by decide)
  have six_plain := (Bits.packedSize_six_le text.length).trans (Text.length_le_utf8ByteSize text)
  simp [preference, cost, width?, five_six, six_plain, five_six.trans six_plain]

theorem cost_le_six {e : Encoding} (packed : e ≠ utf8) (text : String) :
    e.cost text ≤ Bits.packedSize text.length 6 := by
  cases e with
  | utf8 => exact absurd rfl packed
  | lowerSpecial | firstToLowerSpecial | allToLowerSpecial => exact Bits.packedSize_mono _ (by decide)
  | lowerUpperDigitSpecial => exact Nat.le_refl _

theorem cost_le (e : Encoding) (text : String) : e.cost text ≤ text.utf8ByteSize := by
  by_cases packed : e = utf8
  · rw [packed]
    exact Nat.le_refl _
  · calc e.cost text ≤ Bits.packedSize text.length 6 := cost_le_six packed text
      _ ≤ text.length := Bits.packedSize_six_le _
      _ ≤ text.utf8ByteSize := Text.length_le_utf8ByteSize text

/-- From five characters on, packing saves a byte and more. -/
theorem cost_lt {e : Encoding} {text : String} (packed : e ≠ utf8) (five : 5 ≤ text.length) :
    e.cost text < text.utf8ByteSize := by
  calc e.cost text ≤ Bits.packedSize text.length 6 := cost_le_six packed text
    _ < text.length := Bits.packedSize_six_lt five
    _ ≤ text.utf8ByteSize := Text.length_le_utf8ByteSize text

theorem mem_preference (e : Encoding) : e ∈ preference := by
  cases e <;> decide

end Encoding
end NamePack
