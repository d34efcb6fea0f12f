import NamePack.Frame
import NamePack.Proofs.Lengths
import NamePack.Proofs.PayloadSizes
import NamePack.Proofs.RoundTrips

/-!
# Streams of frames

Taking a frame apart against the bytes that it is made of (`Frame.split_ok_iff`). Frames written one
after another are read back in order, each with as many bytes as were written for it and whatever
follows the last (`Frame.readMany_write`). A record that is read back has lost only the case that
`allToLowerSpecial` gives up.
-/
namespace NamePack

namespace Encoding

theorem ofTag_ok_iff (t : UInt8) (e : Encoding) : ofTag t = .ok e ↔ t = e.tag := by
  constructor
  · intro tagged
    unfold ofTag at tagged
    cases found : ofTag? t with
    | none => simp [found] at tagged
    | some d =>
      simp only [found, Except.ok.injEq] at tagged
      rw [← tagged, tag_of_ofTag? found]
  · rintro rfl
    exact ofTag_tag e

end Encoding

namespace Frame

/-! ## Frames taken apart -/

/-- A frame is its header, groups that are worth the size of the payload, and the payload. -/
theorem split_ok_iff (data : Bytes) (parts : Parts) :
    split data = .ok parts ↔ ∃ groups rest,
      data = [parts.encoding.tag, parts.special1, parts.special2] ++ groups ++ parts.payload ++ rest ∧
      Length.Grouped groups ∧ Length.worth 0 groups = parts.payload.length ∧ parts.payload.length < 2 ^ 64 ∧
      parts.used = 3 + groups.length + parts.payload.length := by
  constructor
  · intro taken
    match data with
    | tag :: special1 :: special2 :: tail =>
      simp only [split, bind_ok_iff, Encoding.ofTag_ok_iff] at taken
      obtain ⟨e, rfl, ⟨n, k⟩, length, taken⟩ := taken
      obtain ⟨groups, body, rfl, grouped, exact_worth, rfl⟩ := (Length.read_ok_iff ..).mp length
      simp only [List.drop_left] at taken
      split_ifs at taken with short
      cases taken
      have size : (body.take n.toNat).length = n.toNat := by
        have most := List.length_take_le n.toNat body
        omega
      refine ⟨groups, body.drop n.toNat, ?_, grouped, ?_, ?_, ?_⟩
      · simp
      · rw [size, exact_worth]
      · rw [size]
        exact n.toNat_lt
      · rw [size, headerSize]
    | [] | [_] | [_, _] => cases taken
  · obtain ⟨e, special1, special2, payload, used⟩ := parts
    rintro ⟨groups, rest, rfl, grouped, exact_worth, small, used_eq⟩
    dsimp only at exact_worth small used_eq
    have size := Length.toNat_toUInt64 small
    have length : Length.read (groups ++ (payload ++ rest)) = .ok (payload.length.toUInt64, groups.length) :=
      (Length.read_ok_iff ..).mpr ⟨groups, _, rfl, grouped, by rw [size, exact_worth], rfl⟩
    simp [split, Encoding.ofTag_tag, length, size, headerSize, bind, Except.bind, used_eq]

end Frame

namespace Record

/-- The records that come from encoding a name, from a payload or from a frame. A payload in memory has
    fewer than 2^64 bytes. -/
inductive Made : Record → Prop
  | encode {enc : Encoder} {text : String} {r : Record} (encoded : enc.encode text = .ok r) : Made r
  | encodeAs {enc : Encoder} {e : Encoding} {text : String} {r : Record}
      (encoded : enc.encodeAs e text = .ok r) : Made r
  | ofParts {e : Encoding} {special1 special2 : UInt8} {payload : Bytes} {r : Record}
      (small : payload.length < 2 ^ 64) (decoded : ofParts e special1 special2 payload = .ok r) : Made r
  | read {data : Bytes} {r : Record} {used : Nat} (framed : Frame.read data = .ok (r, used)) : Made r

/-- A record with the text that its payload spells. -/
def reread (r : Record) : Record := { r with text := r.encoding.kept r.text }

/-! ## Records that are made -/

theorem decode_of_encodeAs {enc : Encoder} {e : Encoding} {text : String} {r : Record}
    (encoded : enc.encodeAs e text = .ok r) :
    r.payload.length < 2 ^ 64 ∧ r.decode = .ok (r.encoding.kept r.text) := by
  have written := Encoder.write_of_encodeAs encoded
  obtain ⟨rfl, rfl, decoded⟩ := Encoder.decode_of_write written
  obtain ⟨payload, packed, same⟩ := Encoder.write_ok_iff.mp written
  have size := Encoding.length_write packed
  have small := r.encoding.cost_le r.text
  rw [Encoder.encodeAs_eq] at encoded
  split_ifs at encoded with short
  refine ⟨?_, decoded⟩
  rw [← same]
  dsimp only
  omega

theorem decode_of_ofParts {e : Encoding} {special1 special2 : UInt8} {payload : Bytes} {r : Record}
    (decoded : ofParts e special1 special2 payload = .ok r) :
    r.payload = payload ∧ r.decode = .ok (r.encoding.kept r.text) := by
  obtain ⟨text, spelt, rfl⟩ := map_ok_iff.mp decoded
  obtain ⟨sp, read⟩ := Encoding.exists_read_of_readWith spelt
  refine ⟨rfl, ?_⟩
  rw [Encoding.kept_of_read read]
  exact spelt

/-- Whichever way a record was made, its payload spells its text, up to the case that its encoding
    gives up. -/
theorem Made.decode {r : Record} (made : r.Made) :
    r.payload.length < 2 ^ 64 ∧ r.decode = .ok (r.encoding.kept r.text) := by
  cases made with
  | encode encoded => exact decode_of_encodeAs encoded
  | encodeAs encoded => exact decode_of_encodeAs encoded
  | ofParts small decoded =>
    obtain ⟨rfl, read⟩ := decode_of_ofParts decoded
    exact ⟨small, read⟩
  | read framed =>
    obtain ⟨parts, taken, rest⟩ := bind_ok_iff.mp framed
    obtain ⟨record, decoded, same⟩ := bind_ok_iff.mp rest
    cases same
    obtain ⟨same, read⟩ := decode_of_ofParts decoded
    obtain ⟨groups, rest, -, -, -, small, -⟩ := (Frame.split_ok_iff ..).mp taken
    exact ⟨same ▸ small, read⟩

/-- Nothing is lost but upper-case letters. -/
theorem reread_eq_iff (r : Record) :
    r.reread = r ↔ ¬ (r.encoding = .allToLowerSpecial ∧ ∃ c ∈ r.text.toList, c.isUpper = true) := by
  rw [← Encoding.kept_eq_iff]
  cases r
  simp [reread]

end Record

namespace Frame

/-! ## Frames read back -/

/-- Reads `n` frames of a stream, the first at `pos` and each other where the one before it ends. Gives
    the records with the sizes of their frames. -/
def readMany (data : Bytes) : Nat → Nat → Except Error (List (Record × Nat))
  | 0, _ => .ok []
  | n + 1, pos => do
    let (r, used) ← read (data.drop pos)
    let more ← readMany data n (pos + used)
    return (r, used) :: more

theorem split_write {r : Record} (small : r.payload.length < 2 ^ 64) (rest : Bytes) :
    split (write r ++ rest) = .ok ⟨r.encoding, r.special1, r.special2, r.payload, size r⟩ := by
  refine (split_ok_iff ..).mpr ⟨Length.write r.payload.length.toUInt64, rest, rfl, ?_, ?_, small, ?_⟩
  · exact Length.grouped_write _
  · rw [Length.worth_write, Length.toNat_toUInt64 small]
  · rw [Length.length_write]
    rfl

/-- A frame is read back with its size, whatever follows. -/
theorem read_write {r : Record} (made : r.Made) (rest : Bytes) :
    read (write r ++ rest) = .ok (r.reread, size r) := by
  obtain ⟨small, decoded⟩ := made.decode
  have spelt : r.encoding.readWith r.special1 r.special2 r.payload = .ok (r.encoding.kept r.text) := decoded
  simp [read, split_write small, Parts.record, Record.ofParts, spelt, Record.reread, bind, Except.bind, Except.map,
    pure, Except.pure]

theorem readMany_append {rs : List Record} (made : ∀ r ∈ rs, r.Made) (front rest : Bytes) :
    readMany (front ++ (rs.flatMap write ++ rest)) rs.length front.length =
      .ok (rs.map fun r => (r.reread, size r)) := by
  induction rs generalizing front with
  | nil => rfl
  | cons r more ih =>
    rw [List.forall_mem_cons] at made
    have here : (front ++ ((r :: more).flatMap write ++ rest)).drop front.length =
        write r ++ (more.flatMap write ++ rest) := by
      rw [List.drop_left, List.flatMap_cons, List.append_assoc]
    have later := ih made.2 (front ++ write r)
    rw [List.length_append, length_write, List.append_assoc] at later
    rw [List.length_cons, readMany, here, read_write made.1]
    simp only [List.flatMap_cons, List.append_assoc, bind, Except.bind, later]
    rfl

/-- Frames of records written one after another, and anything behind them, are read back in order. Each
    takes the bytes that were written for it and gives the record with the text that its payload spells,
    which is the record itself unless its encoding has given up upper-case letters. -/
theorem readMany_write (rs : List Record) (made : ∀ r ∈ rs, r.Made) (rest : Bytes) :
    readMany (rs.flatMap write ++ rest) rs.length 0 = .ok (rs.map fun r => (r.reread, size r)) ∧
    ∀ r ∈ rs, size r = (write r).length ∧ r.decode = .ok r.reread.text ∧
      r.reread = ⟨r.reread.text, r.encoding, r.special1, r.special2, r.payload⟩ ∧
      (r.reread = r ↔ ¬ (r.encoding = .allToLowerSpecial ∧ ∃ c ∈ r.text.toList, c.isUpper = true)) := by
  refine ⟨readMany_append made [] rest, fun r member => ?_⟩
  exact ⟨(length_write r).symm, (made r member).decode.2, rfl, r.reread_eq_iff⟩

/-- Of two records the one whose encoding has given up a capital comes back in lower case. -/
theorem readMany_write_lowered :
    (∀ r ∈ [⟨"aB", .allToLowerSpecial, 46, 95, [0x80, 0x20]⟩, ⟨"é", .utf8, 0, 255, [0xc3, 0xa9]⟩], Record.Made r) ∧
    readMany [4, 46, 95, 2, 0x80, 0x20, 0, 0, 255, 2, 0xc3, 0xa9, 0x80] 2 0 =
      .ok [(⟨"ab", .allToLowerSpecial, 46, 95, [0x80, 0x20]⟩, 6), (⟨"é", .utf8, 0, 255, [0xc3, 0xa9]⟩, 6)] := by
  have encoded : (Encoder.ofSpecials .standard).encode "aB" =
      .ok ⟨"aB", .allToLowerSpecial, 46, 95, [0x80, 0x20]⟩ := by cbv
  have decoded : Record.ofParts .utf8 0 255 [0xc3, 0xa9] = .ok ⟨"é", .utf8, 0, 255, [0xc3, 0xa9]⟩ := by cbv
  have made : ∀ r ∈ [⟨"aB", .allToLowerSpecial, 46, 95, [0x80, 0x20]⟩, ⟨"é", .utf8, 0, 255, [0xc3, 0xa9]⟩],
      Record.Made r := by
    simpa using ⟨.encode encoded, .ofParts (by decide) decoded⟩
  have lowered : "aB".map Char.toLower = "ab" := by cbv
  have read := (readMany_write _ made [0x80]).1
  simp only [List.map_cons, Record.reread, Encoding.kept, lowered] at read
  exact ⟨made, read⟩

end Frame
end NamePack
