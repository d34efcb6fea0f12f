import NamePack.Payload
import NamePack.Text.Hex

/-!
# Records

A written name: its text, the encoding, the special characters as bytes and the payload.
-/
namespace NamePack

/-- A written name. The special characters of plain UTF-8 are not looked at and may be any bytes. -/
structure Record where
  text : String
  encoding : Encoding
  special1 : UInt8
  special2 : UInt8
  payload : Bytes
  deriving DecidableEq, Repr

namespace Record

/-- The record of a payload, with the text that the payload spells. -/
def ofParts (e : Encoding) (special1 special2 : UInt8) (payload : Bytes) : Except Error Record :=
  (e.readWith special1 special2 payload).map fun text => ⟨text, e, special1, special2, payload⟩

def decode (r : Record) : Except Error String :=
  r.encoding.readWith r.special1 r.special2 r.payload

/-- Whether a code could follow in the padding of the payload. -/
def isFlagged (r : Record) : Bool := r.encoding != .utf8 && Bits.isFlagged r.payload

def describe (r : Record) : String :=
  "MetaString \x7b input_string: Some(" ++ Text.quoteText r.text ++
    "), encoding: " ++ r.encoding.shortName ++
    ", special_char1: " ++ Text.quoteChar (Char.ofUInt8 r.special1) ++
    ", special_char2: " ++ Text.quoteChar (Char.ofUInt8 r.special2) ++
    ", encoded_bytes: [" ++ String.intercalate ", " (r.payload.map Text.hexByte) ++ "] \x7d"

end Record
end NamePack
