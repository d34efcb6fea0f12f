import NamePack.Census
import NamePack.Record

/-!
# Encoders

An encoder holds a pair of special characters and the encodings it may choose from. It writes a name
with the encoding that the census of its characters selects, or with a given one.
-/
namespace NamePack

structure Encoder where
  specials : Specials
  allowed : EncodingSet
  deriving DecidableEq, Repr

namespace Encoder

/-- An encoder with every encoding allowed. -/
def ofSpecials (sp : Specials) : Encoder := ⟨sp, .all⟩

instance : Inhabited Encoder := ⟨ofSpecials .standard⟩

def checkSize (text : String) : Except Error Unit :=
  if sizeLimit ≤ text.utf8ByteSize then .error (.tooLong text.utf8ByteSize) else .ok ()

/-- The record of a name of any size with a given encoding. -/
def write (enc : Encoder) (e : Encoding) (text : String) : Except Error Record :=
  (e.write enc.specials text).map fun payload =>
    ⟨text, e, enc.specials.firstByte, enc.specials.secondByte, payload⟩

/-- The record of a name with the encoding that its characters select. -/
def encode (enc : Encoder) (text : String) : Except Error Record := do
  checkSize text
  enc.write (select enc.specials enc.allowed text) text

/-- The record of a name with a given encoding, allowed or not. -/
def encodeAs (enc : Encoder) (e : Encoding) (text : String) : Except Error Record := do
  checkSize text
  enc.write e text

/-- The records of many names, in order. -/
def encodeAll (enc : Encoder) (texts : List String) : List (Except Error Record) :=
  texts.map enc.encode

end Encoder
end NamePack
