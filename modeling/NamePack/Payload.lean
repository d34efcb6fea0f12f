import NamePack.Alphabet
import NamePack.Bits.Packer
import NamePack.Bits.Unpacker

/-!
# Payloads

How an encoding writes a text as bytes (`write`) and reads it back (`read`). Packed encodings fold
case first, look each character up in their alphabet and pack the codes; reading goes the same way
back and then restores the upper-case first character of `firstToLowerSpecial`.
-/
namespace NamePack.Encoding

/-- The character that stands in the alphabet for the one at position `i` of a text. With
    `firstToLowerSpecial` only an upper-case letter may be first. -/
def fold? (e : Encoding) (i : Nat) (c : Char) : Option Char :=
  match e with
  | firstToLowerSpecial => if i = 0 then (if c.isUpper then some c.toLower else none) else some c
  | allToLowerSpecial => some c.toLower
  | utf8 | lowerSpecial | lowerUpperDigitSpecial => some c

/-- The code of the character at position `i` of a text; an error names the character before
    folding. -/
def codeAt (e : Encoding) (sp : Specials) (c : Char) (i : Nat) : Except Error UInt8 :=
  match (e.fold? i c).bind (e.code? sp) with
  | some code => .ok code
  | none => .error (.unsupported c e)

/-- The codes of the characters of a text, or the error of the first that has none. -/
def codes (e : Encoding) (sp : Specials) (text : String) : Except Error Bytes :=
  text.toList.zipIdx.mapM fun p => e.codeAt sp p.1 p.2

def write (e : Encoding) (sp : Specials) (text : String) : Except Error Bytes :=
  match e.width? with
  | none => .ok (Text.utf8 text)
  | some width => (e.codes sp text).map (Bits.pack width)

/-- The text with the case that its encoding remembers. -/
def restoreCase (e : Encoding) (cs : List Char) : List Char :=
  match e, cs with
  | firstToLowerSpecial, c :: rest => c.toUpper :: rest
  | _, cs => cs

def read (e : Encoding) (sp : Specials) (payload : Bytes) : Except Error String :=
  match e.width? with
  | none =>
    match Text.ofUtf8? payload with
    | some text => .ok text
    | none => .error (.malformed (.notUtf8 (Text.Utf8Fault.first payload)))
  | some width => do
    let codes ← Bits.unpack width payload
    let cs ← codes.mapM (e.symbolOf sp)
    return String.ofList (e.restoreCase cs)

/-- The text of a payload beside two bytes for the special characters, which plain UTF-8 ignores. -/
def readWith (e : Encoding) (special1 special2 : UInt8) (payload : Bytes) : Except Error String :=
  match e with
  | utf8 => utf8.read .standard payload
  | e => do
    let sp ← Specials.ofBytes special1 special2
    e.read sp payload

end NamePack.Encoding
