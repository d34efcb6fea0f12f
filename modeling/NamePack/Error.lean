import NamePack.Encoding
import NamePack.Text.Quoted
import NamePack.Text.Utf8

/-!
# Errors

Why a name cannot be written or bytes cannot be read. Each cause is a constructor that carries what
its wording names; the wordings are in `Malformed.message` and `Error.message`.
-/
namespace NamePack

/-- Names must be shorter than this many UTF-8 bytes. -/
def sizeLimit : Nat := 32767

/-- Why bytes or a written encoding cannot be read. -/
inductive Malformed where
  /-- No encoding has this tag. -/
  | unknownTag (tag : UInt8)
  /-- No encoding has this name. -/
  | unknownName (name : String)
  /-- `size` bytes leave no room for a code of `width` bits. -/
  | noCode (size width : Nat)
  /-- `count` codes of `width` bits fit into fewer than `size` bytes. -/
  | surplusBytes (size count width : Nat)
  /-- A bit after the last code is set. -/
  | dirtyPadding
  /-- No character has this code. -/
  | unassignedCode (code : UInt8) (encoding : Encoding)
  | notUtf8 (fault : Text.Utf8Fault)
  /-- A length has more than 64 bits. -/
  | lengthOverflow
  /-- The bytes end inside a length. -/
  | truncatedLength
  /-- The bytes end inside the tag and the special characters. -/
  | truncatedHeader (size : Nat)
  /-- The bytes end inside the payload. -/
  | truncatedPayload (need held : Nat)
  deriving DecidableEq, Repr

/-- The number of bytes before the length of a frame. -/
def headerSize : Nat := 3

def Malformed.message : Malformed → String
  | unknownTag tag => "unknown encoding tag 0x" ++ Text.hexByte tag
  | unknownName name => s!"unknown encoding name '{name}'"
  | noCode size width => s!"{size} byte(s) hold no {width}-bit code"
  | surplusBytes size count width =>
    s!"{size} byte(s) are too long for {count} {width}-bit code(s)"
  | dirtyPadding => "non-zero padding bits"
  | unassignedCode code encoding => s!"code {code} has no symbol in " ++ encoding.name
  | notUtf8 fault => "invalid UTF-8: " ++ fault.message
  | lengthOverflow => "length prefix overflow"
  | truncatedLength => "truncated length prefix"
  | truncatedHeader size => s!"truncated header: {size} of {headerSize} bytes"
  | truncatedPayload need held => s!"truncated payload: need {need} bytes, have {held}"

/-- Why a name cannot be written or read. -/
inductive Error where
  /-- A character that cannot be one of the two special ones. -/
  | invalidSpecial (c : Char)
  /-- A character that an encoding has no code for. -/
  | unsupported (c : Char) (encoding : Encoding)
  /-- Bytes or a written encoding that cannot be read. -/
  | malformed (cause : Malformed)
  /-- A name of `size` bytes. -/
  | tooLong (size : Nat)
  deriving DecidableEq, Repr

def Error.message : Error → String
  | invalidSpecial c => "invalid special character " ++ Text.quoteChar c
  | unsupported c encoding =>
    "character " ++ Text.quoteChar c ++ " cannot be encoded as " ++ encoding.name
  | malformed cause => "malformed encoding: " ++ cause.message
  | tooLong size =>
    s!"meta string of {size} bytes exceeds the " ++ toString (sizeLimit - 1) ++ " byte limit"

namespace Encoding

/-- The encoding that a byte of a frame stands for. -/
def ofTag (t : UInt8) : Except Error Encoding :=
  match ofTag? t with
  | some e => .ok e
  | none => .error (.malformed (.unknownTag t))

theorem ofTag_tag (e : Encoding) : ofTag e.tag = .ok e := by
  simp only [ofTag, ofTag?_tag]

/-- The encoding that a written name stands for. -/
def ofName (s : String) : Except Error Encoding :=
  match ofName? s with
  | some e => .ok e
  | none => .error (.malformed (.unknownName s))

end Encoding
end NamePack
