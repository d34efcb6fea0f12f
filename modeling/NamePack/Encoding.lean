import NamePack.Text.Blank

/-!
# Encodings

The five ways to write a name, each with the tag that stands for it in a frame, the width of its codes
and its canonical name. `ofTag?` and `ofName?` read tags and names back.
-/
namespace NamePack

/-- How the payload of a record spells its text. -/
inductive Encoding where
  /-- The UTF-8 bytes themselves. -/
  | utf8
  /-- Lower-case letters and the two special characters, five bits each. -/
  | lowerSpecial
  /-- Letters, digits and the two special characters, six bits each. -/
  | lowerUpperDigitSpecial
  /-- As `lowerSpecial`, for a text whose first character alone is upper case. -/
  | firstToLowerSpecial
  /-- As `lowerSpecial`, for a text whose case is given up. -/
  | allToLowerSpecial
  deriving DecidableEq, Repr, Inhabited

namespace Encoding

/-- All encodings in the order of their tags. -/
def all : List Encoding :=
  [utf8, lowerSpecial, lowerUpperDigitSpecial, firstToLowerSpecial, allToLowerSpecial]

/-- The byte that stands for an encoding. -/
def tag : Encoding → UInt8
  | utf8 => 0
  | lowerSpecial => 1
  | lowerUpperDigitSpecial => 2
  | firstToLowerSpecial => 3
  | allToLowerSpecial => 4

def ofTag? (t : UInt8) : Option Encoding := all.find? (·.tag = t)

theorem ofTag?_tag (e : Encoding) : ofTag? e.tag = some e := by
  cases e <;> decide

theorem tag_of_ofTag? {t : UInt8} {e : Encoding} (h : ofTag? t = some e) : e.tag = t := by
  simpa using List.find?_some h

/-- The number of bits of one code, for the encodings that pack codes. -/
def width? : Encoding → Option Nat
  | utf8 => none
  | lowerUpperDigitSpecial => some 6
  | lowerSpecial | firstToLowerSpecial | allToLowerSpecial => some 5

def name : Encoding → String
  | utf8 => "UTF_8"
  | lowerSpecial => "LOWER_SPECIAL"
  | lowerUpperDigitSpecial => "LOWER_UPPER_DIGIT_SPECIAL"
  | firstToLowerSpecial => "FIRST_TO_LOWER_SPECIAL"
  | allToLowerSpecial => "ALL_TO_LOWER_SPECIAL"

/-- The name that the listing of a record shows. -/
def shortName : Encoding → String
  | utf8 => "Utf8"
  | lowerSpecial => "LowerSpecial"
  | lowerUpperDigitSpecial => "LowerUpperDigitSpecial"
  | firstToLowerSpecial => "FirstToLowerSpecial"
  | allToLowerSpecial => "AllToLowerSpecial"

/-- A name as it is compared: without blanks around it, in upper case, with `_` for `-`. -/
def normalName (s : String) : String :=
  String.ofList ((Text.trimBlanks s.toList).map fun c => if c = '-' then '_' else c.toUpper)

/-- The encoding of a name in any case with `-` or `_` between the words; `UTF8` is a name too. -/
def ofName? (s : String) : Option Encoding :=
  let wanted := normalName s
  if wanted = "UTF8" then some utf8 else all.find? (·.name = wanted)

end Encoding
end NamePack
