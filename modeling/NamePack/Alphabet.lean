import NamePack.Specials

/-!
# Alphabets

The code of each character in the two packed alphabets. Five bits: `a`-`z` are 0-25 and the special
characters 26 and 27; 28 to 31 mean nothing. Six bits: `a`-`z` are 0-25, `A`-`Z` 26-51, `0`-`9` 52-61
and the special characters 62 and 63. The encodings that give up case look their characters up in the
five-bit alphabet, in lower case.
-/
namespace NamePack
namespace Alphabet

def special1Code5 : UInt8 := 26

def special2Code5 : UInt8 := 27

def upperBase : UInt8 := 26

def digitBase : UInt8 := 52

def special1Code6 : UInt8 := 62

def special2Code6 : UInt8 := 63

/-- How far a character is after another. -/
def offset (base c : Char) : UInt8 := (c.toNat - base.toNat).toUInt8

/-- The character so many places after another. -/
def shifted (base : Char) (n : UInt8) : Char := Char.ofNat (base.toNat + n.toNat)

def code5? (sp : Specials) (c : Char) : Option UInt8 :=
  if c.isLower then some (offset 'a' c)
  else if c = sp.first then some special1Code5
  else if c = sp.second then some special2Code5
  else none

def code6? (sp : Specials) (c : Char) : Option UInt8 :=
  if c.isLower then some (offset 'a' c)
  else if c.isUpper then some (upperBase + offset 'A' c)
  else if c.isDigit then some (digitBase + offset '0' c)
  else if c = sp.first then some special1Code6
  else if c = sp.second then some special2Code6
  else none

def symbol5? (sp : Specials) (code : UInt8) : Option Char :=
  if code < special1Code5 then some (shifted 'a' code)
  else if code = special1Code5 then some sp.first
  else if code = special2Code5 then some sp.second
  else none

def symbol6? (sp : Specials) (code : UInt8) : Option Char :=
  if code < upperBase then some (shifted 'a' code)
  else if code < digitBase then some (shifted 'A' (code - upperBase))
  else if code < special1Code6 then some (shifted '0' (code - digitBase))
  else if code = special1Code6 then some sp.first
  else if code = special2Code6 then some sp.second
  else none

end Alphabet

namespace Encoding
open Alphabet

/-- The code of a character in the alphabet of an encoding. Case is not folded here. -/
def code? (e : Encoding) (sp : Specials) (c : Char) : Option UInt8 :=
  match e with
  | utf8 => none
  | lowerUpperDigitSpecial => code6? sp c
  | lowerSpecial | firstToLowerSpecial | allToLowerSpecial => code5? sp c

/-- The character of a code in the alphabet of an encoding. -/
def symbol? (e : Encoding) (sp : Specials) (code : UInt8) : Option Char :=
  match e with
  | utf8 => none
  | lowerUpperDigitSpecial => symbol6? sp code
  | lowerSpecial | firstToLowerSpecial | allToLowerSpecial => symbol5? sp code

/-- The code of a character, or the error that names it. -/
def codeOf (e : Encoding) (sp : Specials) (c : Char) : Except Error UInt8 :=
  match e.code? sp c with
  | some code => .ok code
  | none => .error (.unsupported c e)

/-- The character of a code, or the error that names it. -/
def symbolOf (e : Encoding) (sp : Specials) (code : UInt8) : Except Error Char :=
  match e.symbol? sp code with
  | some c => .ok c
  | none => .error (.malformed (.unassignedCode code e))

end Encoding
end NamePack
