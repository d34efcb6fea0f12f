import NamePack.Error

/-!
# Special characters

The two characters that the packed alphabets have beside letters and digits. A pair is valid if both
are ASCII, neither is a letter or digit, and they differ; `Specials` holds valid pairs only.
-/
namespace NamePack

/-- Whether a character may be a special one: ASCII, and neither a letter nor a digit. -/
def isSpecial (c : Char) : Bool := c.toNat < 0x80 && !c.isAlphanum

structure Specials where
  first : Char
  second : Char
  isSpecial_first : isSpecial first = true := by decide
  isSpecial_second : isSpecial second = true := by decide
  first_ne_second : first ≠ second := by decide
  deriving DecidableEq, Repr

namespace Specials

/-- The separators of package names and of field names. -/
def standard : Specials := { first := '.', second := '_' }

instance : Inhabited Specials := ⟨standard⟩

/-- The pair of two characters. The first is checked first; equal ones are blamed on the second. -/
def ofChars (a b : Char) : Except Error Specials :=
  if ha : isSpecial a = true then
    if hb : isSpecial b = true then
      if h : a = b then .error (.invalidSpecial b)
      else .ok ⟨a, b, ha, hb, h⟩
    else .error (.invalidSpecial b)
  else .error (.invalidSpecial a)

theorem ofChars_first_second (sp : Specials) : ofChars sp.first sp.second = .ok sp := by
  rw [ofChars, dif_pos sp.isSpecial_first, dif_pos sp.isSpecial_second, dif_neg sp.first_ne_second]

/-- The pair of the characters with two code points below 256. -/
def ofBytes (a b : UInt8) : Except Error Specials := ofChars (Char.ofUInt8 a) (Char.ofUInt8 b)

def firstByte (sp : Specials) : UInt8 := sp.first.toUInt8

def secondByte (sp : Specials) : UInt8 := sp.second.toUInt8

def contains (sp : Specials) (c : Char) : Bool := c == sp.first || c == sp.second

end Specials
end NamePack
