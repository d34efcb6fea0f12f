import NamePack.EncodingSet
import NamePack.Specials

/-!
# Counting characters and choosing an encoding

A census counts the characters of a text by class; from the counts alone `fits` tells which encodings
can write the text, and `select` takes the first in the order of preference that is allowed and fits.
-/
namespace NamePack

/-- The classes of characters that encodings tell apart. -/
inductive CharClass where
  | lower
  | upper
  | digit
  | special
  | other
  deriving DecidableEq, Repr

def Specials.classOf (sp : Specials) (c : Char) : CharClass :=
  if c.isLower then .lower
  else if c.isUpper then .upper
  else if c.isDigit then .digit
  else if sp.contains c then .special
  else .other

/-- How many characters of each class a text has. -/
structure Census where
  size : Nat
  lower : Nat
  upper : Nat
  digit : Nat
  special : Nat
  other : Nat
  firstIsUpper : Bool
  deriving DecidableEq, Repr

namespace Census

def empty : Census := ⟨0, 0, 0, 0, 0, 0, false⟩

/-- The census of a text with one more character at its end. -/
def add (s : Census) (k : CharClass) : Census :=
  match k with
  | .lower => { s with size := s.size + 1, lower := s.lower + 1 }
  | .upper =>
    { s with size := s.size + 1, upper := s.upper + 1, firstIsUpper := s.firstIsUpper || s.size == 0 }
  | .digit => { s with size := s.size + 1, digit := s.digit + 1 }
  | .special => { s with size := s.size + 1, special := s.special + 1 }
  | .other => { s with size := s.size + 1, other := s.other + 1 }

def total (s : Census) : Nat := s.lower + s.upper + s.digit + s.special + s.other

theorem size_add (s : Census) (k : CharClass) : (s.add k).size = s.size + 1 := by
  cases k <;> rfl

theorem total_add (s : Census) (k : CharClass) : (s.add k).total = s.total + 1 := by
  cases k <;> simp only [add, total] <;> omega

def ofText (sp : Specials) (text : String) : Census :=
  text.toList.foldl (fun s c => s.add (sp.classOf c)) empty

/-- Whether an encoding can write a text of this census. -/
def fits (s : Census) : Encoding → Bool
  | .utf8 => true
  | .lowerSpecial => s.other == 0 && s.upper == 0 && s.digit == 0
  | .firstToLowerSpecial => s.other == 0 && s.upper == 1 && s.firstIsUpper && s.digit == 0
  | .allToLowerSpecial => s.other == 0 && s.digit == 0
  | .lowerUpperDigitSpecial => s.other == 0

def describe (s : Census) : String :=
  let first := if s.firstIsUpper then "true" else "false"
  "CharStats \x7b len: " ++ toString s.size ++ ", lower: " ++ toString s.lower ++
    ", upper: " ++ toString s.upper ++ ", digit: " ++ toString s.digit ++
    ", special: " ++ toString s.special ++ ", other: " ++ toString s.other ++
    ", first_is_upper: " ++ first ++ " \x7d"

end Census

/-- All encodings, the one that is taken first at the head. -/
def Encoding.preference : List Encoding :=
  [lowerSpecial, firstToLowerSpecial, allToLowerSpecial, lowerUpperDigitSpecial, utf8]

/-- The first encoding in the order of preference that is allowed and can write the text. -/
def select (sp : Specials) (allowed : EncodingSet) (text : String) : Encoding :=
  let census := Census.ofText sp text
  (Encoding.preference.find? fun e => allowed.allows e && census.fits e).getD .utf8

end NamePack
