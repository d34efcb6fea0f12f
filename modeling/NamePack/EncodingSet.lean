import NamePack.Encoding
import NamePack.Text.Quoted

/-!
# Sets of encodings

A set is a byte with a bit for each encoding. The three bits that belong to none may be set: union,
difference and exclusive union keep them, `complement` and `truncate` clear them. Plain UTF-8 is
always allowed, in the set or not (`allows`).
-/
namespace NamePack

/-- A set of encodings as a byte. -/
structure EncodingSet where
  bits : UInt8
  deriving DecidableEq, Repr

namespace Encoding

def flag (e : Encoding) : EncodingSet := ⟨1 <<< e.tag⟩

end Encoding

namespace EncodingSet

def empty : EncodingSet := ⟨0⟩

def all : EncodingSet := ⟨31⟩

instance : Inhabited EncodingSet := ⟨all⟩

def union (s t : EncodingSet) : EncodingSet := ⟨s.bits ||| t.bits⟩

def inter (s t : EncodingSet) : EncodingSet := ⟨s.bits &&& t.bits⟩

/-- What is in the first set alone. -/
def diff (s t : EncodingSet) : EncodingSet := ⟨s.bits &&& ~~~t.bits⟩

/-- What is in exactly one of the sets. -/
def symmDiff (s t : EncodingSet) : EncodingSet := ⟨s.bits ^^^ t.bits⟩

/-- The set without the bits that belong to no encoding. -/
def truncate (s : EncodingSet) : EncodingSet := s.inter all

def complement (s : EncodingSet) : EncodingSet := truncate ⟨~~~s.bits⟩

def ofList (es : List Encoding) : EncodingSet := es.foldl (fun s e => s.union e.flag) empty

/-- Whether every bit of `t` is set in `s`. -/
def contains (s t : EncodingSet) : Bool := s.inter t == t

/-- Whether the sets share a bit. -/
def intersects (s t : EncodingSet) : Bool := s.inter t != empty

def isEmpty (s : EncodingSet) : Bool := s == empty

def isAll (s : EncodingSet) : Bool := s.contains all

/-- Whether a text may be written with an encoding. -/
def allows (s : EncodingSet) (e : Encoding) : Bool := e == .utf8 || s.contains e.flag

/-- The encodings that give back every text they write. -/
def lossless : EncodingSet := all.diff (Encoding.allToLowerSpecial).flag

/-- The members in the order of their tags. -/
def toList (s : EncodingSet) : List Encoding := Encoding.all.filter fun e => s.contains e.flag

/-- The members by name and then the bits that belong to no encoding. -/
def describe (s : EncodingSet) : String :=
  let rest := s.diff all
  let names := s.toList.map Encoding.name
  let parts := if rest.isEmpty then names else names ++ ["0x" ++ Text.hexNumber rest.bits.toNat]
  "EncodingSet(" ++ (if s.isEmpty then "0x0" else String.intercalate " | " parts) ++ ")"

theorem allows_utf8 (s : EncodingSet) : s.allows .utf8 = true := by
  simp [allows]

end EncodingSet
end NamePack
