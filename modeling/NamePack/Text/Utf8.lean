/-!
# UTF-8 and its faults

A text as its UTF-8 bytes (`utf8`), the way back (`ofUtf8?`), and for bytes that are no text the first
place where they stop being UTF-8 (`Utf8Fault.first`).
-/
namespace NamePack

abbrev Bytes := List UInt8

namespace Text

def utf8 (s : String) : Bytes := s.toUTF8.data.toList

/-- The text that bytes spell in UTF-8. -/
def ofUtf8? (bytes : Bytes) : Option String := String.fromUTF8? ⟨⟨bytes⟩⟩

inductive Utf8Fault where
  /-- The `length` bytes from `index` begin no character. -/
  | invalid (length index : Nat)
  /-- The bytes end inside the character that starts at `index`. -/
  | incomplete (index : Nat)
  deriving DecidableEq, Repr

def Utf8Fault.message : Utf8Fault → String
  | .invalid length index => s!"invalid utf-8 sequence of {length} bytes from index {index}"
  | .incomplete index => s!"incomplete utf-8 byte sequence from index {index}"

/-- Where a scan stands: the character that starts at `start` has `seen` bytes so far and is owed
    `owed` more, the next of them between `low` and `high`. -/
structure Utf8Scan where
  start : Nat
  seen : Nat
  owed : Nat
  low : UInt8
  high : UInt8

/-- A scan between characters. -/
def Utf8Scan.between (start : Nat) : Utf8Scan := ⟨start, 0, 0, 0x80, 0xbf⟩

/-- The scan after the first byte of a character, or nothing if no character starts with it. The
    bounds on the second byte rule out overlong forms, surrogates and values past the last code
    point. -/
def Utf8Scan.lead? (start : Nat) (b : UInt8) : Option Utf8Scan :=
  if b < 0x80 then some (.between (start + 1))
  else if b < 0xc2 then none
  else if b < 0xe0 then some ⟨start, 1, 1, 0x80, 0xbf⟩
  else if b = 0xe0 then some ⟨start, 1, 2, 0xa0, 0xbf⟩
  else if b = 0xed then some ⟨start, 1, 2, 0x80, 0x9f⟩
  else if b < 0xf0 then some ⟨start, 1, 2, 0x80, 0xbf⟩
  else if b = 0xf0 then some ⟨start, 1, 3, 0x90, 0xbf⟩
  else if b < 0xf4 then some ⟨start, 1, 3, 0x80, 0xbf⟩
  else if b = 0xf4 then some ⟨start, 1, 3, 0x80, 0x8f⟩
  else none

/-- The scan after a later byte of a character. -/
def Utf8Scan.tail? (s : Utf8Scan) (b : UInt8) : Option Utf8Scan :=
  if b < s.low || s.high < b then none
  else if s.owed = 1 then some (.between (s.start + s.seen + 1))
  else some ⟨s.start, s.seen + 1, s.owed - 1, 0x80, 0xbf⟩

/-- The first fault that a scan meets; bytes without one end inside the character after them. -/
def Utf8Scan.fault (s : Utf8Scan) : Bytes → Utf8Fault
  | [] => .incomplete s.start
  | b :: rest =>
    if s.owed = 0 then
      match lead? s.start b with
      | some next => next.fault rest
      | none => .invalid 1 s.start
    else
      match s.tail? b with
      | some next => next.fault rest
      | none => .invalid s.seen s.start

def Utf8Fault.first (bytes : Bytes) : Utf8Fault := (Utf8Scan.between 0).fault bytes

end Text
end NamePack
