import NamePack.Text.Utf8

/-!
# Bytes as hexadecimal text

`Hex.write` gives two lower-case digits a byte. `Hex.read` takes digits of either case, passes over
ASCII blanks anywhere and one leading `0x`, and names the first thing that is wrong.
-/
namespace NamePack.Text.Hex

def byteDigits (b : UInt8) : List Char :=
  [Nat.digitChar (b.toNat / 16), Nat.digitChar (b.toNat % 16)]

def write (bytes : Bytes) : String := String.ofList (bytes.flatMap byteDigits)

/-- The value of a digit of either case. -/
def digit? (c : Char) : Option Nat :=
  if '0' ≤ c ∧ c ≤ '9' then some (c.toNat - '0'.toNat)
  else if 'a' ≤ c ∧ c ≤ 'f' then some (c.toNat - 'a'.toNat + 10)
  else if 'A' ≤ c ∧ c ≤ 'F' then some (c.toNat - 'A'.toNat + 10)
  else none

/-- Why a text is not hexadecimal. The texts named here have lost their blanks and their `0x`. -/
inductive Fault where
  | notAscii (digits : String)
  | oddLength (digits : String)
  | badPair (high low : Char)
  deriving DecidableEq, Repr

def Fault.message : Fault → String
  | .notAscii digits => s!"hex string '{digits}' contains non-ASCII characters"
  | .oddLength digits => s!"hex string '{digits}' has odd length"
  | .badPair high low => s!"invalid hex '{high}{low}'"

/-- The ASCII blanks: space, tab, line feed, form feed and carriage return. -/
def isAsciiBlank (c : Char) : Bool :=
  c = ' ' || c = '\t' || c = '\n' || c = '\x0c' || c = '\r'

/-- The characters after one leading `0x` or `0X`. -/
def dropMarker : List Char → List Char
  | '0' :: 'x' :: rest => rest
  | '0' :: 'X' :: rest => rest
  | cs => cs

/-- What is left of a text once blanks and marker are gone. -/
def digitsOf (s : String) : List Char := dropMarker (s.toList.filter (! isAsciiBlank ·))

/-- Reads the digits two by two after the bytes `done`; a last one alone is passed over. -/
def readPairs (done : Array UInt8) : List Char → Except Fault Bytes
  | high :: low :: rest =>
    match digit? high, digit? low with
    | some h, some l => readPairs (done.push (16 * h + l).toUInt8) rest
    | _, _ => .error (.badPair high low)
  | _ => .ok done.toList

def read (s : String) : Except Fault Bytes :=
  let digits := digitsOf s
  if digits.any (0x80 ≤ ·.toNat) then .error (.notAscii (String.ofList digits))
  else if digits.length % 2 = 1 then .error (.oddLength (String.ofList digits))
  else readPairs #[] digits

end NamePack.Text.Hex
