import NamePack.Text.Unprintable

/-!
# Quoted characters and texts

How a message shows a character or a text: between single or double quotes, each character that is
unprintable, a backslash or the enclosing quote spelled out (`spell`), all others as they are.
-/
namespace NamePack.Text

/-- The digits of a number in base 16, lower case and without leading zeros. -/
def hexNumber (n : Nat) : String := String.ofList (Nat.toDigits 16 n)

/-- A byte as two lower-case digits in base 16. -/
def hexByte (b : UInt8) : String :=
  String.ofList [Nat.digitChar (b.toNat / 16), Nat.digitChar (b.toNat % 16)]

/-- How a character is written between two `quote` characters. -/
def spell (quote c : Char) : String :=
  if c = '\x00' then "\\0"
  else if c = '\t' then "\\t"
  else if c = '\r' then "\\r"
  else if c = '\n' then "\\n"
  else if c = '\\' then "\\\\"
  else if c = quote then "\\" ++ quote.toString
  else if isUnprintable c then "\\u\x7b" ++ hexNumber c.toNat ++ "\x7d"
  else c.toString

def quoteChar (c : Char) : String := "'" ++ spell '\x27' c ++ "'"

def quoteText (s : String) : String :=
  s.toList.foldl (fun shown c => shown ++ spell '\x22' c) "\"" ++ "\""

end NamePack.Text
