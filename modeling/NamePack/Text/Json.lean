import NamePack.Text.Quoted

/-!
# JSON text

Flat JSON objects and lists of them, spread over lines with two spaces a level. Characters below the
space are escaped, all others outside the quote and the backslash stand for themselves.
-/
namespace NamePack.Text

inductive JsonAtom where
  | text (s : String)
  | number (n : Nat)
  | flag (b : Bool)
  deriving DecidableEq, Repr

/-- An object whose values have no parts, in the order in which its fields are printed. -/
abbrev JsonObject := List (String × JsonAtom)

namespace Json

/-- How a character is written inside a JSON string. -/
def escape (c : Char) : String :=
  if c = '\x22' then "\\\""
  else if c = '\\' then "\\\\"
  else if c = '\x08' then "\\b"
  else if c = '\x0c' then "\\f"
  else if c = '\n' then "\\n"
  else if c = '\r' then "\\r"
  else if c = '\t' then "\\t"
  else if c.toNat < 0x20 then "\\u00" ++ hexByte c.toNat.toUInt8
  else c.toString

def string (s : String) : String :=
  s.toList.foldl (fun shown c => shown ++ escape c) "\"" ++ "\""

def atom : JsonAtom → String
  | .text s => string s
  | .number n => toString n
  | .flag b => if b then "true" else "false"

/-- An object whose first line stands after `margin` and whose fields stand two spaces further in. -/
def object (margin : String) (fields : JsonObject) : String :=
  let shown := fields.map fun f => margin ++ "  " ++ string f.1 ++ ": " ++ atom f.2
  "\x7b\n" ++ String.intercalate ",\n" shown ++ "\n" ++ margin ++ "\x7d"

def list : List JsonObject → String
  | [] => "[]"
  | objects =>
    "[\n" ++ String.intercalate ",\n" (objects.map fun o => "  " ++ object "  " o) ++ "\n]"

end Json
end NamePack.Text
