import NamePack.Frame
import NamePack.Text.Json

/-!
# Listings of records

How the commands print records: as lines with tabs between the fields, and as JSON.
-/
namespace NamePack.Record

def digit (b : Bool) : String := if b then "1" else "0"

/-- The line for an encoded name; a quiet one is `hex` alone. -/
def encodedLine (quiet : Bool) (hex : String) (r : Record) : String :=
  if quiet then hex ++ "\n"
  else
    r.text ++ "\t" ++ r.encoding.name ++ "\tstrip=" ++ digit r.isFlagged ++ "\t" ++
      toString r.payload.length ++ "\t" ++ hex ++ "\n"

/-- The digits that stand for a record: of its frame or of its payload alone. -/
def hexShown (framed : Bool) (r : Record) : String :=
  Text.Hex.write (if framed then Frame.write r else r.payload)

/-- The line for a record that was read from a frame. -/
def inspectedLine (r : Record) : String :=
  r.text ++ "\t" ++ r.encoding.name ++ "\tspecials=" ++ (Char.ofUInt8 r.special1).toString ++
    (Char.ofUInt8 r.special2).toString ++ "\tstrip=" ++ digit r.isFlagged ++ "\t" ++
    Text.Hex.write r.payload ++ "\n"

/-- A record as a JSON object, its fields in the order of their names. -/
def json (r : Record) : Text.JsonObject :=
  [("encoded_hex", .text (Text.Hex.write r.payload)),
    ("encoded_len", .number r.payload.length),
    ("encoding", .text r.encoding.name),
    ("framed_hex", .text (Text.Hex.write (Frame.write r))),
    ("input", .text r.text),
    ("special_char1", .text (Char.ofUInt8 r.special1).toString),
    ("special_char2", .text (Char.ofUInt8 r.special2).toString),
    ("strip_last_char", .flag r.isFlagged),
    ("tag", .number r.encoding.tag.toNat)]

def jsonList (rs : List Record) : String := Text.Json.list (rs.map json) ++ "\n"

end NamePack.Record
