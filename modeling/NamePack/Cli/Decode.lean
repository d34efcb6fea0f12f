import NamePack.Cli.Listing
import NamePack.Cli.Outcome

/-!
# The command that decodes a payload

The special characters are looked at only where the encoding has them.
-/
namespace NamePack.Cli.DecodeOptions

def text (o : DecodeOptions) : Except Error String :=
  match o.encoding with
  | .utf8 => Encoding.utf8.read .standard o.payload
  | e => do
    let sp ← Specials.ofChars o.special1 o.special2
    e.read sp o.payload

/-- The text as a JSON object, its fields in the order of their names. -/
def json (o : DecodeOptions) (text : String) : Text.JsonObject :=
  [("decoded", .text text),
    ("encoding", .text o.encoding.name),
    ("strip_last_char", .flag (o.encoding != .utf8 && Bits.isFlagged o.payload))]

def run (o : DecodeOptions) (s : Settings) : Outcome :=
  match o.text with
  | .error e =>
    .failure (s.rejection o.encoding o.payload.length e) ("decode error: " ++ e.message)
  | .ok text =>
    .success (if s.json then Text.Json.object "" (o.json text) ++ "\n" else text ++ "\n") ""

end NamePack.Cli.DecodeOptions
