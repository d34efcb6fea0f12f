import NamePack.Cli.Listing
import NamePack.Cli.Usage

/-!
# Help and configuration

What the program says about itself: what it and its commands are for, and how it was built. Of a help text only the
first line is given here.
-/
namespace NamePack.Cli

def about : String := "Meta string encoder/decoder"

def Command.about : Command → String
  | .encode => "Encode names with the cheapest capable encoding"
  | .decode => "Decode a hex payload"
  | .inspect => "Parse framed records (tag, specials, length-prefixed payload)"
  | .config => "Print build/configuration details"

/-- The first line of the help of the program (`none`) or of a command. -/
def helpLine (level : Option Command) : String := level.elim about Command.about ++ "\n"

/-- How a program was built. -/
structure Build where
  version : String
  /-- Whether lists of names can be encoded on several threads. -/
  parallel : Bool
  deriving DecidableEq, Repr

/-- The build with all features. -/
def build : Build := ⟨"0.1.0", true⟩

def configLine (e : Encoding) : String :=
  let bits := match e.width? with
    | some width => toString width
    | none => "raw"
  e.name ++ "=0x" ++ Text.hexByte e.tag ++ " bits=" ++ bits ++ "\n"

def Build.config (b : Build) : String :=
  "metastring version " ++ b.version ++ " (Rust)\nPARALLEL=" ++ Record.digit b.parallel ++ "\nMAX_INPUT_LEN=" ++
    toString sizeLimit ++ "\nDEFAULT_SPECIAL1=" ++ Specials.standard.first.toString ++ "\nDEFAULT_SPECIAL2=" ++
    Specials.standard.second.toString ++ "\n" ++ String.join (Encoding.all.map configLine)

end NamePack.Cli
