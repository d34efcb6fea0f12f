import NamePack.Cli.Arguments
import NamePack.Cli.Decode
import NamePack.Cli.Encode
import NamePack.Cli.Help
import NamePack.Cli.Inspect

/-!
# Running a command line

A command line is read first (`readArguments`). What comes of it is either the outcome of a command,
which may need content from elsewhere, or that of a command line that asks for none.
-/
namespace NamePack.Cli

/-- The outcome of a command with the content of its source. -/
def Invocation.run (i : Invocation) (content : Except ReadError Bytes) : Outcome :=
  match i.request with
  | .encode o => o.run i.settings content
  | .decode o => o.run i.settings
  | .inspect records => Inspect.run i.settings records
  | .config => .success "" build.config

/-- The outcome of a command line that asks for no command. -/
def Stop.outcome : Stop → Outcome
  | .noArguments => ⟨2, "", helpLine none⟩
  | .usage e => ⟨2, "", e.message⟩
  | .help level => .success (helpLine level) ""
  | .version => .success ("metastring " ++ build.version ++ "\n") ""

end NamePack.Cli
