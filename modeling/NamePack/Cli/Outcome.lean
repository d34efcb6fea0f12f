import NamePack.Cli.Invocation

/-!
# Outcomes

What a run of the program leaves behind: its exit status and what it printed. Reports about the work
go to the error output and depend on the verbosity.
-/
namespace NamePack.Cli

structure Outcome where
  status : UInt8
  output : String
  errors : String
  deriving DecidableEq, Repr

namespace Outcome

def success (output errors : String) : Outcome := ⟨0, output, errors⟩

/-- A run that has failed: it prints no result, and after its reports one line about the failure. -/
def failure (reports message : String) : Outcome :=
  ⟨1, "", reports ++ "metastring: " ++ message ++ "\n"⟩

end Outcome

namespace Settings

/-- A report that is made from verbosity 1 on. -/
def debug (s : Settings) (message : String) : String :=
  if 1 ≤ s.verbosity then "[DEBUG] " ++ message ++ "\n" else ""

/-- A report that is made at verbosity 2. -/
def trace (s : Settings) (message : String) : String :=
  if 2 ≤ s.verbosity then "[TRACE] " ++ message ++ "\n" else ""

/-- The report about a payload of `size` bytes that is no text. Payloads with a code that means
    nothing and wrong special characters are not reported. -/
def rejection (s : Settings) (e : Encoding) (size : Nat) (error : Error) : String :=
  match error with
  | .malformed (.notUtf8 fault) => s.debug ("rejecting UTF-8 meta string: " ++ fault.message)
  | .malformed (.noCode ..) | .malformed (.surplusBytes ..) | .malformed .dirtyPadding =>
    s.debug ("rejecting " ++ toString size ++ " byte " ++ e.name ++ " payload: " ++ error.message)
  | _ => ""

/-- The report about the encoding that is selected for a name. -/
def selection (s : Settings) (enc : Encoder) (name : String) : String :=
  s.trace ("selected " ++ (select enc.specials enc.allowed name).name ++ " for " ++
    Text.quoteText name ++ " (" ++ (Census.ofText enc.specials name).describe ++ ")")

end Settings
end NamePack.Cli
