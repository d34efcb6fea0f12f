import NamePack.Error
import NamePack.Text.Hex
import NamePack.Text.Plain

/-!
# Commands, arguments and how their use can be wrong

The vocabulary of the command line: its commands, the options and words that each takes, and the
errors of a command line that cannot be understood (`UsageError`).
-/
namespace NamePack.Cli

/-- What the program can be told to do. -/
inductive Command where
  | encode
  | decode
  | inspect
  | config
  deriving DecidableEq, Repr

def Command.all : List Command := [.encode, .decode, .inspect, .config]

def Command.name : Command → String
  | .encode => "encode"
  | .decode => "decode"
  | .inspect => "inspect"
  | .config => "config"

def Command.ofName? (word : String) : Option Command := Command.all.find? (·.name = word)

/-- The word that asks for help in place of a command. -/
def helpWord : String := "help"

/-- An option or a word that a command line can give. -/
inductive Argument where
  | quiet
  | verbose
  | json
  | input
  | special1
  | special2
  | encoding
  | lossless
  | framed
  | names
  | payload
  | records
  deriving DecidableEq, Repr

/-- How a message refers to an argument. -/
def Argument.usage : Argument → String
  | .quiet => "--quiet"
  | .verbose => "--verbose..."
  | .json => "--json"
  | .input => "--input <INPUT>"
  | .special1 => "--special1 <SPECIAL1>"
  | .special2 => "--special2 <SPECIAL2>"
  | .encoding => "--encoding <ENCODING>"
  | .lossless => "--lossless"
  | .framed => "--framed"
  | .names => "[NAMES]..."
  | .payload => "<PAYLOAD>"
  | .records => "<RECORDS>"

def Argument.excludes : Argument → Argument → Bool
  | .quiet, .verbose | .verbose, .quiet => true
  | .encoding, .lossless | .lossless, .encoding => true
  | _, _ => false

/-- What an option does. -/
inductive Action where
  | help
  | version
  /-- Is given once and has no value. -/
  | switch (a : Argument)
  /-- Is given any number of times and has no value. -/
  | count (a : Argument)
  /-- Is given once with a value. -/
  | value (a : Argument)
  deriving DecidableEq, Repr

def Action.usage : Action → String
  | .help => "--help"
  | .version => "--version"
  | .switch a | .count a | .value a => a.usage

/-- The long options before the command (`none`) or after it. -/
def longOption? (level : Option Command) (name : String) : Option Action :=
  match name with
  | "help" => some .help
  | "quiet" => some (.switch .quiet)
  | "verbose" => some (.count .verbose)
  | "json" => some (.switch .json)
  | _ =>
    match level, name with
    | none, "version" => some .version
    | some .encode, "input" => some (.value .input)
    | some .encode, "lossless" => some (.switch .lossless)
    | some .encode, "framed" => some (.switch .framed)
    | some .encode, "encoding" | some .decode, "encoding" => some (.value .encoding)
    | some .encode, "special1" | some .decode, "special1" => some (.value .special1)
    | some .encode, "special2" | some .decode, "special2" => some (.value .special2)
    | _, _ => none

/-- The short options before the command (`none`) or after it. -/
def shortOption? (level : Option Command) (letter : Char) : Option Action :=
  match level, letter with
  | _, 'h' => some .help
  | _, 'q' => some (.switch .quiet)
  | _, 'v' => some (.count .verbose)
  | none, 'V' => some .version
  | some .decode, 'e' => some (.value .encoding)
  | _, _ => none

/-- Why a value does not suit its option. -/
inductive ValueFault where
  | noCharacter
  | manyCharacters
  | encoding (e : Error)
  | hex (f : Text.Hex.Fault)
  deriving DecidableEq, Repr

def ValueFault.message : ValueFault → String
  | .noCharacter => "cannot parse char from empty string"
  | .manyCharacters => "too many characters in string"
  | .encoding e => e.message
  | .hex f => f.message

/-- Why a command line cannot be understood. -/
inductive UsageError where
  | noCommand
  | unknownCommand (word : String)
  | unexpectedArgument (word : String)
  /-- A value for an option that takes none. -/
  | unexpectedValue (value : String) (option : String)
  | valueRequired (a : Argument)
  | repeated (a : Argument)
  /-- Two arguments that exclude each other, the one that came first at the front. -/
  | conflict (a b : Argument)
  | invalidValue (value : String) (a : Argument) (fault : ValueFault)
  /-- Arguments without which a command cannot do anything. -/
  | missingRequired
  deriving DecidableEq, Repr

/-- What leads to the option for help at the end of a message. -/
def toHelp : String := "\n\nFor more information, try '"

/-- The parts of the wording of an error, up to the option for help. What the user wrote and what names
    an argument is set off, and is a part of its own; what a fault quotes is not. -/
def UsageError.parts : UsageError → List String
  | .noCommand => ["error: 'metastring' requires a subcommand but one was not provided" ++ toHelp]
  | .unknownCommand word => ["error: unrecognized subcommand '", word, "'" ++ toHelp]
  | .unexpectedArgument word => ["error: unexpected argument '", word, "' found" ++ toHelp]
  | .unexpectedValue value option =>
    ["error: unexpected value '", value, "' for '", option, "' found; no more were expected" ++ toHelp]
  | .valueRequired a =>
    ["error: a value is required for '", a.usage, "' but none was supplied" ++ toHelp]
  | .repeated a => ["error: the argument '", a.usage, "' cannot be used multiple times" ++ toHelp]
  | .conflict a b =>
    ["error: the argument '", a.usage, "' cannot be used with '", b.usage, "'" ++ toHelp]
  | .invalidValue value a fault =>
    ["error: invalid value '", value, "' for '", a.usage, "': " ++ fault.message ++ toHelp]
  | .missingRequired =>
    ["error: the following required arguments were not provided:" ++ toHelp]

/-- The wording of an error. Each part is freed of terminal control by itself, so a sequence that one
    leaves open hides the rest of that part only. -/
def UsageError.message (e : UsageError) : String :=
  String.join (e.parts.map Text.plain) ++ "--help'.\n"

end NamePack.Cli
