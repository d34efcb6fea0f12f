import NamePack.EncodingSet
import NamePack.Encoder

/-!
# What a command line asks for

An invocation is a command with all its options settled. It tells which content the command needs
beside the command line (`source`).
-/
namespace NamePack.Cli

/-- The options of every command. -/
structure Settings where
  /-- Print results with less around them. -/
  quiet : Bool
  /-- How much to tell about the work: 0, 1 or 2. -/
  verbosity : Nat
  json : Bool
  deriving DecidableEq, Repr

structure EncodeOptions where
  names : List String
  input : Option String
  special1 : Char
  special2 : Char
  encoding : Option Encoding
  /-- The encodings to choose from where none is given. -/
  allowed : EncodingSet
  framed : Bool
  deriving DecidableEq, Repr

structure DecodeOptions where
  encoding : Encoding
  special1 : Char
  special2 : Char
  payload : Bytes
  deriving DecidableEq, Repr

inductive Request where
  | encode (o : EncodeOptions)
  | decode (o : DecodeOptions)
  | inspect (records : Bytes)
  | config
  deriving DecidableEq, Repr

/-- A command line that has been understood. -/
structure Invocation where
  settings : Settings
  request : Request
  deriving DecidableEq, Repr

/-- Where content comes from. -/
inductive Source where
  | nowhere
  | file (path : String)
  | standardInput
  deriving DecidableEq, Repr

/-- Names are read from a file if one is given, and from the standard input if neither a file nor a
    name is. Nothing is read where the special characters are refused. -/
def EncodeOptions.source (o : EncodeOptions) : Source :=
  match Specials.ofChars o.special1 o.special2, o.input with
  | .error _, _ => .nowhere
  | .ok _, some path => .file path
  | .ok _, none => if o.names.isEmpty then .standardInput else .nowhere

/-- The content that a command needs. -/
def Invocation.source (i : Invocation) : Source :=
  match i.request with
  | .encode o => o.source
  | _ => .nowhere

end NamePack.Cli
