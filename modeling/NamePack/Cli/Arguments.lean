import NamePack.Cli.Invocation
import NamePack.Cli.Usage

/-!
# Reading a command line

The arguments before the command and those after it are read one by one from left to right, each part
with options of its own (`scan`). An option whose value is the next word is settled only when the
argument after that value is known to belong to the part, so that of two errors the one about an
unknown argument is reported. Each part is then checked for arguments that exclude each other or are
missing (`Given.check`), the part after the command first.
-/
namespace NamePack.Cli

/-- What a part of a command line has given so far. -/
structure Given where
  /-- The arguments that were given, in order; one that is counted stands where it came last. -/
  order : List Argument
  /-- How often the detail of reports was raised. -/
  verbosity : Nat
  names : List String
  input : Option String
  special1 : Option Char
  special2 : Option Char
  encoding : Option Encoding
  /-- The bytes of a payload or of records. -/
  bytes : Option Bytes
  deriving DecidableEq, Repr

namespace Given

def empty : Given := ⟨[], 0, [], none, none, none, none, none⟩

def has (g : Given) (a : Argument) : Bool := g.order.contains a

def note (g : Given) (a : Argument) : Given := { g with order := g.order.erase a ++ [a] }

def character (value : String) : Except ValueFault Char :=
  match value.toList with
  | [] => .error .noCharacter
  | [c] => .ok c
  | _ => .error .manyCharacters

def store (g : Given) (a : Argument) (value : String) : Except UsageError Given :=
  let refused := fun fault => UsageError.invalidValue value a fault
  match a with
  | .input =>
    if value.isEmpty then .error (.valueRequired a) else .ok { g with input := some value }
  | .special1 => (character value).mapError refused |>.map fun c => { g with special1 := some c }
  | .special2 => (character value).mapError refused |>.map fun c => { g with special2 := some c }
  | .encoding =>
    (Encoding.ofName value).mapError (refused ∘ .encoding) |>.map fun e => { g with encoding := some e }
  | .payload | .records =>
    (Text.Hex.read value).mapError (refused ∘ .hex) |>.map fun b => { g with bytes := some b }
  | .names => .ok { g with names := g.names ++ [value] }
  | .quiet | .verbose | .json | .lossless | .framed => .ok g

/-- With an argument that is given once and its value, if there is one. -/
def settle (g : Given) (a : Argument) : Option String → Except UsageError Given
  | none => .error (.valueRequired a)
  | some value => if g.has a then .error (.repeated a) else (g.store a value).map (·.note a)

def switch (g : Given) (a : Argument) : Except UsageError Given :=
  if g.has a then .error (.repeated a) else .ok (g.note a)

/-- The first argument that excludes another one of the same part, and that other. -/
def conflict? (g : Given) : Option (Argument × Argument) :=
  g.order.findSome? fun a => (g.order.find? a.excludes).map (a, ·)

/-- Refuses arguments that exclude each other and missing ones. -/
def check (g : Given) (required : List Argument) : Except UsageError Unit :=
  match g.conflict? with
  | some (a, b) => .error (.conflict a b)
  | none => if required.all g.has then .ok () else .error .missingRequired

end Given

/-- Why a command line asks for no command. -/
inductive Stop where
  | noArguments
  | usage (e : UsageError)
  | help (level : Option Command)
  | version
  deriving DecidableEq, Repr

/-- Where the reading of a part stands: what is settled, and an argument with its value that is not;
    without a value, the next word is it. -/
structure Progress where
  given : Given
  pending : Option (Argument × Option String)
  deriving DecidableEq, Repr

namespace Progress

def start : Progress := ⟨.empty, none⟩

/-- What is given once the pending argument is settled. -/
def settled (p : Progress) : Except Stop Given :=
  match p.pending with
  | none => .ok p.given
  | some (a, value) => (p.given.settle a value).mapError .usage

/-- The option that waits for the next word as its value. -/
def waiting? (p : Progress) : Option Argument :=
  match p.pending with
  | some (a, none) => some a
  | _ => none

/-- After an option without a value of its own. -/
def option (p : Progress) (level : Option Command) (action : Action) : Except Stop Progress := do
  let g ← p.settled
  match action with
  | .help => .error (.help level)
  | .version => .error .version
  | .switch a => return ⟨← (g.switch a).mapError .usage, none⟩
  | .count a => return ⟨{ g.note a with verbosity := g.verbosity + 1 }, none⟩
  | .value a => return ⟨g, some (a, none)⟩

/-- After an option and its value in one argument. -/
def optionWith (p : Progress) (a : Argument) (value : String) : Except Stop Progress := do
  let g ← p.settled
  return ⟨← (g.settle a (some value)).mapError .usage, none⟩

/-- After short options in one argument. What follows an option that takes a value is its value, less
    an equals sign at the front. -/
def cluster (p : Progress) (level : Option Command) : List Char → Except Stop Progress
  | [] => .ok p
  | letter :: rest =>
    match shortOption? level letter with
    | none => .error (.usage (.unexpectedArgument (String.ofList ['-', letter])))
    | some (.value a) =>
      match rest with
      | [] => p.option level (.value a)
      | '=' :: value => p.optionWith a (String.ofList value)
      | value => p.optionWith a (String.ofList value)
    | some action =>
      match p.option level action with
      | .ok next => next.cluster level rest
      | .error stop => .error stop

/-- After a long option, written without its dashes. -/
def long (p : Progress) (level : Option Command) (body : List Char) : Except Stop Progress :=
  let name := body.takeWhile (· ≠ '=')
  let value := (body.dropWhile (· ≠ '=')).tail
  let hasValue := body.contains '='
  match longOption? level (String.ofList name) with
  | none => .error (.usage (.unexpectedArgument (String.ofList ('-' :: '-' :: name))))
  | some (.value a) =>
    if hasValue then p.optionWith a (String.ofList value) else p.option level (.value a)
  | some action =>
    if hasValue then .error (.usage (.unexpectedValue (String.ofList value) action.usage))
    else p.option level action

def misplaced (level : Option Command) (trailing : Bool) (word : String) : UsageError :=
  match level with
  | some _ => .unexpectedArgument word
  | none =>
    if trailing && (word = helpWord || (Command.ofName? word).isSome) then .unexpectedArgument word
    else .unknownCommand word

/-- After a word that is neither an option nor the value of one. -/
def word (p : Progress) (level : Option Command) (trailing : Bool) (w : String) :
    Except Stop Progress :=
  let single (a : Argument) : Except Stop Progress :=
    if p.given.has a || p.pending.any (·.1 = a) then .error (.usage (misplaced level trailing w))
    else p.settled.map fun g => ⟨g, some (a, some w)⟩
  match level with
  | some .encode => do
    let g ← p.settled
    return ⟨{ g with names := g.names ++ [w] }.note .names, none⟩
  | some .decode => single .payload
  | some .inspect => single .records
  | some .config | none => .error (.usage (misplaced level trailing w))

/-- After an argument that is not behind a `--`. -/
def argument (p : Progress) (level : Option Command) (w : String) : Except Stop Progress :=
  match w.toList with
  | '-' :: '-' :: body => p.long level body
  | '-' :: letter :: rest => p.cluster level (letter :: rest)
  | _ =>
    match p.waiting? with
    | some a => .ok { p with pending := some (a, some w) }
    | none => p.word level false w

end Progress

/-- Reads the arguments of a part. The part before the command ends at the word for it. -/
def scan (level : Option Command) (p : Progress) (trailing : Bool) :
    List String → Except Stop (Progress × Option (String × List String))
  | [] => .ok (p, none)
  | w :: rest =>
    if trailing then do
      scan level (← p.word level true w) true rest
    else if level.isNone && (w = helpWord || (Command.ofName? w).isSome) then .ok (p, some (w, rest))
    else if w = "--" then scan level p true rest
    else do
      scan level (← p.argument level w) false rest

/-- The arguments that a command cannot do without. -/
def Command.required : Command → List Argument
  | .encode | .config => []
  | .decode => [.encoding, .payload]
  | .inspect => [.records]

/-- The special characters that are used where none are given. -/
def Given.pair (g : Given) : Char × Char :=
  (g.special1.getD Specials.standard.first, g.special2.getD Specials.standard.second)

def Command.request (c : Command) (g : Given) : Except UsageError Request :=
  match c with
  | .encode =>
    let allowed := if g.has .lossless then EncodingSet.lossless else .all
    .ok (.encode ⟨g.names, g.input, g.pair.1, g.pair.2, g.encoding, allowed, g.has .framed⟩)
  | .decode =>
    match g.encoding, g.bytes with
    | some e, some payload => .ok (.decode ⟨e, g.pair.1, g.pair.2, payload⟩)
    | _, _ => .error .missingRequired
  | .inspect =>
    match g.bytes with
    | some records => .ok (.inspect records)
    | none => .error .missingRequired
  | .config => .ok .config

/-- The options of every command may stand in either part; a count after the command is the one that
    is taken. -/
def settingsOf (before after : Given) : Settings where
  quiet := before.has .quiet || after.has .quiet
  verbosity := min 2 (if after.has .verbose then after.verbosity else before.verbosity)
  json := before.has .json || after.has .json

def helpFor : List String → Stop
  | [] => .help none
  | [w] =>
    match Command.ofName? w with
    | some c => .help (some c)
    | none => if w = helpWord then .help none else .usage (.unknownCommand w)
  | w :: extra :: _ =>
    if w = helpWord || (Command.ofName? w).isSome then .usage (.unknownCommand extra)
    else .usage (.unknownCommand w)

def readCommand (c : Command) (arguments : List String) : Except Stop Given := do
  let (progress, _) ← scan (some c) .start false arguments
  let given ← progress.settled
  (given.check c.required).mapError .usage
  return given

/-- Reads a command line without the name of the program. -/
def readArguments (arguments : List String) : Except Stop Invocation := do
  let (progress, command) ← scan none .start false arguments
  match command with
  | none =>
    let given ← progress.settled
    .error (if given.order.isEmpty then .noArguments else .usage .noCommand)
  | some (w, rest) =>
    match Command.ofName? w with
    | none => .error (helpFor rest)
    | some c =>
      let after ← readCommand c rest
      let before ← progress.settled
      (before.check []).mapError .usage
      let request ← (c.request after).mapError .usage
      return ⟨settingsOf before after, request⟩

end NamePack.Cli
