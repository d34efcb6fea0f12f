import NamePack.Cli.Listing
import NamePack.Cli.Names
import NamePack.Cli.Outcome

/-!
# The command that encodes names

Either every name is encoded and listed, or nothing is printed but the error of the first name that
cannot be encoded.
-/
namespace NamePack.Cli.EncodeOptions

/-- The names of the command line and then those of the content. -/
def allNames (o : EncodeOptions) (content : Except ReadError Bytes) :
    Except ReadError (List String) :=
  match o.source with
  | .nowhere => .ok o.names
  | .file _ => do
    let more ← Names.ofFile (← content)
    return o.names ++ more
  | .standardInput => do
    let more ← Names.ofStandardInput (← content)
    return o.names ++ more

def encoder (o : EncodeOptions) (sp : Specials) : Encoder := ⟨sp, o.allowed⟩

def encodeName (o : EncodeOptions) (enc : Encoder) (name : String) : Except Error Record :=
  match o.encoding with
  | some e => enc.encodeAs e name
  | none => enc.encode name

/-- The records of the names, or the first name that cannot be encoded and why. -/
def encodeNames (o : EncodeOptions) (enc : Encoder) (names : List String) :
    Except (String × Error) (List Record) :=
  names.mapM fun name => (o.encodeName enc name).mapError (name, ·)

/-- The reports about the encodings that are selected. A name that is too long ends the run before
    one is selected for it. -/
def selections (o : EncodeOptions) (s : Settings) (enc : Encoder) (names : List String) : String :=
  if o.encoding.isSome then ""
  else
    String.join ((names.takeWhile fun name => (Encoder.checkSize name).isOk).map (s.selection enc))

/-- What the records of all names take, as text and as payloads. -/
def summary (records : List Record) : String :=
  let texts := records.foldl (fun size r => size + r.text.utf8ByteSize) 0
  let payloads := records.foldl (fun size r => size + r.payload.length) 0
  "metastring: encoded " ++ toString records.length ++ " name(s): " ++ toString texts ++ " -> " ++
    toString payloads ++ " bytes\n"

def listing (o : EncodeOptions) (s : Settings) (records : List Record) : String :=
  if s.json then Record.jsonList records
  else String.join (records.map fun r => r.encodedLine s.quiet (r.hexShown o.framed))

/-- Encodes the names of the command line and of the content. -/
def run (o : EncodeOptions) (s : Settings) (content : Except ReadError Bytes) : Outcome :=
  match Specials.ofChars o.special1 o.special2 with
  | .error e => .failure "" e.message
  | .ok sp =>
    match o.allNames content with
    | .error e => .failure "" ("cannot read names: " ++ e.message)
    | .ok names =>
      let enc := o.encoder sp
      let reports := o.selections s enc names
      match o.encodeNames enc names with
      | .error (name, e) => .failure reports (Text.quoteText name ++ ": " ++ e.message)
      | .ok records =>
        let tells := 0 < s.verbosity && !s.quiet && !s.json
        .success (o.listing s records) (reports ++ if tells then summary records else "")

end NamePack.Cli.EncodeOptions
