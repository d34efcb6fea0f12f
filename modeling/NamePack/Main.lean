import NamePack.Cli.Run

/-!
# The program

Reads the arguments and the content they need, and prints the outcome.
-/
namespace NamePack.Cli

partial def readAll (stream : IO.FS.Stream) (done : ByteArray) : IO ByteArray := do
  let chunk ← stream.read 65536
  if chunk.isEmpty then return done else readAll stream (done ++ chunk)

/-- The cause of a failure to read. -/
def ReadError.ofFailure : IO.Error → ReadError
  | .noFileOrDirectory .. => .notFound
  | .inappropriateType .. => .isDirectory
  | e => .other (toString e)

def Source.read (source : Source) : IO (Except ReadError Bytes) := do
  try
    match source with
    | .nowhere => return .ok []
    | .file path => return .ok (← IO.FS.readBinFile path).data.toList
    | .standardInput => return .ok (← readAll (← IO.getStdin) .empty).data.toList
  catch e => return .error (.ofFailure e)

def perform (arguments : List String) : IO Outcome :=
  match readArguments arguments with
  | .error stop => return stop.outcome
  | .ok invocation => return invocation.run (← invocation.source.read)

end NamePack.Cli

def main (arguments : List String) : IO UInt32 := do
  let outcome ← NamePack.Cli.perform arguments
  (← IO.getStdout).putStr outcome.output
  (← IO.getStderr).putStr outcome.errors
  return outcome.status.toUInt32
