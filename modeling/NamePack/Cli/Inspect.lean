import NamePack.Cli.Listing
import NamePack.Cli.Outcome

/-!
# The command that inspects frames

The bytes are read as one frame after another to their end. Where a frame cannot be read, nothing is
printed but its offset and the error.
-/
namespace NamePack.Cli.Inspect

/-- The records in bytes that start at `offset` of a stream, each with the offset and the size of its
    frame, and the offset and error of the first frame that cannot be read. -/
def readFrames (offset : Nat) (data : Bytes) :
    List (Nat × Nat × Record) × Option (Nat × Error) :=
  if data.isEmpty then ([], none)
  else
    match frame : Frame.read data with
    | .error e => ([], some (offset, e))
    | .ok (r, used) =>
      have := Frame.length_sub_lt frame
      let (more, fault) := readFrames (offset + used) (data.drop used)
      ((offset, used, r) :: more, fault)
termination_by data.length

/-- The report about a record that was read. -/
def progress (s : Settings) (offset used : Nat) : String :=
  if 1 < s.verbosity then
    "metastring: record at offset " ++ toString offset ++ ": " ++ toString used ++ " bytes\n"
  else ""

/-- The report about a frame whose payload is no text. -/
def rejection (s : Settings) (frame : Bytes) (e : Error) : String :=
  match Frame.split frame with
  | .ok parts => s.rejection parts.encoding parts.payload.length e
  | .error _ => ""

def reports (s : Settings) (frames : List (Nat × Nat × Record)) : String :=
  String.join (frames.map fun f => progress s f.1 f.2.1)

def listing (s : Settings) (records : List Record) : String :=
  if s.json then Record.jsonList records else String.join (records.map Record.inspectedLine)

def run (s : Settings) (data : Bytes) : Outcome :=
  let (frames, fault) := readFrames 0 data
  match fault with
  | some (offset, e) =>
    .failure (reports s frames ++ rejection s (data.drop offset) e)
      ("record at offset " ++ toString offset ++ ": " ++ e.message)
  | none => .success (listing s (frames.map (·.2.2))) (reports s frames)

end NamePack.Cli.Inspect
