import NamePack.Encoder
import NamePack.Frame

/-!
# Sessions

A session keeps an encoder, a buffer of frames with a reading position, and the last record that was
written or read. Each step changes it and gives an answer. A step that fails changes nothing, but
for the position of a reading, which is brought back to the end of the buffer if it is past it.
-/
namespace NamePack

structure Session where
  encoder : Encoder
  buffer : Bytes
  position : Nat
  last : Option Record
  deriving DecidableEq, Repr

namespace Session

def start : Session := ⟨default, [], 0, none⟩

/-- What can be asked of a session. -/
inductive Step where
  /-- Begin with another pair of special characters and every encoding allowed. -/
  | specials (a b : Char)
  /-- Choose from these encodings. -/
  | allow (set : EncodingSet)
  /-- Write a name with the encoding that its characters select. -/
  | encode (text : String)
  /-- Write a name with a given encoding. -/
  | encodeAs (encoding : Encoding) (text : String)
  /-- Add the frame of the last record to the buffer. -/
  | frame
  | append (bytes : Bytes)
  /-- Replace the byte at an index, if there is one. -/
  | set (index : Nat) (byte : UInt8)
  /-- Keep so many bytes of the buffer. -/
  | truncate (size : Nat)
  /-- Go to a position, at most to the end of the buffer. -/
  | seek (position : Nat)
  | read
  | decode
  /-- Read the payload of the last record in another way. -/
  | decodeAs (encoding : Encoding) (special1 special2 : UInt8)

inductive Answer where
  | encoder (e : Encoder)
  | allowed (set : EncodingSet)
  | record (r : Record)
  | buffer (bytes : Bytes)
  | position (n : Nat)
  /-- A record, the bytes of its frame, the position after it and whether the last one was the same. -/
  | reading (r : Record) (used position : Nat) (equalsLast : Bool)
  | text (s : String)
  | error (e : Error)
  /-- There is no last record. -/
  | nothing

/-- A session whose last record is what a step has written. -/
def keep (s : Session) : Except Error Record → Session × Answer
  | .ok r => ({ s with last := some r }, .record r)
  | .error e => (s, .error e)

def rebuffer (s : Session) (bytes : Bytes) : Session × Answer :=
  ({ s with buffer := bytes }, .buffer bytes)

def Answer.ofText : Except Error String → Answer
  | .ok s => .text s
  | .error e => .error e

/-- The session after a step and the answer to it. -/
def step (s : Session) : Step → Session × Answer
  | .specials a b =>
    match Specials.ofChars a b with
    | .ok sp => ({ s with encoder := .ofSpecials sp }, .encoder (.ofSpecials sp))
    | .error e => (s, .error e)
  | .allow set => ({ s with encoder := { s.encoder with allowed := set } }, .allowed set)
  | .encode text => s.keep (s.encoder.encode text)
  | .encodeAs e text => s.keep (s.encoder.encodeAs e text)
  | .frame =>
    match s.last with
    | some r => s.rebuffer (s.buffer ++ Frame.write r)
    | none => (s, .nothing)
  | .append bytes => s.rebuffer (s.buffer ++ bytes)
  | .set index byte => s.rebuffer (s.buffer.set index byte)
  | .truncate size => s.rebuffer (s.buffer.take size)
  | .seek position =>
    let position := min position s.buffer.length
    ({ s with position }, .position position)
  | .read =>
    let position := min s.position s.buffer.length
    match Frame.read (s.buffer.drop position) with
    | .ok (r, used) =>
      ({ s with position := position + used, last := some r },
        .reading r used (position + used) (s.last == some r))
    | .error e => ({ s with position }, .error e)
  | .decode =>
    match s.last with
    | some r => (s, .ofText r.decode)
    | none => (s, .nothing)
  | .decodeAs e special1 special2 =>
    match s.last with
    | some r => (s, .ofText (e.readWith special1 special2 r.payload))
    | none => (s, .nothing)

/-- The answers to steps taken one after another. -/
def run (s : Session) : List Step → List Answer
  | [] => []
  | t :: rest =>
    let (next, answer) := s.step t
    answer :: next.run rest

end Session
end NamePack
