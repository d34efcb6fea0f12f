import NamePack.Frame.Length
import NamePack.Record

/-!
# Frames

A frame is a record in a byte stream: the tag of its encoding, the two special characters, the length
of the payload and the payload. `read` takes a frame from the front of a stream and accepts exactly
the frames whose payload the encoding reads.
-/
namespace NamePack.Frame

def write (r : Record) : Bytes :=
  [r.encoding.tag, r.special1, r.special2] ++ Length.write r.payload.length.toUInt64 ++ r.payload

def size (r : Record) : Nat :=
  headerSize + Length.groupCount r.payload.length.toUInt64 + r.payload.length

/-- The size of a frame is known before it is written. -/
theorem length_write (r : Record) : (write r).length = size r := by
  simp only [write, size, headerSize, List.length_append, Length.length_write, List.length_cons,
    List.length_nil]

/-- What a frame holds, before its payload is read. -/
structure Parts where
  encoding : Encoding
  special1 : UInt8
  special2 : UInt8
  payload : Bytes
  used : Nat
  deriving DecidableEq, Repr

/-- Takes a frame from the front of a stream apart. -/
def split (data : Bytes) : Except Error Parts :=
  match data with
  | tag :: special1 :: special2 :: rest => do
    let e ← Encoding.ofTag tag
    let (length, used) ← Length.read rest
    let body := rest.drop used
    let need := length.toNat
    let payload := body.take need
    if payload.length < need then .error (.malformed (.truncatedPayload need body.length))
    else .ok ⟨e, special1, special2, payload, headerSize + used + need⟩
  | _ => .error (.malformed (.truncatedHeader data.length))

def Parts.record (p : Parts) : Except Error Record :=
  Record.ofParts p.encoding p.special1 p.special2 p.payload

/-- The record at the front of a stream and the number of bytes of its frame. -/
def read (data : Bytes) : Except Error (Record × Nat) := do
  let parts ← split data
  let record ← parts.record
  return (record, parts.used)

/-- A frame takes at least the bytes of its header. -/
theorem split_used_pos {data : Bytes} {parts : Parts} (h : split data = .ok parts) :
    0 < parts.used := by
  unfold split at h
  split at h
  · rename_i tag special1 special2 rest
    cases he : Encoding.ofTag tag with
    | error e => simp [he, bind, Except.bind] at h
    | ok e =>
      cases hl : Length.read rest with
      | error e => simp [he, hl, bind, Except.bind] at h
      | ok p =>
        simp only [he, hl, bind, Except.bind] at h
        split at h
        · cases h
        · cases h; simp only [headerSize]; omega
  · cases h

theorem read_used_pos {data : Bytes} {r : Record} {used : Nat} (h : read data = .ok (r, used)) :
    0 < used := by
  unfold read at h
  cases hs : split data with
  | error e => simp [hs, bind, Except.bind] at h
  | ok parts =>
    cases hr : parts.record with
    | error e => simp [hs, hr, bind, Except.bind] at h
    | ok record =>
      simp only [hs, hr, bind, Except.bind, pure, Except.pure, Except.ok.injEq, Prod.mk.injEq] at h
      exact h.2 ▸ split_used_pos hs

/-- Reading a frame takes bytes away, so a stream is read to its end. -/
theorem length_sub_lt {data : Bytes} {r : Record} {used : Nat} (h : read data = .ok (r, used)) :
    data.length - used < data.length := by
  have pos := read_used_pos h
  cases data with
  | nil => cases h
  | cons b rest => simp only [List.length_cons]; omega

end NamePack.Frame
