import NamePack.Text.Utf8

/-!
# Text without terminal control

What is left of a text where no terminal reads it (`plain`): control characters other than the ASCII
blanks are gone, and so are escape sequences and control strings.

A run of shown characters lasts until a character that is not shown by itself. Most runs stand between
sequences, but a blank inside a sequence is passed on and begins one too; the character that ends it
then continues the sequence.
-/
namespace NamePack.Text

/-- What a hidden character belongs to. -/
inductive ControlMode where
  | ground
  /-- The sequence that an escape character has begun. -/
  | escape
  /-- An escape sequence after its first intermediate character. -/
  | escapeTail
  /-- A control sequence, which a letter or a sign above `?` ends. -/
  | sequence
  /-- A device control string before its first character. -/
  | deviceHead
  /-- The parameters of a device control string. -/
  | deviceParameters
  /-- The intermediate characters of a device control string. -/
  | deviceTail
  /-- The text of a device control string or of another control string. -/
  | string
  /-- An operating system command, which a bell ends. -/
  | command
  deriving DecidableEq, Repr

/-- Whether a control character is passed on as a blank. -/
def isControlBlank (c : Char) : Bool := c = '\t' || c = '\n' || c = '\x0c' || c = '\r'

/-- Whether a character is shown where it belongs to no sequence. -/
def isShown (c : Char) : Bool :=
  isControlBlank c || (0x20 ≤ c.toNat && c.toNat != 0x7f)

/-- Whether the byte that ends control strings is in the UTF-8 form of a character. -/
def hasTerminator (c : Char) : Bool := (utf8 c.toString).contains 0x9c

namespace ControlMode

/-- The mode after a control character in a mode where such characters do not count, and whether the
    character is shown. -/
def control (m : ControlMode) (c : Char) : ControlMode × Bool := (m, isControlBlank c)

/-- The mode after an ASCII character that is neither an escape character nor a cancelling one, and
    whether the character is shown. -/
def nextAscii (m : ControlMode) (c : Char) : ControlMode × Bool :=
  let n := c.toNat
  match m with
  | ground => (ground, isShown c)
  | escape =>
    if n < 0x20 then escape.control c
    else if n < 0x30 then (escapeTail, false)
    else if c = '[' then (sequence, false)
    else if c = ']' then (command, false)
    else if c = 'P' then (deviceHead, false)
    else if c = 'X' || c = '^' || c = '_' then (string, false)
    else (if n = 0x7f then escape else ground, false)
  | escapeTail =>
    if n < 0x20 then escapeTail.control c
    else (if n < 0x30 || n = 0x7f then escapeTail else ground, false)
  | sequence =>
    if n < 0x20 then sequence.control c
    else (if n < 0x40 || n = 0x7f then sequence else ground, false)
  | deviceHead =>
    (if n < 0x20 || n = 0x7f then deviceHead
      else if n < 0x30 then deviceTail
      else if n < 0x40 then deviceParameters
      else string, false)
  | deviceParameters =>
    (if n < 0x20 || n = 0x7f || (0x30 ≤ n && n < 0x3c) then deviceParameters
      else if n < 0x30 then deviceTail
      else string, false)
  | deviceTail => (if n < 0x30 || n = 0x7f then deviceTail else string, false)
  | string => (string, false)
  | command => (if n = 0x07 then ground else command, false)

/-- The mode after a hidden character or after the first one that is shown again, and whether that is
    the case. Escape and cancelling characters count in every mode. -/
def next (m : ControlMode) (c : Char) : ControlMode × Bool :=
  if c = '\x1b' then (escape, false)
  else if c = '\x18' || c = '\x1a' then (ground, false)
  else if c.toNat < 0x80 then m.nextAscii c
  else
    match m with
    | ground => (ground, true)
    | string => (if hasTerminator c then ground else string, false)
    | m => (m, false)

end ControlMode

/-- Where the reading of a text stands: the mode, whether a run of shown characters goes on, and what
    was shown. -/
structure PlainScan where
  mode : ControlMode
  inRun : Bool
  shown : String

/-- The scan after a character. One beyond ASCII ends a sequence that a run has broken. -/
def PlainScan.step (s : PlainScan) (c : Char) : PlainScan :=
  if s.inRun && isShown c then
    ⟨if c.toNat < 0x80 then s.mode else .ground, true, s.shown.push c⟩
  else
    let (mode, begins) := s.mode.next c
    ⟨mode, begins, if begins then s.shown.push c else s.shown⟩

/-- The text without its control characters and escape sequences. -/
def plain (s : String) : String := (s.toList.foldl PlainScan.step ⟨.ground, false, ""⟩).shown

end NamePack.Text
