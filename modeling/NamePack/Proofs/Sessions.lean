import NamePack.Proofs.FrameBounds
import NamePack.Session

/-!
# What sessions keep

A step that fails changes nothing but the position of a reading (`Session.step_error`). In a session that began
afresh, the last record is one that was made, whatever steps were taken (`Session.after_start_sound`), so its payload
is always read. A frame stays where it was written as long as no byte is replaced and nothing is cut off, and is read
there after any other steps (`Session.run_frame_read`).
-/
namespace NamePack.Session

variable {s : Session} {t : Step}

/-! ## Steps that fail -/

theorem keep_error {written : Except Error Record} {e : Error} (failed : (s.keep written).2 = .error e) :
    (s.keep written).1 = s := by
  cases written with
  | ok r => cases failed
  | error _ => rfl

/-- A step that fails leaves the session as it was. A reading has gone back to the end of the buffer before. -/
theorem step_error {e : Error} (failed : (s.step t).2 = .error e) :
    (s.step t).1 = s ∨ t = .read ∧ (s.step t).1 = { s with position := min s.position s.buffer.length } := by
  cases t with
  | specials a b =>
    left
    simp only [step] at failed ⊢
    split at failed
    · cases failed
    · rfl
  | allow set => cases failed
  | encode text => exact .inl (keep_error failed)
  | encodeAs encoding text => exact .inl (keep_error failed)
  | frame =>
    simp only [step] at failed
    split at failed <;> cases failed
  | append bytes => cases failed
  | set index byte => cases failed
  | truncate size => cases failed
  | seek position => cases failed
  | read =>
    right
    refine ⟨rfl, ?_⟩
    simp only [step] at failed ⊢
    split at failed
    · cases failed
    · rfl
  | decode =>
    left
    simp only [step]
    split <;> rfl
  | decodeAs encoding special1 special2 =>
    left
    simp only [step]
    split <;> rfl

/-! ## Histories -/

def after (s : Session) (ts : List Step) : Session := ts.foldl (fun s t => (s.step t).1) s

theorem after_append (s : Session) (ts us : List Step) : s.after (ts ++ us) = (s.after ts).after us :=
  List.foldl_append

/-- Later steps are answered in the session that the earlier ones leave. -/
theorem run_append_after (s : Session) (ts us : List Step) : s.run (ts ++ us) = s.run ts ++ (s.after ts).run us := by
  induction ts generalizing s with
  | nil => rfl
  | cons t rest ih => exact congrArg _ (ih (s.step t).1)

theorem length_run (s : Session) (ts : List Step) : (s.run ts).length = ts.length := by
  induction ts generalizing s with
  | nil => rfl
  | cons t rest ih => exact congrArg Nat.succ (ih (s.step t).1)

/-! ## The last record -/

/-- The last record came from a name, from parts or from a frame. -/
def Sound (s : Session) : Prop := ∀ r, s.last = some r → r.Made

theorem Sound.keep (sound : s.Sound) {written : Except Error Record} (made : ∀ r, written = .ok r → r.Made) :
    (s.keep written).1.Sound := by
  cases written with
  | ok r =>
    rintro _ ⟨⟩
    exact made r rfl
  | error e => exact sound

theorem Sound.step (sound : s.Sound) (t : Step) : (s.step t).1.Sound := by
  cases t with
  | encode text => exact sound.keep fun _ => .encode
  | encodeAs encoding text => exact sound.keep fun _ => .encodeAs
  | read =>
    simp only [Session.step]
    split
    · rename_i r used framed
      rintro _ ⟨⟩
      exact .read framed
    · exact sound
  | specials a b =>
    simp only [Session.step]
    split <;> exact sound
  | frame | decode | decodeAs =>
    simp only [Session.step]
    split <;> exact sound
  | allow | append | set | truncate | seek => exact sound

theorem Sound.after (sound : s.Sound) (ts : List Step) : (s.after ts).Sound := by
  induction ts generalizing s with
  | nil => exact sound
  | cons t rest ih => exact ih (sound.step t)

/-- Whatever is done in a session, its last record is one that was made. -/
theorem after_start_sound (ts : List Step) : (start.after ts).Sound :=
  Sound.after (s := start) (by rintro _ ⟨⟩) ts

/-- After any steps the payload of the last record is read, as the text that the record holds up to its case. -/
theorem run_decode (ts : List Step) {r : Record} (last : (start.after ts).last = some r) :
    start.run (ts ++ [.decode]) = start.run ts ++ [.text (r.encoding.kept r.text)] := by
  rw [run_append_after]
  have decoded := (after_start_sound ts r last).decode.2
  simp [run, step, last, decoded, Answer.ofText]

/-! ## Frames in the buffer -/

/-- Whether a step leaves every byte that is in the buffer where it is. -/
def Step.spares : Step → Bool
  | .set .. | .truncate _ => false
  | _ => true

theorem keep_buffer (s : Session) (written : Except Error Record) : (s.keep written).1.buffer = s.buffer := by
  cases written <;> rfl

theorem buffer_step (spares : t.spares = true) : s.buffer <+: (s.step t).1.buffer := by
  cases t with
  | set | truncate => cases spares
  | append bytes => exact List.prefix_append _ _
  | frame =>
    simp only [step]
    split
    · exact List.prefix_append _ _
    · exact List.prefix_rfl
  | encode text | encodeAs encoding text =>
    rw [step, keep_buffer]
  | specials | read | decode | decodeAs =>
    simp only [step]
    split <;> exact List.prefix_rfl
  | allow | seek => exact List.prefix_rfl

/-- Steps that spare the buffer only add to its end. -/
theorem buffer_after {ts : List Step} (spares : ∀ t ∈ ts, t.spares = true) : s.buffer <+: (s.after ts).buffer := by
  induction ts generalizing s with
  | nil => exact List.prefix_rfl
  | cons t rest ih =>
    rw [List.forall_mem_cons] at spares
    exact (buffer_step spares.1).trans (ih spares.2)

/-- A frame at the position is read, and the position is then behind it. -/
theorem step_read_frame {r : Record} (made : r.Made) {front more : Bytes}
    (buffer : s.buffer = front ++ (Frame.write r ++ more)) (here : s.position = front.length) :
    s.step .read = ({ s with position := front.length + Frame.size r, last := some r.reread },
      .reading r.reread (Frame.size r) (front.length + Frame.size r) (s.last == some r.reread)) := by
  have inside : min s.position s.buffer.length = front.length := by
    rw [here, buffer, List.length_append]
    omega
  have framed : Frame.read (s.buffer.drop front.length) = .ok (r.reread, Frame.size r) := by
    rw [buffer, List.drop_left, Frame.read_write made]
  simp only [step, inside, framed]

/-- The record and the size of its frame in the answer to a reading. -/
def Answer.read? : Answer → Option (Record × Nat)
  | .reading r used _ _ => some (r, used)
  | _ => none

/-- As many readings as there are frames at the position give their records in order. -/
theorem run_reads {rs : List Record} (made : ∀ r ∈ rs, r.Made) {front more : Bytes}
    (buffer : s.buffer = front ++ (rs.flatMap Frame.write ++ more)) (here : s.position = front.length) :
    (s.run (List.replicate rs.length .read)).map Answer.read? = rs.map fun r => some (r.reread, Frame.size r) := by
  induction rs generalizing s front with
  | nil => rfl
  | cons r rest ih =>
    rw [List.forall_mem_cons] at made
    rw [List.flatMap_cons, List.append_assoc] at buffer
    have read := step_read_frame made.1 buffer here
    have buffer' : (s.step .read).1.buffer = front ++ Frame.write r ++ (rest.flatMap Frame.write ++ more) := by
      rw [read, buffer, List.append_assoc]
    have here' : (s.step .read).1.position = (front ++ Frame.write r).length := by
      rw [read, List.length_append, Frame.length_write]
    have later := ih made.2 buffer' here'
    rw [read] at later
    simp only [List.length_cons, List.replicate_succ, run, read, List.map_cons, later]
    rfl

/-- A frame that was written after any steps is read again where it was written, after any others that spare the
    buffer. -/
theorem run_frame_read (before later : List Step) {r : Record} (last : (start.after before).last = some r)
    (spares : ∀ t ∈ later, t.spares = true) {position : Nat} (here : (start.after before).buffer.length = position) :
    ∃ same : Bool, start.run (before ++ .frame :: later ++ [.seek position, .read]) =
      start.run (before ++ .frame :: later) ++
        [.position position, .reading r.reread (Frame.size r) (position + Frame.size r) same] := by
  have made := after_start_sound before r last
  have behind : start.after (before ++ .frame :: later) = ((start.after before).step .frame).1.after later :=
    after_append ..
  obtain ⟨more, grown⟩ := buffer_after (s := ((start.after before).step .frame).1) spares
  rw [run_append_after, behind]
  generalize ((start.after before).step .frame).1.after later = now at grown
  have buffer : now.buffer = (start.after before).buffer ++ (Frame.write r ++ more) := by
    rw [← grown, ← List.append_assoc]
    simp only [step, last, rebuffer]
  have sought : now.step (.seek position) = ({ now with position }, .position position) := by
    have inside : min position now.buffer.length = position := by
      rw [buffer, List.length_append, here]
      omega
    simp only [step, inside]
  have read := step_read_frame (s := { now with position }) made buffer here.symm
  refine ⟨now.last == some r.reread, ?_⟩
  simp only [run, sought, read, here]

/-- A name that loses its capital in front of two more bytes. -/
example : start.run [.encode "aB", .frame, .append [4, 46], .seek 0, .read, .read] =
    [.record ⟨"aB", .allToLowerSpecial, 46, 95, [0x80, 0x20]⟩, .buffer [4, 46, 95, 2, 0x80, 0x20],
      .buffer [4, 46, 95, 2, 0x80, 0x20, 4, 46], .position 0,
      .reading ⟨"ab", .allToLowerSpecial, 46, 95, [0x80, 0x20]⟩ 6 6 false,
      .error (.malformed (.truncatedHeader 2))] := by
  cbv

end NamePack.Session
