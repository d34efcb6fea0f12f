import NamePack.Cli.Inspect
import NamePack.Proofs.FrameBounds

/-!
# Inspecting streams

Inspecting bytes splits all of them into frames or stops at the first frame that cannot be read, and then
prints nothing (`Cli.Inspect.run_append`). Bytes that are split and bytes behind them are inspected as each
would be alone.
-/
namespace NamePack.Cli.Inspect

/-- Frames that stand one after another from `pos` to `stop`, each with its offset and its size. -/
inductive Framed (data : Bytes) : Nat → List (Nat × Nat × Record) → Nat → Prop
  | done (pos : Nat) : Framed data pos [] pos
  | frame {pos used stop : Nat} {r : Record} {frames : List (Nat × Nat × Record)}
      (read : Frame.read (data.drop pos) = .ok (r, used)) (more : Framed data (pos + used) frames stop) :
      Framed data pos ((pos, used, r) :: frames) stop

/-- Bytes that are frames to their end. -/
def Splits (data : Bytes) (frames : List (Nat × Nat × Record)) : Prop := Framed data 0 frames data.length

/-- Bytes that are frames up to `stop`, where none can be read. -/
def Breaks (data : Bytes) (frames : List (Nat × Nat × Record)) (stop : Nat) (e : Error) : Prop :=
  Framed data 0 frames stop ∧ stop < data.length ∧ Frame.read (data.drop stop) = .error e

/-- Frames in a stream that has `n` more bytes in front. -/
def shifted (n : Nat) (frames : List (Nat × Nat × Record)) : List (Nat × Nat × Record) :=
  frames.map fun f => (n + f.1, f.2)

theorem map_shifted (n : Nat) (frames : List (Nat × Nat × Record)) :
    (shifted n frames).map (·.2.2) = frames.map (·.2.2) := by
  simp [shifted, Function.comp_def]

section
variable {data : Bytes} {pos stop : Nat} {frames : List (Nat × Nat × Record)}

/-! ## Frames one after another -/

/-- A frame takes four bytes or more of what is left. -/
theorem read_drop_bounds {r : Record} {used : Nat} (read : Frame.read (data.drop pos) = .ok (r, used)) :
    4 ≤ used ∧ pos + used ≤ data.length := by
  obtain ⟨least, most⟩ := (Frame.fronts_of_read read).used_bounds
  rw [List.length_drop] at most
  dsimp only at least most
  omega

theorem Framed.stop_eq (framed : Framed data pos frames stop) : stop = pos + (frames.map (·.2.1)).sum := by
  induction framed with
  | done pos => rfl
  | frame read more ih => rw [ih, List.map_cons, List.sum_cons, Nat.add_assoc]

theorem Framed.length_le (framed : Framed data pos frames stop) : pos + 4 * frames.length ≤ stop := by
  induction framed with
  | done pos => exact Nat.le_refl pos
  | frame read more ih =>
    have least := (read_drop_bounds read).1
    rw [List.length_cons]
    omega

theorem Framed.trans {mid : Nat} {more : List (Nat × Nat × Record)} (framed : Framed data pos frames mid)
    (framed' : Framed data mid more stop) : Framed data pos (frames ++ more) stop := by
  induction framed with
  | done pos => exact framed'
  | frame read _ ih => exact .frame read (ih framed')

/-- Frames stay where they are when bytes are added behind them. -/
theorem Framed.append (framed : Framed data pos frames stop) (more : Bytes) :
    Framed (data ++ more) pos frames stop := by
  induction framed with
  | done pos => exact .done pos
  | @frame pos used stop r frames read _ ih =>
    refine .frame ?_ ih
    have inside := read_drop_bounds read
    rw [List.drop_append_of_le_length (by omega)]
    exact Frame.read_append read more

/-- Frames move when bytes are added in front of them. -/
theorem Framed.prepend (framed : Framed data pos frames stop) (front : Bytes) :
    Framed (front ++ data) (front.length + pos) (shifted front.length frames) (front.length + stop) := by
  induction framed with
  | done pos => exact .done _
  | frame read _ ih =>
    refine .frame ?_ ?_
    · rwa [List.drop_length_add_append]
    · rwa [Nat.add_assoc]

/-- From every position, frames lead to the end of the bytes or to where none can be read. -/
theorem exists_framed (data : Bytes) (pos : Nat) (inside : pos ≤ data.length) :
    ∃ frames stop, Framed data pos frames stop ∧
      (stop = data.length ∨ stop < data.length ∧ ∃ e, Frame.read (data.drop stop) = .error e) := by
  by_cases ended : pos = data.length
  · exact ⟨[], pos, .done pos, .inl ended⟩
  · cases read : Frame.read (data.drop pos) with
    | error e => exact ⟨[], pos, .done pos, .inr ⟨by omega, e, read⟩⟩
    | ok first =>
      obtain ⟨r, used⟩ := first
      obtain ⟨least, most⟩ := read_drop_bounds read
      obtain ⟨frames, stop, framed, reason⟩ := exists_framed data (pos + used) most
      exact ⟨_, stop, .frame read framed, reason⟩
termination_by data.length - pos

/-! ## The frames that are read -/

theorem readFrames_nil (offset : Nat) : readFrames offset [] = ([], none) := by
  rw [readFrames]
  rfl

theorem readFrames_error {offset : Nat} {e : Error} (some_byte : data ≠ []) (read : Frame.read data = .error e) :
    readFrames offset data = ([], some (offset, e)) := by
  rw [readFrames, if_neg (by simpa using some_byte)]
  split <;> simp_all

theorem readFrames_ok {offset used : Nat} {r : Record} (read : Frame.read data = .ok (r, used)) :
    readFrames offset data =
      ((offset, used, r) :: (readFrames (offset + used) (data.drop used)).1,
        (readFrames (offset + used) (data.drop used)).2) := by
  have some_byte : data ≠ [] := by
    rintro rfl
    cases read
  rw [readFrames, if_neg (by simpa using some_byte)]
  split <;> simp_all

/-- Frames that stand one after another are read, and then what is behind them. -/
theorem Framed.readFrames_eq (framed : Framed data pos frames stop) :
    readFrames pos (data.drop pos) =
      (frames ++ (readFrames stop (data.drop stop)).1, (readFrames stop (data.drop stop)).2) := by
  induction framed with
  | done pos => rfl
  | frame read more ih => rw [readFrames_ok read, List.drop_drop, ih, List.cons_append]

theorem Splits.readFrames_eq (splits : Splits data frames) : readFrames 0 data = (frames, none) := by
  have all := Framed.readFrames_eq splits
  rwa [List.drop_length, readFrames_nil, List.append_nil] at all

theorem Breaks.readFrames_eq {e : Error} (breaks : Breaks data frames stop e) :
    readFrames 0 data = (frames, some (stop, e)) := by
  obtain ⟨framed, inside, failed⟩ := breaks
  have some_byte : data.drop stop ≠ [] := by
    rw [ne_eq, List.drop_eq_nil_iff]
    omega
  have all := framed.readFrames_eq
  rwa [readFrames_error some_byte failed, List.append_nil] at all

end

/-! ## Streams one after another -/

section
variable {a b : Bytes} {frames more : List (Nat × Nat × Record)}

theorem Splits.append_splits (splits : Splits a frames) (splits' : Splits b more) :
    Splits (a ++ b) (frames ++ shifted a.length more) := by
  unfold Splits
  rw [List.length_append]
  exact (Framed.append splits b).trans (Framed.prepend splits' a)

theorem Splits.append_breaks {stop : Nat} {e : Error} (splits : Splits a frames) (breaks : Breaks b more stop e) :
    Breaks (a ++ b) (frames ++ shifted a.length more) (a.length + stop) e := by
  obtain ⟨framed, inside, failed⟩ := breaks
  refine ⟨(Framed.append splits b).trans (framed.prepend a), ?_, ?_⟩
  · rw [List.length_append]
    omega
  · rwa [List.drop_length_add_append]

theorem splits_or_breaks (data : Bytes) :
    (∃ frames, Splits data frames) ∨ ∃ frames stop e, Breaks data frames stop e := by
  obtain ⟨frames, stop, framed, rfl | ⟨inside, e, failed⟩⟩ := exists_framed data 0 (Nat.zero_le _)
  · exact .inl ⟨frames, framed⟩
  · exact .inr ⟨frames, stop, e, framed, inside, failed⟩

end

/-! ## Outcomes -/

theorem run_of_splits {data : Bytes} {frames : List (Nat × Nat × Record)} (s : Settings)
    (splits : Splits data frames) : run s data = ⟨0, listing s (frames.map (·.2.2)), reports s frames⟩ := by
  rw [run, splits.readFrames_eq]
  rfl

theorem run_of_breaks {data : Bytes} {frames : List (Nat × Nat × Record)} {stop : Nat} {e : Error} (s : Settings)
    (breaks : Breaks data frames stop e) :
    run s data = ⟨1, "", reports s frames ++ rejection s (data.drop stop) e ++ "metastring: " ++
      ("record at offset " ++ toString stop ++ ": " ++ e.message) ++ "\n"⟩ := by
  rw [run, breaks.readFrames_eq]
  rfl

/-- What is printed as lines is printed record by record. -/
theorem listing_append {s : Settings} (lines : s.json = false) (rs rs' : List Record) :
    listing s (rs ++ rs') = listing s rs ++ listing s rs' := by
  simp [listing, lines, String.join_append]

/-- Inspecting ends. Either the bytes are frames to their end and all records are printed, or nothing is
    printed but the offset and the error of the first frame that cannot be read, which stands where the frames
    before it end. Behind bytes that are frames to their end, others are inspected as if they were alone. -/
theorem run_append (s : Settings) (a : Bytes) :
    ((∃ frames, Splits a frames ∧ 4 * frames.length ≤ a.length) ∨
      ∃ frames stop e, Breaks a frames stop e ∧ 4 * frames.length ≤ stop ∧ stop = (frames.map (·.2.1)).sum) ∧
    (∀ frames, Splits a frames → run s a = ⟨0, listing s (frames.map (·.2.2)), reports s frames⟩) ∧
    (∀ frames stop e, Breaks a frames stop e →
      run s a = ⟨1, "", reports s frames ++ rejection s (a.drop stop) e ++ "metastring: " ++
        ("record at offset " ++ toString stop ++ ": " ++ e.message) ++ "\n"⟩) ∧
    ∀ frames, Splits a frames → ∀ b,
      (∀ more, Splits b more → Splits (a ++ b) (frames ++ shifted a.length more) ∧
        (run s (a ++ b)).status = 0 ∧
        (run s (a ++ b)).output = listing s (frames.map (·.2.2) ++ more.map (·.2.2)) ∧
        (s.json = false → (run s (a ++ b)).output = (run s a).output ++ (run s b).output)) ∧
      (∀ more stop e, Breaks b more stop e → Breaks (a ++ b) (frames ++ shifted a.length more) (a.length + stop) e ∧
        run s (a ++ b) =
          ⟨1, "", reports s (frames ++ shifted a.length more) ++ rejection s (b.drop stop) e ++ "metastring: " ++
            ("record at offset " ++ toString (a.length + stop) ++ ": " ++ e.message) ++ "\n"⟩) := by
  refine ⟨?_, fun frames splits => run_of_splits s splits, fun frames stop e breaks => run_of_breaks s breaks, ?_⟩
  · obtain ⟨frames, splits⟩ | ⟨frames, stop, e, breaks⟩ := splits_or_breaks a
    · have few := Framed.length_le splits
      exact .inl ⟨frames, splits, by omega⟩
    · have few := breaks.1.length_le
      have sizes := breaks.1.stop_eq
      exact .inr ⟨frames, stop, e, breaks, by omega, by omega⟩
  · intro frames splits b
    constructor
    · intro more splits'
      have both := splits.append_splits splits'
      have records : (frames ++ shifted a.length more).map (·.2.2) = frames.map (·.2.2) ++ more.map (·.2.2) := by
        rw [List.map_append, map_shifted]
      refine ⟨both, ?_, ?_, fun lines => ?_⟩
      · rw [run_of_splits s both]
      · rw [run_of_splits s both, records]
      · rw [run_of_splits s both, records, run_of_splits s splits, run_of_splits s splits', listing_append lines]
    · intro more stop e breaks
      have both := splits.append_breaks breaks
      refine ⟨both, ?_⟩
      rw [run_of_breaks s both, List.drop_length_add_append]

/-- A record is followed by a second one, and by two bytes that are no frame. -/
theorem run_append_second :
    Splits [1, 46, 95, 2, 0x80, 0x20] [(0, 6, ⟨"ab", .lowerSpecial, 46, 95, [0x80, 0x20]⟩)] ∧
    Splits [0, 7, 7, 1, 0x78] [(0, 5, ⟨"x", .utf8, 7, 7, [0x78]⟩)] ∧
    Breaks [1, 46] [] 0 (.malformed (.truncatedHeader 2)) ∧
    (run ⟨false, 0, false⟩ [1, 46, 95, 2, 0x80, 0x20, 0, 7, 7, 1, 0x78]).output =
      "ab\tLOWER_SPECIAL\tspecials=._\tstrip=1\t8020\nx\tUTF_8\tspecials=\x07\x07\tstrip=0\t78\n" ∧
    run ⟨false, 0, false⟩ [1, 46, 95, 2, 0x80, 0x20, 1, 46] =
      ⟨1, "", "metastring: record at offset 6: malformed encoding: truncated header: 2 of 3 bytes\n"⟩ := by
  have first : Frame.read [1, 46, 95, 2, 0x80, 0x20] =
      .ok (⟨"ab", .lowerSpecial, 46, 95, [0x80, 0x20]⟩, 6) := by cbv
  have second : Frame.read [0, 7, 7, 1, 0x78] = .ok (⟨"x", .utf8, 7, 7, [0x78]⟩, 5) := by cbv
  have splits : Splits [1, 46, 95, 2, 0x80, 0x20] [(0, 6, ⟨"ab", .lowerSpecial, 46, 95, [0x80, 0x20]⟩)] :=
    .frame first (.done 6)
  have splits' : Splits [0, 7, 7, 1, 0x78] [(0, 5, ⟨"x", .utf8, 7, 7, [0x78]⟩)] := .frame second (.done 5)
  have breaks : Breaks [1, 46] [] 0 (.malformed (.truncatedHeader 2)) := ⟨.done 0, by decide, rfl⟩
  obtain ⟨-, -, -, behind⟩ := run_append ⟨false, 0, false⟩ [1, 46, 95, 2, 0x80, 0x20]
  obtain ⟨-, -, printed, -⟩ := (behind _ splits [0, 7, 7, 1, 0x78]).1 _ splits'
  obtain ⟨-, refused⟩ := (behind _ splits [1, 46]).2 _ _ _ breaks
  have lines : listing ⟨false, 0, false⟩
      [⟨"ab", .lowerSpecial, 46, 95, [0x80, 0x20]⟩, ⟨"x", .utf8, 7, 7, [0x78]⟩] =
        "ab\tLOWER_SPECIAL\tspecials=._\tstrip=1\t8020\nx\tUTF_8\tspecials=\x07\x07\tstrip=0\t78\n" := by cbv
  exact ⟨splits, splits', breaks, printed.trans lines, refused⟩

end NamePack.Cli.Inspect
