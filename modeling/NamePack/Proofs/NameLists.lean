import Mathlib.Data.List.DropRight
import Mathlib.Data.Set.List
import NamePack.Proofs.FailingRuns
import NamePack.Proofs.TextLines

/-!
# Names in a file and in the standard input

The names of a text are the pieces between its line feeds without the carriage returns at their ends, where anything
is left (`Cli.Names.ofText_eq`). Lines that are joined and cut again lose carriage returns at their ends at most, which
are dropped from names anyway. So a file and the standard input of the same content hold the same names
(`Cli.Names.ofFile_eq_ofStandardInput`).
-/
namespace NamePack.Cli.Names
open Text

/-! ## Names -/

/-- Pieces without the carriage returns at their ends, and then without the empty ones. -/
def trimmed (ps : List (List Char)) : List String :=
  ((ps.map (List.rdropWhile (· = '\r'))).filter (· ≠ [])).map String.ofList

theorem trimmed_append (ps qs : List (List Char)) : trimmed (ps ++ qs) = trimmed ps ++ trimmed qs := by
  simp [trimmed]

theorem trimmed_dropReturn (ps : List (List Char)) : trimmed (ps.map (dropReturn '\r')) = trimmed ps := by
  have same : ∀ line : List Char, (dropReturn '\r' line).rdropWhile (· = '\r') = line.rdropWhile (· = '\r') := by
    intro line
    rcases eq_concat_or_eq_dropReturn '\r' line with whole | whole
    · conv_rhs => rw [whole]
      rw [List.rdropWhile_concat_pos _ _ _ (by simp)]
    · rw [← whole]
  simp only [trimmed, List.map_map, Function.comp_def, same]

/-- Lines hold the same names as the pieces they are made of. -/
theorem trimmed_lines (cs : List Char) : trimmed (lines '\n' '\r' cs) = trimmed (cs.splitOn '\n') := by
  obtain ⟨init, last, split⟩ := exists_splitOn_eq '\n' cs
  rw [lines_eq '\r' split, split, trimmed_append, trimmed_append, trimmed_dropReturn]
  congr 1
  by_cases empty : last = []
  · rw [if_pos empty, empty]
    rfl
  · rw [if_neg empty]

theorem ofText_eq (cs : List Char) : ofText cs = trimmed (cs.splitOn '\n') := by
  rw [← trimmed_lines, ofText, trimmed]
  congr 2
  funext line
  cases line <;> rfl

/-- Lines that are joined again hold the same names. -/
theorem ofText_intercalate_lines (cs : List Char) :
    ofText (List.intercalate ['\n'] (lines '\n' '\r' cs)) = trimmed (cs.splitOn '\n') := by
  rw [ofText_eq, ← trimmed_lines cs]
  by_cases none : lines '\n' '\r' cs = []
  · -- No lines are joined to the empty text, of which the one piece is empty and so no name.
    rw [none]
    rfl
  · rw [List.splitOn_intercalate '\n' (fun line member => not_mem_of_mem_lines member) none]

/-- A name is not empty and ends in no carriage return. Only carriage returns at the end of its piece are dropped. -/
theorem trimmed_spec {ps : List (List Char)} {name : String} (member : name ∈ trimmed ps) :
    name ≠ "" ∧ name.toList.getLast? ≠ some '\r' ∧ ∃ k, name.toList ++ List.replicate k '\r' ∈ ps := by
  obtain ⟨kept, remaining, rfl⟩ := List.mem_map.mp member
  obtain ⟨trimmed, some_character⟩ := List.mem_filter.mp remaining
  obtain ⟨p, piece, rfl⟩ := List.mem_map.mp trimmed
  have some_character : p.rdropWhile (· = '\r') ≠ [] := by simpa using some_character
  rw [String.toList_ofList]
  refine ⟨?_, ?_, ?_⟩
  · rwa [ne_eq, ← String.toList_eq_nil_iff, String.toList_ofList]
  · rw [List.getLast?_eq_some_getLast some_character, ne_eq, Option.some.injEq]
    simpa using List.rdropWhile_last_not (· = '\r') p some_character
  · have returns : p.rtakeWhile (· = '\r') = List.replicate (p.rtakeWhile (· = '\r')).length '\r' := by
      apply List.eq_replicate_of_mem
      intro c dropped
      simpa using List.mem_rtakeWhile_imp dropped
    refine ⟨(p.rtakeWhile (· = '\r')).length, ?_⟩
    rwa [← returns, List.rdropWhile_append_rtakeWhile]

/-! ## Reading -/

theorem textOf_ok_iff {bytes : Bytes} {cs : List Char} : textOf bytes = .ok cs ↔ bytes = bytesOf cs := by
  constructor
  · intro accepted
    cases read : ofUtf8? bytes with
    | none => simp [textOf, read] at accepted
    | some text =>
      simp only [textOf, read, Except.ok.injEq] at accepted
      rw [← accepted, ofUtf8?_eq_some_iff.mp read]
  · rintro rfl
    rw [textOf, ofUtf8?_bytesOf]
    exact congrArg Except.ok String.toList_ofList

theorem eq_notText_of_textOf {bytes : Bytes} {e : ReadError} (refused : textOf bytes = .error e) : e = .notText := by
  unfold textOf at refused
  split at refused <;> cases refused
  rfl

theorem mapM_textOf_ok_iff {bss : List Bytes} {texts : List (List Char)} :
    bss.mapM textOf = .ok texts ↔ bss = texts.map bytesOf := by
  have equal : bss = texts.map bytesOf ↔ List.Forall₂ Eq bss (texts.map bytesOf) := by rw [List.forall₂_eq_eq_eq]
  rw [equal, List.forall₂_map_right_iff, mapM_ok_iff]
  simp only [textOf_ok_iff]

/-- Content of which every line is text is text. -/
theorem exists_bytesOf_of_lines {content : Bytes} {texts : List (List Char)}
    (spelt : lines 10 13 content = texts.map bytesOf) : ∃ cs, content = bytesOf cs := by
  have return_bytes : bytesOf ['\r'] = [13] := by decide
  -- A line lost a carriage return at most, which is text again.
  have pieces : content.splitOn 10 ∈ Set.range (List.map bytesOf) := by
    rw [Set.range_list_map]
    intro p piece
    rcases line_of_mem_splitOn 13 piece with rfl | ⟨line, member, rfl⟩ | member
    · exact ⟨[], rfl⟩
    · rw [spelt] at member
      obtain ⟨t, -, rfl⟩ := List.mem_map.mp member
      exact ⟨t ++ ['\r'], by rw [bytesOf_append, return_bytes]⟩
    · rw [spelt] at member
      obtain ⟨t, -, same⟩ := List.mem_map.mp member
      exact ⟨t, same⟩
  obtain ⟨ps, same⟩ := pieces
  refine ⟨['\n'].intercalate ps, ?_⟩
  rw [bytesOf_intercalate (b := 10) (by decide), same, List.intercalate_splitOn]

theorem ofFile_ok (cs : List Char) : ofFile (bytesOf cs) = .ok (trimmed (cs.splitOn '\n')) := by
  rw [ofFile, textOf_ok_iff.mpr rfl, ← ofText_eq]
  rfl

theorem ofFile_error {content : Bytes} (no_text : ofUtf8? content = none) : ofFile content = .error .notText := by
  rw [ofFile, textOf, no_text]
  rfl

theorem ofStandardInput_ok (cs : List Char) :
    ofStandardInput (bytesOf cs) = .ok (trimmed (cs.splitOn '\n')) := by
  have read : (lines 10 13 (bytesOf cs)).mapM textOf = .ok (lines '\n' '\r' cs) := by
    rw [mapM_textOf_ok_iff, lines_bytesOf]
  rw [ofStandardInput, read, ← ofText_intercalate_lines]
  rfl

theorem ofStandardInput_error {content : Bytes} (no_text : ofUtf8? content = none) :
    ofStandardInput content = .error .notText := by
  unfold ofStandardInput
  cases read : (lines 10 13 content).mapM textOf with
  | ok texts =>
    obtain ⟨cs, rfl⟩ := exists_bytesOf_of_lines (mapM_textOf_ok_iff.mp read)
    rw [ofUtf8?_bytesOf] at no_text
    cases no_text
  | error e =>
    obtain ⟨-, line, -, -, -, refused⟩ := (mapM_error_iff _ _ _).mp read
    rw [eq_notText_of_textOf refused]
    rfl

/-- A file and the standard input of the same content hold the same names. There are none if the content is not text,
    and else they are what is between line feeds without the carriage returns at its end, where anything is left. -/
theorem ofFile_eq_ofStandardInput (content : Bytes) :
    ofFile content = ofStandardInput content ∧
    (Text.ofUtf8? content = none → ofFile content = .error .notText ∧ ofStandardInput content = .error .notText) ∧
    ∀ text, Text.ofUtf8? content = some text →
      ofFile content = .ok (trimmed (text.toList.splitOn '\n')) ∧
      ofStandardInput content = .ok (trimmed (text.toList.splitOn '\n')) ∧
      ∀ name ∈ trimmed (text.toList.splitOn '\n'),
        name ≠ "" ∧ '\n' ∉ name.toList ∧ name.toList.getLast? ≠ some '\r' ∧
          ∃ k, name.toList ++ List.replicate k '\r' ∈ text.toList.splitOn '\n' := by
  refine ⟨?_, ?_, ?_⟩
  · cases read : ofUtf8? content with
    | none => rw [ofFile_error read, ofStandardInput_error read]
    | some text =>
      obtain rfl := ofUtf8?_eq_some_iff.mp read
      rw [ofFile_ok, ofStandardInput_ok]
  · intro no_text
    exact ⟨ofFile_error no_text, ofStandardInput_error no_text⟩
  · intro text read
    obtain rfl := ofUtf8?_eq_some_iff.mp read
    refine ⟨ofFile_ok _, ofStandardInput_ok _, ?_⟩
    intro name member
    obtain ⟨some_character, no_return, k, piece⟩ := trimmed_spec member
    refine ⟨some_character, ?_, no_return, k, piece⟩
    intro feed
    exact not_mem_of_mem_splitOn '\n' piece (List.mem_append_left _ feed)

/-- Carriage returns go at the end of a line, one or more and before a line feed or not, and stay inside; bytes that
    end within a character hold no names. -/
theorem ofFile_eq_ofStandardInput_returns :
    (Text.ofUtf8? [0x61, 0x0d, 0x0d, 0x0a, 0x62, 0x0d, 0x63, 0x0a, 0x0d, 0x0a, 0x64, 0x0d] =
        some "a\r\r\nb\rc\n\r\nd\r" ∧
      "b\rc" ∈ trimmed ("a\r\r\nb\rc\n\r\nd\r".toList.splitOn '\n') ∧ Text.ofUtf8? [0x61, 0x0a, 0xc3] = none) ∧
    ofFile [0x61, 0x0d, 0x0d, 0x0a, 0x62, 0x0d, 0x63, 0x0a, 0x0d, 0x0a, 0x64, 0x0d] = .ok ["a", "b\rc", "d"] ∧
    ofStandardInput [0x61, 0x0d, 0x0d, 0x0a, 0x62, 0x0d, 0x63, 0x0a, 0x0d, 0x0a, 0x64, 0x0d] =
      .ok ["a", "b\rc", "d"] ∧
    '\n' ∉ "b\rc".toList ∧
    ofFile [0x61, 0x0a, 0xc3] = .error .notText ∧ ofStandardInput [0x61, 0x0a, 0xc3] = .error .notText := by
  have read : Text.ofUtf8? [0x61, 0x0d, 0x0d, 0x0a, 0x62, 0x0d, 0x63, 0x0a, 0x0d, 0x0a, 0x64, 0x0d] =
      some "a\r\r\nb\rc\n\r\nd\r" := by cbv
  have names : trimmed ("a\r\r\nb\rc\n\r\nd\r".toList.splitOn '\n') = ["a", "b\rc", "d"] := by decide
  have second : "b\rc" ∈ trimmed ("a\r\r\nb\rc\n\r\nd\r".toList.splitOn '\n') := by
    rw [names]
    simp
  have no_text : Text.ofUtf8? [0x61, 0x0a, 0xc3] = none := by cbv
  obtain ⟨file, input, each⟩ := (ofFile_eq_ofStandardInput _).2.2 _ read
  rw [names] at file input
  exact ⟨⟨read, second, no_text⟩, file, input, (each _ second).2.1, (ofFile_eq_ofStandardInput _).2.1 no_text⟩

end NamePack.Cli.Names
