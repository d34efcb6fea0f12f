import Mathlib.Data.List.Basic
import NamePack.Cli.Names
import NamePack.Proofs.Payloads

/-!
# Lines of bytes and lines of text

Lines are cut from bytes before these are read as text, or from the text after, with the same result
(`Cli.Names.lines_bytesOf`): line feeds and carriage returns are bytes of their own, and no other character has such
a byte. Lines are the pieces between line feeds, but for a last one that is empty and for one carriage return each
(`Cli.Names.lines_eq`).
-/
namespace NamePack

/-! ## Characters as bytes -/

namespace Text

/-- The bytes of characters in UTF-8. -/
def bytesOf (cs : List Char) : Bytes := cs.flatMap String.utf8EncodeChar

theorem utf8_eq_bytesOf (s : String) : utf8 s = bytesOf s.toList := by
  rw [utf8, String.toUTF8, ← String.ofList_toList (s := s), String.toByteArray_ofList, List.utf8Encode,
    List.data_toByteArray, String.ofList_toList]
  rfl

theorem ofUtf8?_eq_some_iff {bytes : Bytes} {s : String} : ofUtf8? bytes = some s ↔ bytes = bytesOf s.toList := by
  rw [← utf8_eq_bytesOf]
  constructor
  · intro read
    exact (utf8_of_ofUtf8? read).symm
  · rintro rfl
    exact ofUtf8?_utf8 s

theorem ofUtf8?_bytesOf (cs : List Char) : ofUtf8? (bytesOf cs) = some (String.ofList cs) := by
  rw [ofUtf8?_eq_some_iff, String.toList_ofList]

theorem bytesOf_singleton (c : Char) : bytesOf [c] = String.utf8EncodeChar c := List.append_nil _

theorem bytesOf_append (cs ds : List Char) : bytesOf (cs ++ ds) = bytesOf cs ++ bytesOf ds := List.flatMap_append

/-- An ASCII byte is never a part of a longer character. -/
theorem toNat_eq_of_mem_utf8EncodeChar {c : Char} {b : UInt8} (member : b ∈ String.utf8EncodeChar c)
    (ascii : b.toNat < 128) : c.toNat = b.toNat := by
  have value : c.toNat = c.val.toNat := rfl
  simp only [String.utf8EncodeChar] at member
  split_ifs at member with one two three
  · obtain rfl := List.mem_singleton.mp member
    rw [UInt8.toNat_ofNat']
    omega
  -- All bytes of the longer forms have their top bit set.
  all_goals
    simp only [List.mem_cons, List.not_mem_nil, or_false] at member
    rcases member with rfl | rfl | rfl | rfl
    all_goals
      simp only [UInt8.toNat_ofNat'] at ascii
      omega

/-- A byte that is a character of its own is among the bytes of no other character. -/
theorem mem_utf8EncodeChar_iff {b : UInt8} {mark : Char} (alone : String.utf8EncodeChar mark = [b])
    (ascii : b.toNat < 128) (c : Char) : b ∈ String.utf8EncodeChar c ↔ c = mark := by
  constructor
  · intro member
    have own : b ∈ String.utf8EncodeChar mark := by simp [alone]
    rw [← Char.toNat_inj, toNat_eq_of_mem_utf8EncodeChar member ascii, toNat_eq_of_mem_utf8EncodeChar own ascii]
  · rintro rfl
    simp [alone]

theorem mem_bytesOf_iff {b : UInt8} {mark : Char} (alone : String.utf8EncodeChar mark = [b]) (ascii : b.toNat < 128)
    (cs : List Char) : b ∈ bytesOf cs ↔ mark ∈ cs := by
  simp [bytesOf, mem_utf8EncodeChar_iff alone ascii]

theorem bytesOf_eq_nil_iff (cs : List Char) : bytesOf cs = [] ↔ cs = [] := by
  cases cs with
  | nil => simp [bytesOf]
  | cons c rest => simp [bytesOf, String.utf8EncodeChar_ne_nil]

/-- Bytes of texts joined by a mark are the bytes of the texts, joined by that of the mark. -/
theorem bytesOf_intercalate {b : UInt8} {mark : Char} (alone : String.utf8EncodeChar mark = [b])
    (ps : List (List Char)) : bytesOf ([mark].intercalate ps) = [b].intercalate (ps.map bytesOf) := by
  induction ps with
  | nil => rfl
  | cons p rest ih =>
    cases rest with
    | nil => simp
    | cons p' rest =>
      rw [List.map_cons, List.map_cons, List.intercalate_cons_cons, List.intercalate_cons_cons, bytesOf_append,
        bytesOf_append, bytesOf_singleton, alone, ih, List.map_cons]

end Text

/-! ## Pieces and lines -/

namespace Cli.Names
open Text

section
variable {α : Type} [DecidableEq α] (mark : α)

theorem pieces_eq_splitOn (xs : List α) : pieces mark xs = xs.splitOn mark := by
  induction xs with
  | nil => rfl
  | cons x rest ih =>
    obtain ⟨first, later, split⟩ := List.exists_cons_of_ne_nil (List.splitOn_ne_nil mark rest)
    unfold pieces at ih ⊢
    rw [List.foldr_cons, ih, split, List.splitOn_cons_eq_if_modifyHead, split]
    by_cases found : x = mark <;> simp [found]

theorem not_mem_of_mem_splitOn {xs p : List α} (piece : p ∈ xs.splitOn mark) : mark ∉ p := by
  induction xs generalizing p with
  | nil => simp_all
  | cons x rest ih =>
    obtain ⟨first, later, split⟩ := List.exists_cons_of_ne_nil (List.splitOn_ne_nil mark rest)
    rw [List.splitOn_cons_eq_if_modifyHead] at piece
    by_cases found : x = mark
    · rw [if_pos (by simpa using found)] at piece
      rcases List.mem_cons.mp piece with rfl | behind
      · exact List.not_mem_nil
      · exact ih behind
    · rw [if_neg (by simpa using found), split, List.modifyHead_cons] at piece
      rw [split] at ih
      rcases List.mem_cons.mp piece with rfl | behind
      · have clean := ih List.mem_cons_self
        simp [clean, Ne.symm found]
      · exact ih (List.mem_cons_of_mem _ behind)

theorem exists_splitOn_eq (xs : List α) : ∃ init last, xs.splitOn mark = init ++ [last] :=
  ⟨_, _, (List.dropLast_append_getLast (List.splitOn_ne_nil mark xs)).symm⟩

/-- Lines are the pieces between line feeds, but for the last if it is empty, and without one carriage return each
    before their line feeds. -/
theorem lines_eq {feed : α} (ret : α) {xs : List α} {init : List (List α)} {last : List α}
    (split : xs.splitOn feed = init ++ [last]) :
    lines feed ret xs = init.map (dropReturn ret) ++ if last = [] then [] else [last] := by
  simp [lines, pieces_eq_splitOn, split]

theorem dropReturn_concat (line : List α) : dropReturn mark (line ++ [mark]) = line := by
  simp [dropReturn]

theorem dropReturn_of_getLast? {line : List α} (kept : line.getLast? ≠ some mark) : dropReturn mark line = line :=
  if_neg kept

/-- A carriage return is dropped or nothing is. -/
theorem eq_concat_or_eq_dropReturn (line : List α) :
    line = dropReturn mark line ++ [mark] ∨ line = dropReturn mark line := by
  by_cases ends : line.getLast? = some mark
  · obtain ⟨front, rfl⟩ := List.getLast?_eq_some_iff.mp ends
    exact .inl (by rw [dropReturn_concat])
  · exact .inr (dropReturn_of_getLast? mark ends).symm

/-- A piece is empty or a line, with its carriage return or without. -/
theorem line_of_mem_splitOn {feed : α} (ret : α) {xs p : List α} (piece : p ∈ xs.splitOn feed) :
    p = [] ∨ (∃ line ∈ lines feed ret xs, p = line ++ [ret]) ∨ p ∈ lines feed ret xs := by
  obtain ⟨init, last, split⟩ := exists_splitOn_eq feed xs
  rw [lines_eq ret split]
  rw [split] at piece
  rcases List.mem_append.mp piece with front | back
  · have dropped : dropReturn ret p ∈ init.map (dropReturn ret) := List.mem_map_of_mem front
    have line := List.mem_append_left (if last = [] then [] else [last]) dropped
    rcases eq_concat_or_eq_dropReturn ret p with whole | whole
    · exact .inr (.inl ⟨_, line, whole⟩)
    · rw [← whole] at line
      exact .inr (.inr line)
  · obtain rfl := List.mem_singleton.mp back
    by_cases empty : p = []
    · exact .inl empty
    · rw [if_neg empty]
      exact .inr (.inr (List.mem_append_right _ back))

/-- A line is a piece or lacks the carriage return of one. -/
theorem mem_splitOn_of_mem_lines {feed ret : α} {xs line : List α} (member : line ∈ lines feed ret xs) :
    line ++ [ret] ∈ xs.splitOn feed ∨ line ∈ xs.splitOn feed := by
  obtain ⟨init, last, split⟩ := exists_splitOn_eq feed xs
  rw [lines_eq ret split] at member
  rw [split]
  rcases List.mem_append.mp member with front | back
  · obtain ⟨p, piece, rfl⟩ := List.mem_map.mp front
    have inside : p ∈ init ++ [last] := List.mem_append_left _ piece
    rcases eq_concat_or_eq_dropReturn ret p with whole | whole
    · exact .inl (by rwa [← whole])
    · exact .inr (by rwa [← whole])
  · split_ifs at back with empty
    · cases back
    · exact .inr (List.mem_append_right _ back)

/-- No line holds a line feed. -/
theorem not_mem_of_mem_lines {feed ret : α} {xs line : List α} (member : line ∈ lines feed ret xs) : feed ∉ line := by
  intro inside
  rcases mem_splitOn_of_mem_lines member with piece | piece
  · exact not_mem_of_mem_splitOn feed piece (List.mem_append_left _ inside)
  · exact not_mem_of_mem_splitOn feed piece inside

end

section
variable {b : UInt8} {mark : Char} (alone : String.utf8EncodeChar mark = [b]) (ascii : b.toNat < 128)
include alone ascii

theorem splitOn_bytesOf (cs : List Char) : (bytesOf cs).splitOn b = (cs.splitOn mark).map bytesOf := by
  have joined : bytesOf cs = [b].intercalate ((cs.splitOn mark).map bytesOf) := by
    rw [← bytesOf_intercalate alone, List.intercalate_splitOn]
  rw [joined]
  apply List.splitOn_intercalate
  · intro p member
    obtain ⟨piece, inside, rfl⟩ := List.mem_map.mp member
    rw [mem_bytesOf_iff alone ascii]
    exact not_mem_of_mem_splitOn mark inside
  · simp [List.splitOn_ne_nil]

theorem getLast?_bytesOf_iff (line : List Char) : (bytesOf line).getLast? = some b ↔ line.getLast? = some mark := by
  rcases line.eq_nil_or_concat' with rfl | ⟨front, c, rfl⟩
  · simp [bytesOf]
  · have last_bytes : (bytesOf (front ++ [c])).getLast? = (String.utf8EncodeChar c).getLast? := by
      simp [bytesOf, List.getLast?_append, List.getLast?_eq_some_getLast String.utf8EncodeChar_ne_nil]
    rw [last_bytes, List.getLast?_concat, Option.some.injEq]
    constructor
    · intro ends
      exact (mem_utf8EncodeChar_iff alone ascii c).mp (List.mem_of_getLast? ends)
    · rintro rfl
      rw [alone]
      rfl

theorem dropReturn_bytesOf (line : List Char) : dropReturn b (bytesOf line) = bytesOf (dropReturn mark line) := by
  by_cases ends : line.getLast? = some mark
  · obtain ⟨front, rfl⟩ := List.getLast?_eq_some_iff.mp ends
    rw [dropReturn_concat, bytesOf_append, bytesOf_singleton, alone, dropReturn_concat]
  · rw [dropReturn_of_getLast? mark ends, dropReturn_of_getLast?]
    rwa [ne_eq, getLast?_bytesOf_iff alone ascii]

end

/-- Lines of bytes are the bytes of the lines of their text. -/
theorem lines_bytesOf (cs : List Char) : lines 10 13 (bytesOf cs) = (lines '\n' '\r' cs).map bytesOf := by
  obtain ⟨init, last, split⟩ := exists_splitOn_eq '\n' cs
  have feed_alone : String.utf8EncodeChar '\n' = [10] := by decide
  have split_bytes : (bytesOf cs).splitOn 10 = init.map bytesOf ++ [bytesOf last] := by
    rw [splitOn_bytesOf feed_alone (by decide), split, List.map_append, List.map_singleton]
  have drop_return : ∀ line, dropReturn 13 (bytesOf line) = bytesOf (dropReturn '\r' line) :=
    dropReturn_bytesOf (by decide) (by decide)
  rw [lines_eq 13 split_bytes, lines_eq '\r' split, List.map_append, List.map_map, List.map_map]
  congr 1
  · exact List.map_congr_left fun line _ => drop_return line
  · by_cases empty : last = [] <;> simp [empty, bytesOf_eq_nil_iff]

end Cli.Names
end NamePack
