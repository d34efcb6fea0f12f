import NamePack.Cli.Arguments
import NamePack.Proofs.EncodedListings
import NamePack.Proofs.Inspection

/-!
# Framed names inspected

What the command that encodes names prints in frames is an argument of the command that inspects them, which
then shows the same records (`Cli.EncodeOptions.run_inspected`). Only the case that `allToLowerSpecial` gives
up is lost on the way.
-/
namespace NamePack

/-! ## Frames in a row -/

namespace Cli.Inspect

theorem splits_write {r : Record} (made : r.Made) : Splits (Frame.write r) [(0, Frame.size r, r.reread)] := by
  have read := Frame.read_write made []
  rw [List.append_nil] at read
  refine .frame read ?_
  rw [Frame.length_write, Nat.zero_add]
  exact .done _

/-- Frames that are written one after another are split into their records. -/
theorem exists_splits_flatMap {rs : List Record} (made : ∀ r ∈ rs, r.Made) :
    ∃ frames, Splits (rs.flatMap Frame.write) frames ∧ frames.map (·.2.2) = rs.map Record.reread := by
  induction rs with
  | nil => exact ⟨[], .done 0, rfl⟩
  | cons r rest ih =>
    rw [List.forall_mem_cons] at made
    obtain ⟨frames, splits, records⟩ := ih made.2
    refine ⟨_, (splits_write made.1).append_splits splits, ?_⟩
    rw [List.map_append, map_shifted, records]
    rfl

end Cli.Inspect

/-! ## Records as JSON -/

/-- An object with another value in a field. -/
def Text.JsonObject.replaced (field : String) (value : Text.JsonAtom) (o : Text.JsonObject) : Text.JsonObject :=
  o.map fun f => if f.1 = field then (f.1, value) else f

namespace Record

/-- A record that is read back is shown with another text, if at all. -/
theorem json_reread (r : Record) :
    r.reread.json = if r.encoding = .allToLowerSpecial
      then Text.JsonObject.replaced "input" (.text (r.text.map Char.toLower)) r.json else r.json := by
  split_ifs with lossy
  · simp [reread, Encoding.kept, lossy, json, Text.JsonObject.replaced, Frame.write, isFlagged]
  · simp [reread, Encoding.kept, lossy]

end Record

/-! ## Text as an argument -/

namespace Cli

/-- Hexadecimal text is the argument of the command that inspects frames. -/
theorem readArguments_inspect {w : String} {bytes : Bytes} (accepted : Text.Hex.read w = .ok bytes) :
    readArguments ["inspect", w] = .ok ⟨⟨false, 0, false⟩, .inspect bytes⟩ := by
  -- The scan takes every word that begins with a dash for an option.
  have no_option := Text.Hex.head?_ne_dash accepted
  have command : Command.ofName? "inspect" = some .inspect := by decide
  have no_dashes : w ≠ "--" := by
    rintro rfl
    exact no_option (by decide)
  have before : scan none .start false ["inspect", w] = .ok (.start, some ("inspect", [w])) := by
    rw [scan]
    simp [command]
  have word : Progress.start.argument (some .inspect) w = .ok ⟨.empty, some (.records, some w)⟩ := by
    unfold Progress.argument
    split
    · simp_all
    · simp_all
    · rfl
  have after : scan (some .inspect) .start false [w] = .ok (⟨.empty, some (.records, some w)⟩, none) := by
    simp [scan, no_dashes, word, bind, Except.bind]
  have settled : Given.settle .empty .records (some w) =
      .ok ⟨[.records], 0, [], none, none, none, none, some bytes⟩ := by
    simp [Given.settle, Given.store, accepted, Given.note, Given.has, Given.empty, Except.map, Except.mapError]
  have given : readCommand .inspect [w] = .ok ⟨[.records], 0, [], none, none, none, none, some bytes⟩ := by
    simp only [readCommand, after, bind, Except.bind, Progress.settled, settled, Except.mapError]
    rfl
  simp only [readArguments, before, command, given, bind, Except.bind]
  rfl

end Cli

/-! ## Encoding names -/

namespace Cli.EncodeOptions

variable {o : EncodeOptions}

theorem listing_framed (framed : o.framed = true) (s : Settings) (rs : List Record) :
    o.listing s rs =
      if s.json then Text.Json.list (rs.map Record.json) ++ "\n"
      else if s.quiet then String.join (rs.map fun r => Text.Hex.write (Frame.write r) ++ "\n")
      else String.join (rs.map fun r => r.text ++ "\t" ++ r.encoding.name ++ "\tstrip=" ++ Record.digit r.isFlagged ++
        "\t" ++ toString r.payload.length ++ "\t" ++ Text.Hex.write (Frame.write r) ++ "\n") := by
  unfold listing
  split_ifs with json quiet
  · rfl
  · simp only [Record.encodedLine, quiet, Record.hexShown, framed, if_true]
  · simp only [Record.encodedLine, quiet, Record.hexShown, framed, if_true, if_false, Bool.false_eq_true]

/-- Quiet lines are read as the frames one after another. -/
theorem read_listing (framed : o.framed = true) {s : Settings} (quiet : s.quiet = true) (lines : s.json = false)
    (rs : List Record) : Text.Hex.read (o.listing s rs) = .ok (rs.flatMap Frame.write) := by
  have read := Text.Hex.read_lines (rs.map Frame.write)
  rw [List.map_map, ← List.flatMap_def] at read
  rw [listing_framed framed, lines, quiet]
  exact read

/-- The line that shows a record which was encoded and read back. -/
theorem inspectedLine_reread {enc : Encoder} {name : String} {r : Record} (encoded : o.encodeName enc name = .ok r) :
    r.reread.inspectedLine = r.encoding.kept name ++ "\t" ++ r.encoding.name ++ "\tspecials=" ++
      enc.specials.first.toString ++ enc.specials.second.toString ++ "\tstrip=" ++ Record.digit r.isFlagged ++ "\t" ++
      Text.Hex.write r.payload ++ "\n" := by
  obtain ⟨-, rfl, -, first, second⟩ := record_of_encodeName encoded
  rw [← first, ← second]
  rfl

/-- The frames of encoded names are inspected as their records, each with the text that its payload spells. -/
theorem inspect_frames {sp : Specials} (valid : Specials.ofChars o.special1 o.special2 = .ok sp) {names : List String}
    {rs : List Record} (each : List.Forall₂ (fun name r => o.encodeName (o.encoder sp) name = .ok r) names rs)
    (s : Settings) :
    (Inspect.run s (rs.flatMap Frame.write)).status = 0 ∧
      (Inspect.run s (rs.flatMap Frame.write)).output =
        if s.json then
          Text.Json.list (rs.map fun r => if r.encoding = .allToLowerSpecial
            then Text.JsonObject.replaced "input" (.text (r.text.map Char.toLower)) r.json else r.json) ++ "\n"
        else
          String.join (rs.map fun r => r.encoding.kept r.text ++ "\t" ++ r.encoding.name ++ "\tspecials=" ++
            o.special1.toString ++ o.special2.toString ++ "\tstrip=" ++ Record.digit r.isFlagged ++ "\t" ++
            Text.Hex.write r.payload ++ "\n") := by
  -- What is known of each record comes from the name that it was made of.
  have origin := exists_name_of_mem each
  obtain ⟨frames, splits, records⟩ := Inspect.exists_splits_flatMap fun r member =>
    (record_of_encodeName (origin r member).choose_spec).1
  rw [Inspect.run_of_splits s splits, records]
  refine ⟨rfl, ?_⟩
  obtain ⟨first, second⟩ := Specials.ofChars_ok valid
  dsimp only [Inspect.listing]
  split_ifs with json
  · simp only [Record.jsonList, List.map_map, Function.comp_def, Record.json_reread]
  · congr 1
    rw [List.map_map]
    apply List.map_congr_left
    intro r member
    obtain ⟨name, written⟩ := origin r member
    obtain ⟨-, rfl, -⟩ := record_of_encodeName written
    rw [Function.comp_apply, inspectedLine_reread written, ← first, ← second, specials_encoder]

/-- Where all names are encoded, the quiet lines of their frames are one argument of the command that inspects
    frames. It shows every record in order as it was encoded, with the text that the payload spells; as JSON,
    only that text may differ from what is shown when the names are encoded. Both lists are read as the objects of
    the records. -/
theorem run_inspected (o : EncodeOptions) (content : Except ReadError Bytes) {sp : Specials} {names : List String}
    (valid : Specials.ofChars o.special1 o.special2 = .ok sp) (named : o.allNames content = .ok names)
    (encodable : ∀ name ∈ names, ∃ r, o.encodeName (o.encoder sp) name = .ok r) (framed : o.framed = true) :
    ∃ rs : List Record,
      List.Forall₂ (fun name r => o.encodeName (o.encoder sp) name = .ok r ∧ r.text = name ∧
        r.decode = .ok (r.encoding.kept name)) names rs ∧
      (∀ s : Settings, (o.run s content).status = 0 ∧ (o.run s content).output =
        if s.json then Text.Json.list (rs.map Record.json) ++ "\n"
        else if s.quiet then String.join (rs.map fun r => Text.Hex.write (Frame.write r) ++ "\n")
        else String.join (rs.map fun r => r.text ++ "\t" ++ r.encoding.name ++ "\tstrip=" ++ Record.digit r.isFlagged ++
          "\t" ++ toString r.payload.length ++ "\t" ++ Text.Hex.write (Frame.write r) ++ "\n")) ∧
      (∀ s : Settings, s.quiet = true → s.json = false →
        Text.Hex.read (o.run s content).output = .ok (rs.flatMap Frame.write) ∧
        readArguments ["inspect", (o.run s content).output] =
          .ok ⟨⟨false, 0, false⟩, .inspect (rs.flatMap Frame.write)⟩) ∧
      (∀ s : Settings, (Inspect.run s (rs.flatMap Frame.write)).status = 0 ∧
        (Inspect.run s (rs.flatMap Frame.write)).output =
          if s.json then
            Text.Json.list (rs.map fun r => if r.encoding = .allToLowerSpecial
              then Text.JsonObject.replaced "input" (.text (r.text.map Char.toLower)) r.json else r.json) ++ "\n"
          else
            String.join (rs.map fun r => r.encoding.kept r.text ++ "\t" ++ r.encoding.name ++ "\tspecials=" ++
              o.special1.toString ++ o.special2.toString ++ "\tstrip=" ++ Record.digit r.isFlagged ++ "\t" ++
              Text.Hex.write r.payload ++ "\n")) ∧
      ∀ s : Settings, s.json = true →
        Text.Json.read (o.run s content).output = some (rs.map Record.json) ∧
        Text.Json.read (Inspect.run s (rs.flatMap Frame.write)).output =
          some (rs.map fun r => if r.encoding = .allToLowerSpecial
            then Text.JsonObject.replaced "input" (.text (r.text.map Char.toLower)) r.json else r.json) := by
  obtain ⟨rs, encoded⟩ := exists_encodeNames encodable
  have each := encodeNames_ok_iff.mp encoded
  have printed := run_of_encoded valid named encoded
  refine ⟨rs, ?_, ?_, ?_, inspect_frames valid each, ?_⟩
  · apply each.imp
    intro name r written
    obtain ⟨-, text, decoded, -⟩ := record_of_encodeName written
    exact ⟨written, text, decoded⟩
  · intro s
    rw [← listing_framed framed]
    exact printed s
  · intro s quiet lines
    have read := read_listing framed quiet lines rs
    rw [(printed s).2]
    exact ⟨read, readArguments_inspect read⟩
  · intro s json
    rw [(printed s).2, (inspect_frames valid each s).2, listing_framed framed, if_pos json, if_pos json]
    exact ⟨Text.Json.read_list_line _, Text.Json.read_list_line _⟩

/-- Two names, one of which loses a capital, on lines that are read as one argument, and as JSON. -/
theorem run_inspected_capital :
    (Specials.ofChars '.' '_' = .ok .standard ∧
      allNames ⟨["aB", "é"], none, '.', '_', none, .all, true⟩ (.ok []) = .ok ["aB", "é"] ∧
      ∀ name ∈ ["aB", "é"], ∃ r,
        encodeName ⟨["aB", "é"], none, '.', '_', none, .all, true⟩ ⟨.standard, .all⟩ name = .ok r) ∧
    (run ⟨["aB", "é"], none, '.', '_', none, .all, true⟩ ⟨true, 0, false⟩ (.ok [])).output =
      "042e5f028020\n002e5f02c3a9\n" ∧
    Text.Hex.read "042e5f028020\n002e5f02c3a9\n" = .ok [4, 46, 95, 2, 0x80, 0x20, 0, 46, 95, 2, 0xc3, 0xa9] ∧
    (Inspect.run ⟨false, 0, false⟩ [4, 46, 95, 2, 0x80, 0x20, 0, 46, 95, 2, 0xc3, 0xa9]).output =
      "ab\tALL_TO_LOWER_SPECIAL\tspecials=._\tstrip=1\t8020\né\tUTF_8\tspecials=._\tstrip=0\tc3a9\n" ∧
    (Text.Json.read (run ⟨["aB", "é"], none, '.', '_', none, .all, true⟩ ⟨false, 0, true⟩ (.ok [])).output).map
      (List.map (List.lookup "input")) = some [some (.text "aB"), some (.text "é")] ∧
    (Text.Json.read (Inspect.run ⟨false, 0, true⟩ [4, 46, 95, 2, 0x80, 0x20, 0, 46, 95, 2, 0xc3, 0xa9]).output).map
      (List.map (List.lookup "input")) = some [some (.text "ab"), some (.text "é")] := by
  have valid : Specials.ofChars '.' '_' = .ok .standard := by decide
  have named : allNames ⟨["aB", "é"], none, '.', '_', none, .all, true⟩ (.ok []) = .ok ["aB", "é"] := rfl
  have capital : encodeName ⟨["aB", "é"], none, '.', '_', none, .all, true⟩ ⟨.standard, .all⟩ "aB" =
      .ok ⟨"aB", .allToLowerSpecial, 46, 95, [0x80, 0x20]⟩ := by cbv
  have accent : encodeName ⟨["aB", "é"], none, '.', '_', none, .all, true⟩ ⟨.standard, .all⟩ "é" =
      .ok ⟨"é", .utf8, 46, 95, [0xc3, 0xa9]⟩ := by cbv
  have encodable : ∀ name ∈ ["aB", "é"], ∃ r,
      encodeName ⟨["aB", "é"], none, '.', '_', none, .all, true⟩ ⟨.standard, .all⟩ name = .ok r := by
    simpa using ⟨⟨_, capital⟩, ⟨_, accent⟩⟩
  obtain ⟨rs, each, printed, fed, inspected, as_json⟩ := run_inspected _ (.ok []) valid named encodable rfl
  have lines := (printed ⟨true, 0, false⟩).2
  have read := (fed ⟨true, 0, false⟩ rfl rfl).1
  have shown := (inspected ⟨false, 0, false⟩).2
  obtain ⟨objects, objects'⟩ := as_json ⟨false, 0, true⟩ rfl
  cases each with
  | cons first rest =>
    cases rest with
    | cons second rest =>
      cases rest
      obtain rfl := Except.ok.inj (capital.symm.trans first.1)
      obtain rfl := Except.ok.inj (accent.symm.trans second.1)
      have text : (run ⟨["aB", "é"], none, '.', '_', none, .all, true⟩ ⟨true, 0, false⟩ (.ok [])).output =
          "042e5f028020\n002e5f02c3a9\n" := lines.trans (by cbv)
      have bytes : List.flatMap Frame.write [⟨"aB", .allToLowerSpecial, 46, 95, [0x80, 0x20]⟩,
          ⟨"é", .utf8, 46, 95, [0xc3, 0xa9]⟩] = [4, 46, 95, 2, 0x80, 0x20, 0, 46, 95, 2, 0xc3, 0xa9] := by cbv
      rw [text, bytes] at read
      rw [bytes] at shown objects'
      rw [objects, objects']
      exact ⟨⟨valid, named, encodable⟩, text, read, shown.trans (by cbv), by cbv, by cbv⟩

end Cli.EncodeOptions
end NamePack
