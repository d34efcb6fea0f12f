import NamePack.Cli.Encode
import NamePack.Proofs.Frames
import NamePack.Proofs.JsonText

/-!
# Listings of encoded names

A run of the command that encodes names either prints an entry for every name or prints nothing and reports the
first name that is refused (`Cli.EncodeOptions.run_all_or_nothing`). The names are those of the command line and of
one file, or of the standard input where there is neither. An entry is the same in every way of printing it, and
the printed JSON is read as one object for each name.
-/
namespace NamePack

/-! ## Entries -/

namespace Text

/-- The part of a line after its last tab. -/
def lastField (line : String) : String := String.ofList (line.toList.reverse.takeWhile (· ≠ '\t')).reverse

theorem lastField_tab (front : String) {field : String} (plain : '\t' ∉ field.toList) :
    lastField (front ++ "\t" ++ field) = field := by
  -- From its end on, the line is the field, the tab and what is in front.
  have kept : ∀ c ∈ field.toList.reverse, decide (c ≠ '\t') = true := by
    intro c member
    rw [List.mem_reverse] at member
    exact decide_eq_true (ne_of_mem_of_not_mem member plain)
  have chars : (front ++ "\t" ++ field).toList.reverse = field.toList.reverse ++ '\t' :: front.toList.reverse := by
    simp
  rw [lastField, chars, List.takeWhile_append_of_pos kept, List.takeWhile_cons_of_neg (by decide), List.append_nil,
    List.reverse_reverse, String.ofList_toList]

theorem Hex.tab_not_mem_write (bytes : Bytes) : '\t' ∉ (Hex.write bytes).toList := by
  intro member
  rw [Hex.write, String.toList_ofList] at member
  obtain ⟨n, small, tab⟩ := Hex.exists_digit_of_mem member
  have solid := (Hex.plain_digitChar small).1
  rw [← tab] at solid
  exact absurd solid (by decide)

end Text

namespace Record

/-- What a line says about an encoded name; a quiet one says `hex` alone. -/
def entry (quiet : Bool) (hex : String) (r : Record) : String :=
  if quiet then hex
  else
    r.text ++ "\t" ++ r.encoding.name ++ "\tstrip=" ++ digit r.isFlagged ++ "\t" ++ toString r.payload.length ++
      "\t" ++ hex

theorem encodedLine_eq (quiet : Bool) (hex : String) (r : Record) :
    r.encodedLine quiet hex = r.entry quiet hex ++ "\n" := by
  unfold encodedLine entry
  split_ifs <;> rfl

/-- Printed as a JSON list, records are read as their objects. -/
theorem read_jsonList (rs : List Record) : Text.Json.read (jsonList rs) = some (rs.map json) :=
  Text.Json.read_list_line _

theorem lastField_entry (framed : Bool) (r : Record) :
    Text.lastField (r.entry false (r.hexShown framed)) = r.hexShown framed :=
  Text.lastField_tab _ (Text.Hex.tab_not_mem_write _)

end Record

/-! ## Reports -/

/-- Reports of verbosity 2 one after another. -/
theorem Cli.Settings.join_trace {α : Type} (s : Settings) (message : α → String) (xs : List α) :
    ∃ traces : List String, (s.verbosity < 2 → traces = []) ∧
      String.join (xs.map fun x => s.trace (message x)) = String.join (traces.map fun t => "[TRACE] " ++ t ++ "\n") := by
  by_cases tells : 2 ≤ s.verbosity
  · refine ⟨xs.map message, ?_, ?_⟩
    · intro silent
      omega
    · simp only [trace, tells, if_true, List.map_map, Function.comp_def]
  · refine ⟨[], fun _ => rfl, ?_⟩
    induction xs with
    | nil => rfl
    | cons x rest ih => simpa [trace, tells] using ih

namespace Cli.EncodeOptions

variable {o : EncodeOptions}

/-! ## Names -/

/-- Where the names come from, what is read there and which names they are: those of the command line before those
    of a file, or those of the standard input where neither is given. -/
inductive Gathers (o : EncodeOptions) : Source → Except ReadError Bytes → List String → Prop
  | file {path : String} {bytes : Bytes} {more : List String} (given : o.input = some path)
      (read : Names.ofFile bytes = .ok more) : Gathers o (.file path) (.ok bytes) (o.names ++ more)
  | standardInput {bytes : Bytes} {more : List String} (no_file : o.input = none) (no_name : o.names = [])
      (read : Names.ofStandardInput bytes = .ok more) : Gathers o .standardInput (.ok bytes) more
  | commandLine {content : Except ReadError Bytes} (no_file : o.input = none) (named : o.names ≠ []) :
      Gathers o .nowhere content o.names

theorem allNames_of_gathers {source : Source} {content : Except ReadError Bytes} {names : List String} {sp : Specials}
    (valid : Specials.ofChars o.special1 o.special2 = .ok sp) (gathers : o.Gathers source content names) :
    o.source = source ∧ o.allNames content = .ok names := by
  cases gathers with
  | @file path _ _ given read =>
    have source : o.source = .file path := by simp only [EncodeOptions.source, valid, given]
    exact ⟨source, by simp only [allNames, source, read, bind, Except.bind, pure, Except.pure]⟩
  | standardInput no_file no_name read =>
    have source : o.source = .standardInput := by simp [EncodeOptions.source, valid, no_file, no_name]
    refine ⟨source, ?_⟩
    simp only [allNames, source, read, bind, Except.bind, pure, Except.pure, no_name, List.nil_append]
  | commandLine no_file named =>
    have source : o.source = .nowhere := by simp [EncodeOptions.source, valid, no_file, named]
    exact ⟨source, by simp only [allNames, source]⟩

/-! ## Records -/

theorem specials_encoder (sp : Specials) : (o.encoder sp).specials = sp := rfl

/-- A name is encoded with the encoding that is given or selected. -/
theorem encodeAs_of_encodeName {enc : Encoder} {name : String} {r : Record}
    (encoded : o.encodeName enc name = .ok r) : ∃ e, enc.encodeAs e name = .ok r := by
  unfold encodeName at encoded
  split at encoded
  · exact ⟨_, encoded⟩
  · exact ⟨_, encoded⟩

/-- The record of a name holds the name and the special characters of the encoder, and its payload spells the
    name up to the case that its encoding gives up. -/
theorem record_of_encodeName {enc : Encoder} {name : String} {r : Record} (encoded : o.encodeName enc name = .ok r) :
    r.Made ∧ r.text = name ∧ r.decode = .ok (r.encoding.kept name) ∧
      Char.ofUInt8 r.special1 = enc.specials.first ∧ Char.ofUInt8 r.special2 = enc.specials.second := by
  obtain ⟨e, written⟩ := encodeAs_of_encodeName encoded
  obtain ⟨rfl, rfl, decoded⟩ := Encoder.decode_of_write (Encoder.write_of_encodeAs written)
  obtain ⟨payload, -, same⟩ := Encoder.write_ok_iff.mp (Encoder.write_of_encodeAs written)
  refine ⟨.encodeAs written, rfl, decoded, ?_⟩
  rw [← same]
  exact ⟨enc.specials.ofUInt8_firstByte, enc.specials.ofUInt8_secondByte⟩

theorem encodeNames_ok_iff {enc : Encoder} {names : List String} {rs : List Record} :
    o.encodeNames enc names = .ok rs ↔ List.Forall₂ (fun name r => o.encodeName enc name = .ok r) names rs := by
  simp only [encodeNames, mapM_ok_iff, mapError_ok_iff]

theorem exists_name_of_mem {enc : Encoder} {names : List String} {rs : List Record}
    (each : List.Forall₂ (fun name r => o.encodeName enc name = .ok r) names rs) :
    ∀ r ∈ rs, ∃ name, o.encodeName enc name = .ok r := by
  induction each with
  | nil => simp
  | cons written _ ih => exact List.forall_mem_cons.mpr ⟨⟨_, written⟩, ih⟩

theorem exists_encodeNames {enc : Encoder} {names : List String}
    (encoded : ∀ name ∈ names, ∃ r, o.encodeName enc name = .ok r) : ∃ rs, o.encodeNames enc names = .ok rs := by
  unfold encodeNames
  rw [exists_mapM_ok_iff]
  simpa only [mapError_ok_iff] using encoded

theorem run_of_encoded {content : Except ReadError Bytes} {sp : Specials} {names : List String} {rs : List Record}
    (valid : Specials.ofChars o.special1 o.special2 = .ok sp) (named : o.allNames content = .ok names)
    (encoded : o.encodeNames (o.encoder sp) names = .ok rs) (s : Settings) :
    (o.run s content).status = 0 ∧ (o.run s content).output = o.listing s rs := by
  simp [run, valid, named, encoded, Outcome.success]

/-! ## Refused names -/

/-- The first of some names that cannot be encoded, and why. -/
def FirstRefused (o : EncodeOptions) (enc : Encoder) (names : List String) (name : String) (e : Error) : Prop :=
  ∃ before after, names = before ++ name :: after ∧ (∀ earlier ∈ before, ∃ r, o.encodeName enc earlier = .ok r) ∧
    o.encodeName enc name = .error e

theorem encodeNames_error_iff {enc : Encoder} {names : List String} {name : String} {e : Error} :
    o.encodeNames enc names = .error (name, e) ↔ o.FirstRefused enc names name e := by
  simp only [encodeNames, mapM_error_iff, mapError_ok_iff, mapError_error_iff, Prod.mk.injEq, FirstRefused]
  constructor
  · rintro ⟨before, _, after, split, earlier, _, failed, rfl, rfl⟩
    exact ⟨before, after, split, earlier, failed⟩
  · rintro ⟨before, after, split, earlier, failed⟩
    exact ⟨before, name, after, split, earlier, e, failed, rfl, rfl⟩

theorem exists_firstRefused {enc : Encoder} {names : List String}
    (refused : ∃ name ∈ names, ∃ e, o.encodeName enc name = .error e) : ∃ name e, o.FirstRefused enc names name e := by
  -- The run over the names stops at the first that is refused.
  cases encoded : o.encodeNames enc names with
  | error failure => exact ⟨failure.1, failure.2, encodeNames_error_iff.mp encoded⟩
  | ok rs =>
    obtain ⟨name, member, e, failed⟩ := refused
    have all := (exists_mapM_ok_iff _ _).mp ⟨rs, encoded⟩ name member
    simp [failed, Except.mapError] at all

theorem selections_eq (o : EncodeOptions) (s : Settings) (enc : Encoder) (names : List String) :
    ∃ traces : List String, (s.verbosity < 2 → traces = []) ∧
      o.selections s enc names = String.join (traces.map fun t => "[TRACE] " ++ t ++ "\n") := by
  unfold selections
  split_ifs with given
  · exact ⟨[], fun _ => rfl, rfl⟩
  · exact s.join_trace _ _

theorem run_of_refused {content : Except ReadError Bytes} {sp : Specials} {names : List String} {name : String}
    {e : Error} (valid : Specials.ofChars o.special1 o.special2 = .ok sp) (named : o.allNames content = .ok names)
    (refused : o.FirstRefused (o.encoder sp) names name e) (s : Settings) :
    o.run s content = .failure (o.selections s (o.encoder sp) names) (Text.quoteText name ++ ": " ++ e.message) := by
  simp only [run, valid, named, encodeNames_error_iff.mpr refused]

/-! ## All or nothing -/

theorem listing_lines (o : EncodeOptions) {s : Settings} (lines : s.json = false) (rs : List Record) :
    o.listing s rs = String.join (rs.map fun r => r.entry s.quiet (r.hexShown o.framed) ++ "\n") := by
  simp only [listing, lines, Record.encodedLine_eq, Bool.false_eq_true, if_false]

/-- As JSON, a listing is read as the list of the objects of its records. -/
theorem read_listing_json (o : EncodeOptions) {s : Settings} (json : s.json = true) (rs : List Record) :
    o.listing s rs = Record.jsonList rs ∧ Text.Json.read (o.listing s rs) = some (rs.map Record.json) := by
  have printed : o.listing s rs = Record.jsonList rs := by
    rw [listing, if_pos json]
  exact ⟨printed, printed ▸ Record.read_jsonList rs⟩

/-- Whatever the settings and whether frames are asked for or not, a run whose names can be read either encodes all
    of them and prints one entry for each, or it prints nothing and fails with the error of the first that is
    refused, after at most the reports that verbosity 2 asks for. What is printed as JSON is read as one list, with
    the object of each record in its place. A quiet entry, the end of a full one and a field of the JSON object
    hold the same digits. -/
theorem run_all_or_nothing (o : EncodeOptions) {source : Source} {content : Except ReadError Bytes}
    {names : List String} {sp : Specials} (valid : Specials.ofChars o.special1 o.special2 = .ok sp)
    (gathers : o.Gathers source content names) :
    o.source = source ∧
    ((∃ name ∈ names, ∃ e, o.encodeName (o.encoder sp) name = .error e) →
      ∃ name e, o.FirstRefused (o.encoder sp) names name e ∧
        ∀ (framed : Bool) (s : Settings), ∃ traces : List String, (s.verbosity < 2 → traces = []) ∧
          run { o with framed } s content = ⟨1, "", String.join (traces.map fun t => "[TRACE] " ++ t ++ "\n") ++
            "metastring: " ++ (Text.quoteText name ++ ": " ++ e.message) ++ "\n"⟩) ∧
    ((∀ name ∈ names, ∃ r, o.encodeName (o.encoder sp) name = .ok r) →
      ∃ rs : List Record,
        List.Forall₂ (fun name r => o.encodeName (o.encoder sp) name = .ok r ∧ r.text = name) names rs ∧
        ∀ (framed : Bool) (s : Settings),
          (run { o with framed } s content).status = 0 ∧
          (s.json = false → (run { o with framed } s content).output =
            String.join (rs.map fun r => r.entry s.quiet (r.hexShown framed) ++ "\n")) ∧
          (s.json = true → (run { o with framed } s content).output = Record.jsonList rs ∧
            Text.Json.read (run { o with framed } s content).output = some (rs.map Record.json))) ∧
    ∀ r : Record,
      (∀ framed : Bool,
        r.entry true (r.hexShown framed) = Text.Hex.write (if framed then Frame.write r else r.payload) ∧
        Text.lastField (r.entry false (r.hexShown framed)) =
          Text.Hex.write (if framed then Frame.write r else r.payload)) ∧
      r.json.lookup "input" = some (.text r.text) ∧
      r.json.lookup "encoded_hex" = some (.text (Text.Hex.write r.payload)) ∧
      r.json.lookup "framed_hex" = some (.text (Text.Hex.write (Frame.write r))) := by
  obtain ⟨from_source, named⟩ := allNames_of_gathers valid gathers
  refine ⟨from_source, ?_, ?_, ?_⟩
  · intro refused
    obtain ⟨name, e, first⟩ := exists_firstRefused refused
    refine ⟨name, e, first, ?_⟩
    intro framed s
    obtain ⟨traces, silent, reports⟩ := selections_eq o s (o.encoder sp) names
    refine ⟨traces, silent, ?_⟩
    have failed := run_of_refused (o := { o with framed }) valid named first s
    rw [failed, Outcome.failure, ← reports]
    rfl
  · intro encodable
    obtain ⟨rs, encoded⟩ := exists_encodeNames encodable
    refine ⟨rs, ?_, ?_⟩
    · apply (encodeNames_ok_iff.mp encoded).imp
      intro name r written
      exact ⟨written, (record_of_encodeName written).2.1⟩
    · intro framed s
      obtain ⟨status, output⟩ := run_of_encoded (o := { o with framed }) valid named encoded s
      rw [output]
      exact ⟨status, fun lines => listing_lines _ lines rs, fun json => read_listing_json _ json rs⟩
  · intro r
    refine ⟨?_, rfl, rfl, rfl⟩
    intro framed
    exact ⟨rfl, Record.lastField_entry framed r⟩

/-- A name from the command line before one from a file, on lines and as JSON; and three names of which the second
    is refused. -/
theorem run_all_or_nothing_three :
    (Specials.ofChars '.' '_' = .ok .standard ∧
      Gathers ⟨["aB"], some "list", '.', '_', none, .all, false⟩ (.file "list") (.ok [0xc3, 0xa9, 0x0a]) ["aB", "é"] ∧
      ∀ s : Settings,
        (s.json = false → s.quiet = true →
          (run ⟨["aB"], some "list", '.', '_', none, .all, false⟩ s (.ok [0xc3, 0xa9, 0x0a])).output =
            "8020\nc3a9\n") ∧
        (s.json = true →
          Text.Json.read (run ⟨["aB"], some "list", '.', '_', none, .all, false⟩ s (.ok [0xc3, 0xa9, 0x0a])).output =
            some [
              [("encoded_hex", .text "8020"), ("encoded_len", .number 2), ("encoding", .text "ALL_TO_LOWER_SPECIAL"),
                ("framed_hex", .text "042e5f028020"), ("input", .text "aB"), ("special_char1", .text "."),
                ("special_char2", .text "_"), ("strip_last_char", .flag true), ("tag", .number 4)],
              [("encoded_hex", .text "c3a9"), ("encoded_len", .number 2), ("encoding", .text "UTF_8"),
                ("framed_hex", .text "002e5f02c3a9"), ("input", .text "é"), ("special_char1", .text "."),
                ("special_char2", .text "_"), ("strip_last_char", .flag false), ("tag", .number 0)]])) ∧
    Gathers ⟨["ab", "c1", "D"], none, '.', '_', some .lowerSpecial, .all, false⟩ .nowhere (.ok []) ["ab", "c1", "D"] ∧
    ∀ s : Settings, s.verbosity = 0 →
      run ⟨["ab", "c1", "D"], none, '.', '_', some .lowerSpecial, .all, false⟩ s (.ok []) =
        ⟨1, "", "metastring: \"c1\": character '1' cannot be encoded as LOWER_SPECIAL\n"⟩ := by
  have valid : Specials.ofChars '.' '_' = .ok .standard := by decide
  refine ⟨⟨valid, ?_⟩, ?_⟩
  · have gathers : Gathers ⟨["aB"], some "list", '.', '_', none, .all, false⟩ (.file "list") (.ok [0xc3, 0xa9, 0x0a])
        ["aB", "é"] := .file rfl (by cbv)
    have capital : encodeName ⟨["aB"], some "list", '.', '_', none, .all, false⟩ ⟨.standard, .all⟩ "aB" =
        .ok ⟨"aB", .allToLowerSpecial, 46, 95, [0x80, 0x20]⟩ := by cbv
    have accent : encodeName ⟨["aB"], some "list", '.', '_', none, .all, false⟩ ⟨.standard, .all⟩ "é" =
        .ok ⟨"é", .utf8, 46, 95, [0xc3, 0xa9]⟩ := by cbv
    refine ⟨gathers, ?_⟩
    intro s
    obtain ⟨-, -, all, -⟩ := run_all_or_nothing _ valid gathers
    obtain ⟨rs, each, printed⟩ := all (by simpa using ⟨⟨_, capital⟩, ⟨_, accent⟩⟩)
    obtain ⟨-, on_lines, as_json⟩ := printed false s
    cases each with
    | cons first rest =>
      cases rest with
      | cons second rest =>
        cases rest
        obtain rfl := Except.ok.inj (capital.symm.trans first.1)
        obtain rfl := Except.ok.inj (accent.symm.trans second.1)
        refine ⟨?_, ?_⟩
        · intro lines quiet
          rw [quiet] at on_lines
          exact (on_lines lines).trans (by cbv)
        · intro json
          exact (as_json json).2.trans (by cbv)
  · have gathers : Gathers ⟨["ab", "c1", "D"], none, '.', '_', some .lowerSpecial, .all, false⟩ .nowhere (.ok [])
        ["ab", "c1", "D"] := .commandLine rfl (by simp)
    have digit : encodeName ⟨["ab", "c1", "D"], none, '.', '_', some .lowerSpecial, .all, false⟩ ⟨.standard, .all⟩ "c1" =
        .error (.unsupported '1' .lowerSpecial) := by cbv
    have stopped : encodeNames ⟨["ab", "c1", "D"], none, '.', '_', some .lowerSpecial, .all, false⟩ ⟨.standard, .all⟩
        ["ab", "c1", "D"] = .error ("c1", .unsupported '1' .lowerSpecial) := by cbv
    refine ⟨gathers, ?_⟩
    intro s silent
    obtain ⟨-, none_printed, -, -⟩ := run_all_or_nothing _ valid gathers
    obtain ⟨name, e, first, failed⟩ := none_printed ⟨"c1", by simp, _, digit⟩
    obtain ⟨rfl, rfl⟩ := Prod.mk.inj (Except.error.inj (stopped.symm.trans (encodeNames_error_iff.mpr first)))
    obtain ⟨traces, no_trace, run⟩ := failed false s
    obtain rfl := no_trace (by omega)
    exact run.trans (by decide +kernel)

end Cli.EncodeOptions
end NamePack
