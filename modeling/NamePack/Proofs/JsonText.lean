import Mathlib.Tactic.IntervalCases
import NamePack.Proofs.HexText
import NamePack.Text.Json

/-!
# JSON text read back

A reader of JSON lists of flat objects, which knows nothing of how they are printed: blanks may stand between any
two parts, a string may hold any escape of one character, and only blanks may stand around the list. Whatever is
printed is read back, an object with any text behind it (`Text.Json.readObject_object`) and a list as the whole
of a text (`Text.Json.read_list`).
-/
namespace NamePack.Text.Json

/-! ## Reading -/

/-- Reads what stands at the front of a text, and gives it with the text behind it. -/
abbrev Reader (α : Type) := List Char → Option (α × List Char)

/-- Whether a character may stand between two parts. -/
def isGap (c : Char) : Bool := c = ' ' || c = '\t' || c = '\n' || c = '\r'

def skip (cs : List Char) : List Char := cs.dropWhile isGap

/-- The character whose code is written with these digits in base 16. -/
def ofCode? (digits : List Char) : Option Char := do
  let code ← digits.foldlM (fun n d => (Hex.digit? d).map (16 * n + ·)) 0
  if code.isValidChar then some (Char.ofNat code) else none

/-- The character that a letter behind a backslash stands for. -/
def unescape? (c : Char) : Option Char :=
  [('\x22', '\x22'), ('\\', '\\'), ('/', '/'), ('b', '\x08'), ('f', '\x0c'), ('n', '\n'), ('r', '\r'),
    ('t', '\t')].lookup c

/-- The characters of a string behind its opening quote. -/
def readChars : Reader (List Char)
  | '\\' :: 'u' :: a :: b :: c :: d :: rest => do
    let char ← ofCode? [a, b, c, d]
    (readChars rest).map (Prod.map (char :: ·) id)
  | '\\' :: c :: rest => do
    let char ← unescape? c
    (readChars rest).map (Prod.map (char :: ·) id)
  | c :: rest =>
    if c = '\x22' then some ([], rest)
    else if c = '\\' ∨ c.toNat < 0x20 then none
    else (readChars rest).map (Prod.map (c :: ·) id)
  | [] => none

/-- A number. No digit stands behind a zero in front. -/
def readNumber : Reader Nat := fun cs =>
  let digits := cs.takeWhile Char.isDigit
  if digits = [] ∨ (digits.head? = some '0' ∧ digits ≠ ['0']) then none
  else some (Nat.ofDigitChars 10 digits 0, cs.dropWhile Char.isDigit)

def readAtom : Reader JsonAtom
  | '\x22' :: rest => (readChars rest).map (Prod.map (.text ∘ String.ofList) id)
  | 't' :: 'r' :: 'u' :: 'e' :: rest => some (.flag true, rest)
  | 'f' :: 'a' :: 'l' :: 's' :: 'e' :: rest => some (.flag false, rest)
  | cs => (readNumber cs).map (Prod.map .number id)

/-- One element or more with commas between them, up to the closing character. An element takes at least one
    character. -/
def readElements {α : Type} (element : Reader α) (close : Char) (cs : List Char) : Option (List α × List Char) := do
  let (x, rest) ← element (skip cs)
  match skip rest with
  | [] => none
  | c :: more =>
    if c = close then some ([x], more)
    else if _ : c = ',' ∧ more.length < cs.length then
      (readElements element close more).map (Prod.map (x :: ·) id)
    else none
termination_by cs.length

def readGroup {α : Type} (element : Reader α) (close : Char) (cs : List Char) : Option (List α × List Char) :=
  match skip cs with
  | [] => none
  | c :: rest => if c = close then some ([], rest) else readElements element close cs

def readField : Reader (String × JsonAtom)
  | '\x22' :: cs => do
    let (key, rest) ← readChars cs
    match skip rest with
    | ':' :: more => (readAtom (skip more)).map (Prod.map (String.ofList key, ·) id)
    | _ => none
  | _ => none

def readObject : Reader JsonObject
  | '\x7b' :: cs => readGroup readField '\x7d' cs
  | _ => none

/-- The objects of a text that is a list of them. -/
def read (text : String) : Option (List JsonObject) :=
  match skip text.toList with
  | '[' :: cs => do
    let (objects, rest) ← readGroup readObject ']' cs
    if skip rest = [] then some objects else none
  | _ => none

/-! ## Blanks -/

def Blank (gap : List Char) : Prop := ∀ c ∈ gap, isGap c = true

theorem blank_nil : Blank [] := List.forall_mem_nil _

theorem Blank.newline {gap : List Char} (blank : Blank gap) : Blank ('\n' :: gap) :=
  List.forall_mem_cons.mpr ⟨rfl, blank⟩

theorem skip_append {gap : List Char} (blank : Blank gap) (cs : List Char) : skip (gap ++ cs) = skip cs :=
  List.dropWhile_append_of_pos blank

theorem skip_cons {c : Char} (solid : isGap c = false) (cs : List Char) : skip (c :: cs) = c :: cs :=
  List.dropWhile_cons_of_neg (by simp [solid])

/-! ## Strings -/

theorem ofCode?_control {c : Char} (control : c.toNat < 0x20) :
    ofCode? ['0', '0', Nat.digitChar (c.toNat / 16), Nat.digitChar (c.toNat % 16)] = some c := by
  have zero : Hex.digit? '0' = some 0 := by decide
  have high := Hex.digit?_digitChar (show c.toNat / 16 < 16 by omega)
  have low := Hex.digit?_digitChar (show c.toNat % 16 < 16 by omega)
  have whole : 16 * (c.toNat / 16) + c.toNat % 16 = c.toNat := Nat.div_add_mod ..
  have valid : c.toNat.isValidChar := c.valid
  simp [ofCode?, zero, high, low, whole, valid]

theorem toList_control {c : Char} (control : c.toNat < 0x20) :
    ("\\u00" ++ hexByte c.toNat.toUInt8).toList =
      ['\\', 'u', '0', '0', Nat.digitChar (c.toNat / 16), Nat.digitChar (c.toNat % 16)] := by
  have byte : c.toNat.toUInt8.toNat = c.toNat := by
    rw [Nat.toUInt8_eq, UInt8.toNat_ofNat']
    omega
  simp [hexByte, byte]

/-- A character is read as it is escaped, and the string goes on behind it. -/
theorem readChars_escape (c : Char) (rest : List Char) :
    readChars ((escape c).toList ++ rest) = (readChars rest).map (Prod.map (c :: ·) id) := by
  unfold escape
  split_ifs with quote slash back feed line carriage tab control
  · subst quote; rfl
  · subst slash; rfl
  · subst back; rfl
  · subst feed; rfl
  · subst line; rfl
  · subst carriage; rfl
  · subst tab; rfl
  · rw [toList_control control]
    simp [readChars, ofCode?_control control]
  · rw [Char.toString_eq_singleton, String.toList_singleton, List.singleton_append, readChars]
    · simp [quote, slash, control]
    · simp [slash]
    · simp [slash]

theorem readChars_escapes (cs rest : List Char) :
    readChars ((cs.flatMap fun c => (escape c).toList) ++ '\x22' :: rest) = some (cs, rest) := by
  induction cs with
  | nil => simp [readChars]
  | cons c more ih =>
    rw [List.flatMap_cons, List.append_assoc, readChars_escape, ih]
    rfl

theorem toList_foldl_escape (cs : List Char) (shown : String) :
    (cs.foldl (fun shown c => shown ++ escape c) shown).toList =
      shown.toList ++ cs.flatMap fun c => (escape c).toList := by
  induction cs generalizing shown with
  | nil => simp
  | cons c more ih => rw [List.foldl_cons, ih, String.toList_append, List.flatMap_cons, List.append_assoc]

theorem toList_string_append (s : String) (rest : List Char) :
    (string s).toList ++ rest = '\x22' :: ((s.toList.flatMap fun c => (escape c).toList) ++ '\x22' :: rest) := by
  simp [string, toList_foldl_escape]

/-! ## Numbers -/

/-- Whether a text can stand behind a number without being taken for a part of it. -/
def Ends (rest : List Char) : Prop := ∀ c ∈ rest.head?, c.isDigit = false

theorem head?_toDigits {n : Nat} (pos : 0 < n) : (Nat.toDigits 10 n).head? ≠ some '0' := by
  induction n using Nat.strong_induction_on with
  | h n ih =>
    rw [Nat.toDigits_eq_if (by decide)]
    split_ifs with small
    · interval_cases n <;> decide
    · rw [List.head?_append_of_ne_nil _ Nat.toDigits_ne_nil]
      exact ih (n / 10) (by omega) (by omega)

/-- A number is read up to the first character that is no digit. -/
theorem readNumber_toDigits (n : Nat) {rest : List Char} (ends : Ends rest) :
    readNumber (Nat.toDigits 10 n ++ rest) = some (n, rest) := by
  have digits : ∀ c ∈ Nat.toDigits 10 n, c.isDigit = true := fun _ =>
    Nat.isDigit_of_mem_toDigits (by decide) (by decide)
  have front : rest.takeWhile Char.isDigit = [] ∧ rest.dropWhile Char.isDigit = rest := by
    cases rest with
    | nil => exact ⟨rfl, rfl⟩
    | cons c more => simp [ends c rfl]
  have canonical : ¬ ((Nat.toDigits 10 n).head? = some '0' ∧ Nat.toDigits 10 n ≠ ['0']) := by
    rintro ⟨zero, longer⟩
    obtain rfl | pos := n.eq_zero_or_pos
    · exact longer (Nat.toDigits_zero 10)
    · exact head?_toDigits pos zero
  simp only [readNumber, List.takeWhile_append_of_pos digits, List.dropWhile_append_of_pos digits, front,
    List.append_nil, Nat.ofDigitChars_ten_toDigits]
  rw [if_neg (not_or.mpr ⟨Nat.toDigits_ne_nil, canonical⟩)]

theorem exists_digit_cons (n : Nat) : ∃ d more, Nat.toDigits 10 n = d :: more ∧ d.isDigit = true := by
  cases digits : Nat.toDigits 10 n with
  | nil => exact absurd digits Nat.toDigits_ne_nil
  | cons d more =>
    have member : d ∈ Nat.toDigits 10 n := by
      rw [digits]
      exact List.mem_cons_self
    exact ⟨d, more, rfl, Nat.isDigit_of_mem_toDigits (by decide) (by decide) member⟩

theorem isGap_of_isDigit {c : Char} (digit : c.isDigit = true) : isGap c = false := by
  by_contra gap
  simp only [isGap, Bool.not_eq_false, Bool.or_eq_true, decide_eq_true_eq] at gap
  rcases gap with ((rfl | rfl) | rfl) | rfl <;> exact absurd digit (by decide)

theorem toList_number (n : Nat) : (atom (.number n)).toList = Nat.toDigits 10 n := by
  rw [atom, Nat.toString_eq_ofList_toDigits, String.toList_ofList]

/-- A value does not begin with a blank. -/
theorem skip_atom (a : JsonAtom) (rest : List Char) : skip ((atom a).toList ++ rest) = (atom a).toList ++ rest := by
  cases a with
  | text s =>
    rw [atom, toList_string_append]
    exact skip_cons (by decide) _
  | number n =>
    obtain ⟨d, more, digits, digit⟩ := exists_digit_cons n
    rw [toList_number, digits]
    exact skip_cons (isGap_of_isDigit digit) _
  | flag b => cases b <;> exact skip_cons (by decide) _

theorem readAtom_atom (a : JsonAtom) {rest : List Char} (ends : Ends rest) :
    readAtom ((atom a).toList ++ rest) = some (a, rest) := by
  cases a with
  | text s =>
    rw [atom, toList_string_append, readAtom, readChars_escapes]
    simp
  | number n =>
    obtain ⟨d, more, digits, digit⟩ := exists_digit_cons n
    have read := readNumber_toDigits n ends
    have other : d ≠ '\x22' ∧ d ≠ 't' ∧ d ≠ 'f' := by
      refine ⟨?_, ?_, ?_⟩ <;> rintro rfl <;> exact absurd digit (by decide)
    rw [digits, List.cons_append] at read
    rw [toList_number, digits, List.cons_append, readAtom, read]
    · rfl
    all_goals simp [other]
  | flag b => cases b <;> rfl

/-! ## Groups -/

section
variable {α : Type} {element : Reader α} {shown : α → List Char} {opens close : Char}

theorem readElements_close {cs rest more : List Char} {x : α} (read : element (skip cs) = some (x, rest))
    (closed : skip rest = close :: more) : readElements element close cs = some ([x], more) := by
  rw [readElements, read]
  simp [closed]

theorem readElements_comma {cs rest more : List Char} {x : α} (apart : close ≠ ',')
    (read : element (skip cs) = some (x, rest)) (comma : skip rest = ',' :: more) (shorter : more.length < cs.length) :
    readElements element close cs = (readElements element close more).map (Prod.map (x :: ·) id) := by
  rw [readElements, read]
  simp [comma, apart.symm, shorter]

/-- How the elements of a group are printed: each begins with a character of its own, which is neither a blank nor
    the one that closes the group, and is read back. -/
structure Printed (element : Reader α) (shown : α → List Char) (opens close : Char) : Prop where
  begins : ∀ x, ∃ more, shown x = opens :: more
  solid : isGap opens = false ∧ isGap close = false
  apart : opens ≠ close ∧ close ≠ ','
  read : ∀ x rest, Ends rest → element (shown x ++ rest) = some (x, rest)

/-- Elements on lines of their own, each behind a margin. -/
def lines (margin : List Char) (shown : α → List Char) (xs : List α) : List Char :=
  List.intercalate [',', '\n'] (xs.map fun x => margin ++ shown x)

theorem lines_singleton (margin : List Char) (x : α) : lines margin shown [x] = margin ++ shown x := by
  rw [lines, List.map_singleton, List.intercalate_singleton]

theorem lines_cons (margin : List Char) (x y : α) (more : List α) :
    lines margin shown (x :: y :: more) = margin ++ (shown x ++ ',' :: '\n' :: lines margin shown (y :: more)) := by
  rw [lines, List.map_cons, List.map_cons, List.intercalate_cons_cons]
  simp [lines]

theorem exists_lines_cons (margin : List Char) (shown : α → List Char) (x : α) (more : List α) :
    ∃ behind, lines margin shown (x :: more) = margin ++ (shown x ++ behind) := by
  cases more with
  | nil => exact ⟨[], by rw [lines_singleton, List.append_nil]⟩
  | cons y more => exact ⟨_, lines_cons margin x y more⟩

variable (printed : Printed element shown opens close)
include printed

theorem Printed.skip_shown {gap : List Char} (blank : Blank gap) (x : α) (rest : List Char) :
    skip (gap ++ (shown x ++ rest)) = shown x ++ rest := by
  obtain ⟨tail, begins⟩ := printed.begins x
  rw [skip_append blank, begins, List.cons_append, skip_cons printed.solid.1]

theorem Printed.skip_close {gap : List Char} (blank : Blank gap) (rest : List Char) :
    skip (gap ++ close :: rest) = close :: rest := by
  rw [skip_append blank, skip_cons printed.solid.2]

theorem Printed.read_skip {lead margin : List Char} (blank : Blank lead) (inner : Blank margin) (x : α)
    {rest : List Char} (ends : Ends rest) :
    element (skip (lead ++ (margin ++ (shown x ++ rest)))) = some (x, rest) := by
  rw [skip_append blank, printed.skip_shown inner, printed.read x rest ends]

/-- The first element is read behind any blanks, and each other behind the comma of the one before. -/
theorem Printed.readElements_lines {lead margin outer : List Char} (blank : Blank lead) (inner : Blank margin)
    (last : Blank outer) (x : α) (more : List α) (rest : List Char) :
    readElements element close (lead ++ (lines margin shown (x :: more) ++ '\n' :: (outer ++ close :: rest))) =
      some (x :: more, rest) := by
  -- The line feed behind a comma is one of the blanks in front of the next element.
  induction more generalizing lead x with
  | nil =>
    rw [lines_singleton, List.append_assoc]
    exact readElements_close (printed.read_skip blank inner x (by simp [Ends])) (printed.skip_close last.newline rest)
  | cons y more ih =>
    have later := ih blank_nil.newline y
    have whole : lines margin shown (x :: y :: more) ++ '\n' :: (outer ++ close :: rest) = margin ++ (shown x ++
        ',' :: (['\n'] ++ (lines margin shown (y :: more) ++ '\n' :: (outer ++ close :: rest)))) := by
      simp [lines_cons]
    rw [whole, readElements_comma printed.apart.2 (printed.read_skip blank inner x (by simp [Ends]))
      (skip_cons (by decide) _), later]
    · rfl
    · simp only [List.length_append, List.length_cons]
      omega

/-- All elements are read, or none where there is none. -/
theorem Printed.readGroup_lines {margin outer : List Char} (inner : Blank margin) (last : Blank outer) (xs : List α)
    (rest : List Char) :
    readGroup element close ('\n' :: (lines margin shown xs ++ '\n' :: (outer ++ close :: rest))) =
      some (xs, rest) := by
  cases xs with
  | nil =>
    have closed := printed.skip_close last.newline.newline rest
    simp only [List.cons_append] at closed
    simp [readGroup, lines, closed]
  | cons x more =>
    have read := printed.readElements_lines blank_nil.newline inner last x more rest
    obtain ⟨behind, first⟩ := exists_lines_cons margin shown x more
    obtain ⟨tail, begins⟩ := printed.begins x
    have front := printed.skip_shown inner.newline x (behind ++ '\n' :: (outer ++ close :: rest))
    simp only [first, begins, List.append_assoc, List.cons_append, List.nil_append] at read front ⊢
    simp only [readGroup, front, printed.apart.1, if_false, read]

end

/-! ## Objects and lists -/

def fieldText (f : String × JsonAtom) : List Char := (string f.1).toList ++ ':' :: ' ' :: (atom f.2).toList

theorem printed_field : Printed readField fieldText '\x22' '\x7d' where
  begins f := ⟨_, toList_string_append f.1 _⟩
  solid := by decide
  apart := by decide
  read := by
    intro f rest ends
    have colon : isGap ':' = false := by decide
    have value : skip (' ' :: ((atom f.2).toList ++ rest)) = (atom f.2).toList ++ rest := by
      rw [← List.singleton_append, skip_append (by simp [Blank, isGap]), skip_atom]
    rw [fieldText, List.append_assoc, toList_string_append, readField, readChars_escapes]
    simp [skip_cons colon, value, readAtom_atom f.2 ends]

theorem toList_object (margin : String) (o : JsonObject) :
    (object margin o).toList = '\x7b' :: '\n' :: (lines (margin.toList ++ [' ', ' ']) fieldText o ++
      '\n' :: (margin.toList ++ ['\x7d'])) := by
  simp [object, lines, fieldText, String.toList_intercalate, Function.comp_def]

/-- A printed object is read back, whatever follows it. -/
theorem readObject_object {margin : String} (blank : Blank margin.toList) (o : JsonObject) (rest : List Char) :
    readObject ((object margin o).toList ++ rest) = some (o, rest) := by
  have inner : Blank (margin.toList ++ [' ', ' ']) := List.forall_mem_append.mpr ⟨blank, by simp [isGap]⟩
  have read := printed_field.readGroup_lines inner blank o rest
  simp [toList_object, readObject, read]

theorem printed_object {margin : String} (blank : Blank margin.toList) :
    Printed readObject (fun o => (object margin o).toList) '\x7b' ']' where
  begins o := ⟨_, toList_object margin o⟩
  solid := by decide
  apart := by decide
  read o rest _ := readObject_object blank o rest

theorem toList_list_cons (o : JsonObject) (more : List JsonObject) :
    (list (o :: more)).toList =
      '[' :: '\n' :: (lines "  ".toList (fun o => (object "  " o).toList) (o :: more) ++ ['\n', ']']) := by
  simp [list, lines, String.toList_intercalate, Function.comp_def]

/-- A printed list is read back, also with blanks behind it. -/
theorem read_list (objects : List JsonObject) {gap : String} (blank : Blank gap.toList) :
    read (list objects ++ gap) = some objects := by
  have rest : skip gap.toList = [] := by
    rw [← List.append_nil gap.toList, skip_append blank]
    rfl
  have bracket : isGap '[' = false ∧ isGap ']' = false := by decide
  cases objects with
  | nil => simp [read, list, readGroup, skip_cons, bracket, rest]
  | cons o more =>
    have two : Blank "  ".toList := by simp [Blank, isGap]
    have elements := (printed_object two).readGroup_lines two blank_nil (o :: more) gap.toList
    rw [List.nil_append] at elements
    have chars : (list (o :: more) ++ gap).toList = '[' :: '\n' ::
        (lines "  ".toList (fun o => (object "  " o).toList) (o :: more) ++ '\n' :: ']' :: gap.toList) := by
      rw [String.toList_append, toList_list_cons]
      simp
    simp only [read, chars, skip_cons bracket.1, elements, Option.bind_eq_bind, Option.bind_some, rest, if_true]

theorem read_list_line (objects : List JsonObject) : read (list objects ++ "\n") = some objects :=
  read_list objects blank_nil.newline

/-- Blanks and escapes that are never printed are read as well. -/
example : read "[ \x7b\"a\":0 ,\t\"\\u00E9\\/\" : \"b\"\x7d\r\n,\x7b \x7d]" =
    some [[("a", .number 0), ("é/", .text "b")], []] := by
  cbv

end NamePack.Text.Json
