import NamePack.Census
import NamePack.Proofs.Payloads

/-!
# What encodings can write

`Encoding.admits` says which characters an encoding takes at which position. An encoding writes a text
exactly if it admits every character (`exists_write_iff`), and the counts of a census tell the same
(`Census.fits_iff`), so the encoding that is selected always writes the text (`exists_write_select`).
-/
namespace NamePack

namespace Encoding
open Alphabet

/-- Whether an encoding takes a character at position `i` of a text. -/
def admits (e : Encoding) (sp : Specials) (i : Nat) (c : Char) : Bool :=
  match e with
  | utf8 => true
  | lowerSpecial => c.isLower || sp.contains c
  | lowerUpperDigitSpecial => c.isAlphanum || sp.contains c
  | firstToLowerSpecial => if i = 0 then c.isUpper else c.isLower || sp.contains c
  | allToLowerSpecial => c.isAlpha || sp.contains c

/-- Whether an encoding takes every character of a text where it stands. -/
def Admits (e : Encoding) (sp : Specials) (cs : List Char) : Prop := ∀ p ∈ cs.zipIdx, e.admits sp p.2 p.1 = true

/-! ## Codes and positions -/

theorem isAlpha_or_contains_toLower (sp : Specials) (c : Char) :
    (c.isAlpha || sp.contains c.toLower) = (c.isAlpha || sp.contains c) := by
  by_cases letter : c.isAlpha = true
  · simp [letter]
  · have upper : ¬ c.isUpper = true := fun upper => letter (by simp [Char.isAlpha, upper])
    rw [Char.toLower_eq_of_not_isUpper upper]

theorem isSome_code?_fold? {e : Encoding} {sp : Specials} {i : Nat} {c : Char} (packed : e ≠ utf8) :
    ((e.fold? i c).bind (e.code? sp)).isSome = e.admits sp i c := by
  cases e with
  | utf8 => exact absurd rfl packed
  | lowerSpecial => simp [fold?, code?, admits, isSome_code5?]
  | lowerUpperDigitSpecial => simp [fold?, code?, admits, isSome_code6?]
  | allToLowerSpecial => simp [fold?, code?, admits, isSome_code5?, isAlpha_or_contains_toLower]
  | firstToLowerSpecial =>
    by_cases first : i = 0
    · by_cases upper : c.isUpper = true
      · have lower : c.toLower.isLower = true := isLower_toLower upper
        simp [fold?, code?, admits, isSome_code5?, first, upper, lower]
      · simp [fold?, admits, first, upper]
    · simp [fold?, code?, admits, isSome_code5?, first]

theorem exists_codeAt_iff {e : Encoding} {sp : Specials} {i : Nat} {c : Char} (packed : e ≠ utf8) :
    (∃ k, e.codeAt sp c i = .ok k) ↔ e.admits sp i c = true := by
  rw [← isSome_code?_fold? packed]
  unfold codeAt
  cases (e.fold? i c).bind (e.code? sp) <;> simp

/-- A text is written exactly if each of its characters is admitted. -/
theorem exists_write_iff (e : Encoding) (sp : Specials) (text : String) :
    (∃ payload, e.write sp text = .ok payload) ↔ e.Admits sp text.toList := by
  cases packed : e.width? with
  | none =>
    obtain rfl := eq_utf8_of_width? packed
    simp [write, width?, Admits, admits]
  | some width =>
    have coded : e ≠ utf8 := by rintro rfl; cases packed
    have coded_iff : (∃ payload, e.write sp text = .ok payload) ↔ ∃ ks, e.codes sp text = .ok ks := by
      simp only [write, packed, map_ok_iff]
      constructor
      · rintro ⟨_, ks, coded, -⟩
        exact ⟨ks, coded⟩
      · rintro ⟨ks, coded⟩
        exact ⟨_, ks, coded, rfl⟩
    rw [coded_iff, codes, exists_mapM_ok_iff]
    simp only [exists_codeAt_iff coded, Admits]

theorem admits_succ (e : Encoding) (sp : Specials) (i : Nat) (c : Char) : e.admits sp (i + 1) c = e.admits sp 1 c := by
  cases e <;> rfl

/-- Behind the first character an encoding takes the same characters everywhere. -/
theorem admits_later (e : Encoding) (sp : Specials) (cs : List Char) (i : Nat) :
    (∀ p ∈ cs.zipIdx (i + 1), e.admits sp p.2 p.1 = true) ↔ ∀ c ∈ cs, e.admits sp 1 c = true := by
  induction cs generalizing i with
  | nil => simp
  | cons c rest ih => rw [List.zipIdx_cons, List.forall_mem_cons, List.forall_mem_cons, ih, admits_succ]

theorem admits_cons (e : Encoding) (sp : Specials) (c : Char) (rest : List Char) :
    e.Admits sp (c :: rest) ↔ e.admits sp 0 c = true ∧ ∀ d ∈ rest, e.admits sp 1 d = true := by
  rw [Admits, List.zipIdx_cons, List.forall_mem_cons, admits_later]

theorem admits_iff {e : Encoding} (anywhere : e ≠ firstToLowerSpecial) (sp : Specials) (cs : List Char) :
    e.Admits sp cs ↔ ∀ c ∈ cs, e.admits sp 1 c = true := by
  cases cs with
  | nil => simp [Admits]
  | cons c rest =>
    have first : e.admits sp 0 c = e.admits sp 1 c := by
      cases e with
      | firstToLowerSpecial => exact absurd rfl anywhere
      | utf8 | lowerSpecial | lowerUpperDigitSpecial | allToLowerSpecial => rfl
    rw [admits_cons, first, List.forall_mem_cons]

end Encoding

/-! ## Classes -/

namespace Specials

theorem classOf_eq_upper_iff (sp : Specials) (c : Char) : sp.classOf c = .upper ↔ c.isUpper = true := by
  unfold classOf
  split_ifs with lower upper digit special
  · have both : ¬ c.isUpper = true := fun upper => Char.not_isLower_of_isUpper upper lower
    simp [both]
  all_goals simp [*]

end Specials

namespace Encoding

/-- Whether an encoding takes no character of a class behind the first of a text. -/
def refuses : Encoding → CharClass → Bool
  | utf8, _ => false
  | lowerUpperDigitSpecial, k => k == .other
  | allToLowerSpecial, k => k == .other || k == .digit
  | lowerSpecial, k | firstToLowerSpecial, k => k == .other || k == .upper || k == .digit

theorem admits_one_iff (e : Encoding) (sp : Specials) (c : Char) :
    e.admits sp 1 c = true ↔ e.refuses (sp.classOf c) = false := by
  have plain : c.isAlphanum = true → sp.contains c = false := Specials.not_contains_of_isAlphanum
  simp only [Char.isAlphanum, Char.isAlpha] at plain
  unfold Specials.classOf
  split_ifs with lower upper digit special
  all_goals cases e <;> simp_all [admits, refuses, Char.isAlphanum, Char.isAlpha]

end Encoding

namespace Census

/-! ## Counts -/

/-- The number of characters of a class. -/
def tally (sp : Specials) (k : CharClass) (cs : List Char) : Nat := cs.countP fun c => sp.classOf c = k

theorem tally_cons (sp : Specials) (k : CharClass) (c : Char) (rest : List Char) :
    tally sp k (c :: rest) = tally sp k rest + if sp.classOf c = k then 1 else 0 := by
  simp [tally, List.countP_cons]

theorem tally_eq_zero_iff (sp : Specials) (k : CharClass) (cs : List Char) :
    tally sp k cs = 0 ↔ ∀ c ∈ cs, sp.classOf c ≠ k := by
  simp [tally]

/-- The census goes on from any other with the counts of the characters that are added. -/
theorem foldl_add (sp : Specials) (s : Census) (cs : List Char) :
    cs.foldl (fun s c => s.add (sp.classOf c)) s =
      ⟨s.size + cs.length, s.lower + tally sp .lower cs, s.upper + tally sp .upper cs, s.digit + tally sp .digit cs,
        s.special + tally sp .special cs, s.other + tally sp .other cs,
        s.firstIsUpper || (s.size == 0 && cs.head?.any Char.isUpper)⟩ := by
  induction cs generalizing s with
  | nil => simp [tally]
  | cons c rest ih =>
    have upper := sp.classOf_eq_upper_iff c
    rw [List.foldl_cons, ih]
    cases k : sp.classOf c <;> simp [k] at upper <;> simp [k, add, tally_cons, upper] <;> omega

theorem ofText_eq (sp : Specials) (text : String) :
    ofText sp text =
      ⟨text.toList.length, tally sp .lower text.toList, tally sp .upper text.toList, tally sp .digit text.toList,
        tally sp .special text.toList, tally sp .other text.toList, text.toList.head?.any Char.isUpper⟩ := by
  simp [ofText, foldl_add, empty]

/-- Nothing is counted in the classes that an encoding refuses. -/
theorem forall_admits_iff (e : Encoding) (sp : Specials) (cs : List Char) :
    (∀ c ∈ cs, e.admits sp 1 c = true) ↔ ∀ k, e.refuses k = true → tally sp k cs = 0 := by
  simp only [Encoding.admits_one_iff, tally_eq_zero_iff]
  constructor
  · rintro taken k refused c member rfl
    simp [taken c member] at refused
  · intro absent c member
    by_contra refused
    exact absent _ (by simpa using refused) c member rfl

/-- From the counts alone it is known whether a text can be written. Nothing of the empty text is
    counted, and `firstToLowerSpecial` counts on a first character. -/
theorem fits_iff (e : Encoding) (sp : Specials) (text : String) :
    (ofText sp text).fits e = true ↔
      e.Admits sp text.toList ∧ (e = .firstToLowerSpecial → text.toList ≠ []) := by
  rw [ofText_eq]
  by_cases anywhere : e = .firstToLowerSpecial
  · subst anywhere
    cases text.toList with
    | nil => simp [fits]
    | cons c rest =>
      have upper := sp.classOf_eq_upper_iff c
      rw [Encoding.admits_cons, forall_admits_iff]
      -- The first character takes up the one capital that is counted, so the others have none.
      by_cases first : c.isUpper = true
      · have k : sp.classOf c = .upper := upper.mpr first
        simp [fits, Encoding.admits, Encoding.refuses, tally_cons, k, first, or_imp, forall_and, and_assoc]
      · simp [fits, Encoding.admits, first]
  · rw [Encoding.admits_iff anywhere, forall_admits_iff]
    cases e with
    | firstToLowerSpecial => exact absurd rfl anywhere
    | utf8 => simp [fits, Encoding.refuses]
    | lowerSpecial | lowerUpperDigitSpecial | allToLowerSpecial =>
      simp [fits, Encoding.refuses, or_imp, forall_and, and_assoc]

end Census

/-! ## The encoding that is selected -/

section Select
variable (sp : Specials) (allowed : EncodingSet) (text : String)

/-- The selected encoding is allowed and fits; plain UTF-8 always is and does. -/
theorem select_spec : allowed.allows (select sp allowed text) = true ∧
    (Census.ofText sp text).fits (select sp allowed text) = true := by
  simp only [select]
  cases found : Encoding.preference.find? fun e => allowed.allows e && (Census.ofText sp text).fits e with
  | none => exact ⟨allowed.allows_utf8, rfl⟩
  | some e =>
    have chosen := List.find?_some found
    rw [Bool.and_eq_true] at chosen
    exact chosen

/-- The selected encoding writes the text. -/
theorem exists_write_select : ∃ payload, (select sp allowed text).write sp text = .ok payload := by
  rw [Encoding.exists_write_iff]
  exact ((Census.fits_iff ..).mp (select_spec sp allowed text).2).1

theorem select_ne_of_not_contains {e : Encoding} (packed : e ≠ .utf8) (missing : allowed.contains e.flag = false) :
    select sp allowed text ≠ e := by
  rintro rfl
  have allows := (select_spec sp allowed text).1
  simp [EncodingSet.allows, packed, missing] at allows

end Select
end NamePack
