import Mathlib
import NamePack.Payload

/-!
# Alphabets as bijections

Codes and characters determine each other in both alphabets (`code?_eq_some_iff`), and a character has
a code exactly if it is in the alphabet (`isSome_code5?`, `isSome_code6?`). `Spells` carries this over
to whole texts.
-/
namespace NamePack

/-! ## Characters -/

theorem forall_ascii {P : Char → Prop} (each : ∀ n < 128, P (Char.ofNat n)) {c : Char} (ascii : c.toNat < 128) :
    P c := by
  rw [← Char.ofNat_toNat c]
  exact each _ ascii

theorem ascii_of_isAlphanum {c : Char} (alphanum : c.isAlphanum = true) : c.toNat < 128 := by
  have bounds : c.val ≤ 122 := by
    simp only [Char.isAlphanum, Char.isAlpha, Char.isUpper, Char.isLower, Char.isDigit, UInt32.le_iff_toNat_le,
      Bool.or_eq_true, Bool.and_eq_true, decide_eq_true_eq, ge_iff_le] at alphanum ⊢
    simp at alphanum ⊢
    omega
  have value : c.toNat = c.val.toNat := rfl
  rw [UInt32.le_iff_toNat_le] at bounds
  simp at bounds
  omega

theorem isAlphanum_of_isLower {c : Char} (lower : c.isLower = true) : c.isAlphanum = true := by
  simp [Char.isAlphanum, Char.isAlpha, lower]

theorem isAlphanum_of_isUpper {c : Char} (upper : c.isUpper = true) : c.isAlphanum = true := by
  simp [Char.isAlphanum, Char.isAlpha, upper]

theorem isAlphanum_of_isDigit {c : Char} (digit : c.isDigit = true) : c.isAlphanum = true := by
  simp [Char.isAlphanum, digit]

theorem isUpper_toUpper {c : Char} (lower : c.isLower = true) : c.toUpper.isUpper = true := by
  simp [Char.isAlpha, lower]

theorem isLower_toLower {c : Char} (upper : c.isUpper = true) : c.toLower.isLower = true := by
  simp [Char.isAlpha, upper]

/-- What is no letter and no digit is in none of the three classes. -/
theorem classes_of_isAlphanum {c : Char} (other : c.isAlphanum = false) :
    c.isLower = false ∧ c.isUpper = false ∧ c.isDigit = false := by
  simp only [Char.isAlphanum, Char.isAlpha, Bool.or_eq_false_iff] at other
  exact ⟨other.1.2, other.1.1, other.2⟩

namespace Specials

theorem isAlphanum_first (sp : Specials) : sp.first.isAlphanum = false := by
  have special := sp.isSpecial_first
  simp only [isSpecial, Bool.and_eq_true, Bool.not_eq_true'] at special
  exact special.2

theorem isAlphanum_second (sp : Specials) : sp.second.isAlphanum = false := by
  have special := sp.isSpecial_second
  simp only [isSpecial, Bool.and_eq_true, Bool.not_eq_true'] at special
  exact special.2

theorem contains_iff (sp : Specials) (c : Char) : sp.contains c = true ↔ c = sp.first ∨ c = sp.second := by
  simp [contains]

/-- A special character is no letter and no digit. -/
theorem isAlphanum_of_contains {sp : Specials} {c : Char} (special : sp.contains c = true) : c.isAlphanum = false := by
  rcases (sp.contains_iff c).mp special with rfl | rfl
  · exact sp.isAlphanum_first
  · exact sp.isAlphanum_second

theorem classes_of_contains {sp : Specials} {c : Char} (special : sp.contains c = true) :
    c.isLower = false ∧ c.isUpper = false ∧ c.isDigit = false :=
  classes_of_isAlphanum (isAlphanum_of_contains special)

theorem not_contains_of_isAlphanum {sp : Specials} {c : Char} (alphanum : c.isAlphanum = true) :
    sp.contains c = false := by
  by_contra special
  rw [isAlphanum_of_contains (by simpa using special)] at alphanum
  cases alphanum

/-- A special character has no upper case. -/
theorem toUpper_of_contains {sp : Specials} {c : Char} (special : sp.contains c = true) : c.toUpper = c :=
  Char.toUpper_eq_of_not_isLower (by simp [classes_of_contains special])

theorem ascii_of_contains {sp : Specials} {c : Char} (special : sp.contains c = true) : c.toNat < 128 := by
  have first := sp.isSpecial_first
  have second := sp.isSpecial_second
  simp only [isSpecial, Bool.and_eq_true, decide_eq_true_eq] at first second
  rcases (sp.contains_iff c).mp special with rfl | rfl
  · exact first.1
  · exact second.1

/-- The bytes of a valid pair stand for it. -/
theorem ofBytes_firstByte_secondByte (sp : Specials) : ofBytes sp.firstByte sp.secondByte = .ok sp := by
  have back : ∀ {c : Char}, c.toNat < 128 → Char.ofUInt8 c.toUInt8 = c := by
    intro c ascii
    apply forall_ascii (P := fun c => Char.ofUInt8 c.toUInt8 = c) _ ascii
    decide +kernel
  have first := back (ascii_of_contains ((sp.contains_iff sp.first).mpr (.inl rfl)))
  have second := back (ascii_of_contains ((sp.contains_iff sp.second).mpr (.inr rfl)))
  rw [ofBytes, firstByte, secondByte, first, second, ofChars_first_second]

theorem ofChars_ok {a b : Char} {sp : Specials} (valid : ofChars a b = .ok sp) : sp.first = a ∧ sp.second = b := by
  unfold ofChars at valid
  split_ifs at valid
  cases valid
  exact ⟨rfl, rfl⟩

theorem ofUInt8_firstByte (sp : Specials) : Char.ofUInt8 sp.firstByte = sp.first :=
  (ofChars_ok sp.ofBytes_firstByte_secondByte).1.symm

theorem ofUInt8_secondByte (sp : Specials) : Char.ofUInt8 sp.secondByte = sp.second :=
  (ofChars_ok sp.ofBytes_firstByte_secondByte).2.symm

end Specials

namespace Alphabet

/-! ## Letters and digits -/

/-- How a character fits into each of the three classes of ASCII characters: its code is among those of the class,
    and the character is found from it again. -/
def Coded (c : Char) : Prop :=
  (c.isLower = true → offset 'a' c < special1Code5 ∧ shifted 'a' (offset 'a' c) = c) ∧
  (c.isUpper = true → ¬ upperBase + offset 'A' c < upperBase ∧ upperBase + offset 'A' c < digitBase ∧
    shifted 'A' (upperBase + offset 'A' c - upperBase) = c) ∧
  (c.isDigit = true → ¬ digitBase + offset '0' c < upperBase ∧ ¬ digitBase + offset '0' c < digitBase ∧
    digitBase + offset '0' c < special1Code6 ∧ shifted '0' (digitBase + offset '0' c - digitBase) = c)

instance (c : Char) : Decidable (Coded c) := inferInstanceAs (Decidable (_ ∧ _ ∧ _))

theorem coded_of_isAlphanum {c : Char} (alphanum : c.isAlphanum = true) : Coded c := by
  apply forall_ascii (P := Coded) _ (ascii_of_isAlphanum alphanum)
  decide +kernel

theorem lower_code {c : Char} (lower : c.isLower = true) :
    offset 'a' c < special1Code5 ∧ shifted 'a' (offset 'a' c) = c :=
  (coded_of_isAlphanum (isAlphanum_of_isLower lower)).1 lower

theorem upper_code {c : Char} (upper : c.isUpper = true) :
    ¬ upperBase + offset 'A' c < upperBase ∧ upperBase + offset 'A' c < digitBase ∧
      shifted 'A' (upperBase + offset 'A' c - upperBase) = c :=
  (coded_of_isAlphanum (isAlphanum_of_isUpper upper)).2.1 upper

theorem digit_code {c : Char} (digit : c.isDigit = true) :
    ¬ digitBase + offset '0' c < upperBase ∧ ¬ digitBase + offset '0' c < digitBase ∧
      digitBase + offset '0' c < special1Code6 ∧ shifted '0' (digitBase + offset '0' c - digitBase) = c :=
  (coded_of_isAlphanum (isAlphanum_of_isDigit digit)).2.2 digit

theorem forall_code {P : UInt8 → Prop} (each : ∀ n < 64, P (UInt8.ofNat n)) {k : UInt8} (small : k < 64) : P k := by
  rw [← UInt8.ofNat_toNat (x := k)]
  exact each _ small

/-- How a code fits into each of the three classes: its character is in the class, and the code is found from it
    again. -/
def Lettered (k : UInt8) : Prop :=
  (k < special1Code5 → (shifted 'a' k).isLower = true ∧ offset 'a' (shifted 'a' k) = k) ∧
  (¬ k < upperBase → k < digitBase → (shifted 'A' (k - upperBase)).isLower = false ∧
    (shifted 'A' (k - upperBase)).isUpper = true ∧ upperBase + offset 'A' (shifted 'A' (k - upperBase)) = k) ∧
  (¬ k < digitBase → k < special1Code6 → (shifted '0' (k - digitBase)).isAlpha = false ∧
    (shifted '0' (k - digitBase)).isDigit = true ∧ digitBase + offset '0' (shifted '0' (k - digitBase)) = k)

instance (k : UInt8) : Decidable (Lettered k) := inferInstanceAs (Decidable (_ ∧ _ ∧ _))

theorem lettered_of_lt {k : UInt8} (small : k < 64) : Lettered k := by
  apply forall_code (P := Lettered) _ small
  decide +kernel

theorem code_lower {k : UInt8} (small : k < special1Code5) :
    (shifted 'a' k).isLower = true ∧ offset 'a' (shifted 'a' k) = k :=
  (lettered_of_lt (UInt8.lt_trans small (by decide))).1 small

theorem code_upper {k : UInt8} (from_base : ¬ k < upperBase) (small : k < digitBase) :
    (shifted 'A' (k - upperBase)).isLower = false ∧ (shifted 'A' (k - upperBase)).isUpper = true ∧
      upperBase + offset 'A' (shifted 'A' (k - upperBase)) = k :=
  (lettered_of_lt (UInt8.lt_trans small (by decide))).2.1 from_base small

theorem code_digit {k : UInt8} (from_base : ¬ k < digitBase) (small : k < special1Code6) :
    (shifted '0' (k - digitBase)).isAlpha = false ∧ (shifted '0' (k - digitBase)).isDigit = true ∧
      digitBase + offset '0' (shifted '0' (k - digitBase)) = k :=
  (lettered_of_lt (UInt8.lt_trans small (by decide))).2.2 from_base small

/-! ## Five bits -/

theorem code5?_eq_some_iff (sp : Specials) (c : Char) (k : UInt8) : code5? sp c = some k ↔ symbol5? sp k = some c := by
  obtain ⟨first, -, -⟩ := classes_of_isAlphanum sp.isAlphanum_first
  obtain ⟨second, -, -⟩ := classes_of_isAlphanum sp.isAlphanum_second
  constructor
  · intro coded
    unfold code5? at coded
    split_ifs at coded with lower is_first is_second
    · cases coded
      obtain ⟨small, back⟩ := lower_code lower
      rw [symbol5?, if_pos small, back]
    · cases coded
      rw [is_first]
      rfl
    · cases coded
      rw [is_second]
      rfl
  · intro named
    unfold symbol5? at named
    split_ifs at named with small is_first is_second
    · cases named
      obtain ⟨lower, back⟩ := code_lower small
      rw [code5?, if_pos lower, back]
    · cases named
      simp [code5?, first, is_first]
    · cases named
      simp [code5?, second, is_second, sp.first_ne_second.symm]

theorem isSome_code5? (sp : Specials) (c : Char) : (code5? sp c).isSome = (c.isLower || sp.contains c) := by
  unfold code5? Specials.contains
  split_ifs with lower is_first is_second <;> simp [*]

/-! ## Six bits -/

theorem code6?_eq_some_iff (sp : Specials) (c : Char) (k : UInt8) : code6? sp c = some k ↔ symbol6? sp k = some c := by
  obtain ⟨lower_first, upper_first, digit_first⟩ := classes_of_isAlphanum sp.isAlphanum_first
  obtain ⟨lower_second, upper_second, digit_second⟩ := classes_of_isAlphanum sp.isAlphanum_second
  constructor
  · intro coded
    unfold code6? at coded
    split_ifs at coded with lower upper digit is_first is_second
    · cases coded
      obtain ⟨small, back⟩ := lower_code lower
      rw [symbol6?, if_pos (show offset 'a' c < upperBase from small), back]
    · cases coded
      obtain ⟨from_base, small, back⟩ := upper_code upper
      rw [symbol6?, if_neg from_base, if_pos small, back]
    · cases coded
      obtain ⟨no_lower, no_upper, small, back⟩ := digit_code digit
      rw [symbol6?, if_neg no_lower, if_neg no_upper, if_pos small, back]
    · cases coded
      rw [is_first]
      rfl
    · cases coded
      rw [is_second]
      rfl
  · intro named
    unfold symbol6? at named
    split_ifs at named with below_upper below_digit below_special is_first is_second
    · cases named
      obtain ⟨lower, back⟩ := code_lower (show k < special1Code5 from below_upper)
      rw [code6?, if_pos lower, back]
    · cases named
      obtain ⟨no_lower, upper, back⟩ := code_upper below_upper below_digit
      simp [code6?, no_lower, upper, back]
    · cases named
      obtain ⟨no_letter, digit, back⟩ := code_digit below_digit below_special
      simp only [Char.isAlpha, Bool.or_eq_false_iff] at no_letter
      simp [code6?, no_letter, digit, back]
    · cases named
      simp [code6?, lower_first, upper_first, digit_first, is_first]
    · cases named
      simp [code6?, lower_second, upper_second, digit_second, is_second, sp.first_ne_second.symm]

theorem isSome_code6? (sp : Specials) (c : Char) : (code6? sp c).isSome = (c.isAlphanum || sp.contains c) := by
  unfold code6? Specials.contains
  simp only [Char.isAlphanum, Char.isAlpha]
  split_ifs with lower upper digit is_first is_second <;> simp [*]

/-! ## Codes that stand for a character -/

theorem isSome_symbol5? (sp : Specials) (k : UInt8) : (symbol5? sp k).isSome = true ↔ k.toNat < 28 := by
  have second : k = special2Code5 ↔ k.toNat = 27 := by rw [← UInt8.toNat_inj]; rfl
  have first : k = special1Code5 ↔ k.toNat = 26 := by rw [← UInt8.toNat_inj]; rfl
  have letters : k < special1Code5 ↔ k.toNat < 26 := UInt8.lt_iff_toNat_lt
  simp only [symbol5?, letters, first, second]
  split_ifs <;> simp <;> omega

theorem isSome_symbol6? (sp : Specials) (k : UInt8) : (symbol6? sp k).isSome = true ↔ k.toNat < 64 := by
  have second : k = special2Code6 ↔ k.toNat = 63 := by rw [← UInt8.toNat_inj]; rfl
  have first : k = special1Code6 ↔ k.toNat = 62 := by rw [← UInt8.toNat_inj]; rfl
  have digits : k < special1Code6 ↔ k.toNat < 62 := UInt8.lt_iff_toNat_lt
  have uppers : k < digitBase ↔ k.toNat < 52 := UInt8.lt_iff_toNat_lt
  have lowers : k < upperBase ↔ k.toNat < 26 := UInt8.lt_iff_toNat_lt
  simp only [symbol6?, lowers, uppers, digits, first, second]
  split_ifs <;> simp <;> omega

end Alphabet

namespace Encoding
open Alphabet

/-! ## The alphabet of an encoding -/

/-- The number of codes that stand for a character, from zero on. -/
def symbolCount : Encoding → Nat
  | utf8 => 0
  | lowerUpperDigitSpecial => 64
  | lowerSpecial | firstToLowerSpecial | allToLowerSpecial => 28

theorem code?_eq_some_iff (e : Encoding) (sp : Specials) (c : Char) (k : UInt8) :
    e.code? sp c = some k ↔ e.symbol? sp k = some c := by
  cases e with
  | utf8 => simp [code?, symbol?]
  | lowerUpperDigitSpecial => exact code6?_eq_some_iff sp c k
  | lowerSpecial | firstToLowerSpecial | allToLowerSpecial => exact code5?_eq_some_iff sp c k

theorem isSome_symbol?_iff (e : Encoding) (sp : Specials) (k : UInt8) :
    (e.symbol? sp k).isSome = true ↔ k.toNat < e.symbolCount := by
  cases e with
  | utf8 => simp [symbol?, symbolCount]
  | lowerUpperDigitSpecial => exact isSome_symbol6? sp k
  | lowerSpecial | firstToLowerSpecial | allToLowerSpecial => exact isSome_symbol5? sp k

theorem symbolCount_le {e : Encoding} {width : Nat} (packed : e.width? = some width) : e.symbolCount ≤ 2 ^ width := by
  cases e <;> cases packed <;> decide

/-- Codes fit into the width of their encoding. -/
theorem lt_of_symbol? {e : Encoding} {sp : Specials} {k : UInt8} {c : Char} {width : Nat}
    (packed : e.width? = some width) (named : e.symbol? sp k = some c) : k.toNat < 2 ^ width := by
  have assigned := (isSome_symbol?_iff e sp k).mp (by rw [named]; rfl)
  exact Nat.lt_of_lt_of_le assigned (symbolCount_le packed)

theorem five_of_symbol? {e : Encoding} {sp : Specials} {k : UInt8} {c : Char} (packed : e.width? = some 5)
    (named : e.symbol? sp k = some c) : c.isLower = true ∨ sp.contains c = true := by
  have code : code5? sp c = some k := by
    cases e with
    | utf8 | lowerUpperDigitSpecial => cases packed
    | lowerSpecial | firstToLowerSpecial | allToLowerSpecial => exact (code5?_eq_some_iff ..).mpr named
  have some_code := isSome_code5? sp c
  simpa [code] using some_code

/-- Codes stand for characters, one for one, in the alphabet of an encoding. -/
def Spells (e : Encoding) (sp : Specials) (cs : List Char) (codes : Bytes) : Prop :=
  List.Forall₂ (fun c k => e.symbol? sp k = some c) cs codes

theorem Spells.lt {e : Encoding} {sp : Specials} {cs : List Char} {codes : Bytes} {width : Nat}
    (packed : e.width? = some width) (spells : e.Spells sp cs codes) : ∀ k ∈ codes, k.toNat < 2 ^ width := by
  intro k member
  induction spells with
  | nil => cases member
  | cons named _ ih =>
    rcases List.mem_cons.mp member with rfl | later
    · exact lt_of_symbol? packed named
    · exact ih later

theorem Spells.five {e : Encoding} {sp : Specials} {cs : List Char} {codes : Bytes} (packed : e.width? = some 5)
    (spells : e.Spells sp cs codes) : ∀ c ∈ cs, c.isLower = true ∨ sp.contains c = true := by
  intro c member
  induction spells with
  | nil => cases member
  | cons named _ ih =>
    rcases List.mem_cons.mp member with rfl | later
    · exact five_of_symbol? packed named
    · exact ih later

theorem Spells.codes_eq {e : Encoding} {sp : Specials} {cs : List Char} {codes codes' : Bytes}
    (spells : e.Spells sp cs codes) (spells' : e.Spells sp cs codes') : codes = codes' := by
  induction spells generalizing codes' with
  | nil => cases spells'; rfl
  | cons named _ ih =>
    cases spells' with
    | cons named' rest' =>
      rw [ih rest', Option.some.inj (((code?_eq_some_iff ..).mpr named).symm.trans ((code?_eq_some_iff ..).mpr named'))]

end Encoding
end NamePack
