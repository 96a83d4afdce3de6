import Mathlib.Data.Char

/-!
# Text up to ASCII case, and machine integers in text

`str::eq_ignore_ascii_case`, and `u16` as the standard library writes and reads
it.  A text may be split at a character that has no case before or after its
letters are lowered.
-/

namespace Foundation

/-! ## ASCII case -/

def asciiLower (text : String) : List Char :=
  text.toList.map Char.toLower

/-- `str::eq_ignore_ascii_case`. -/
def EqIgnoreAsciiCase (left right : String) : Prop :=
  asciiLower left = asciiLower right

instance (left right : String) : Decidable (EqIgnoreAsciiCase left right) :=
  inferInstanceAs (Decidable (asciiLower left = asciiLower right))

namespace EqIgnoreAsciiCase

@[refl]
theorem refl (text : String) : EqIgnoreAsciiCase text text :=
  rfl

theorem symm {left right : String}
    (same : EqIgnoreAsciiCase left right) : EqIgnoreAsciiCase right left :=
  Eq.symm same

end EqIgnoreAsciiCase

theorem toNat_toLower (letter : Char) :
    letter.toLower.toNat =
      if 65 ≤ letter.toNat ∧ letter.toNat ≤ 90 then letter.toNat + 32
      else letter.toNat := by
  have upper :
      (letter.val ≥ 'A'.val ∧ letter.val ≤ 'Z'.val) ↔
        65 ≤ letter.toNat ∧ letter.toNat ≤ 90 :=
    Iff.rfl
  unfold Char.toLower
  by_cases inRange : 65 ≤ letter.toNat ∧ letter.toNat ≤ 90
  · rw [dif_pos (upper.mpr inRange), if_pos inRange]
    have bound : letter.val.toNat ≤ 90 := inRange.2
    change (letter.val + 32).toNat = letter.val.toNat + 32
    rw [UInt32.toNat_add]
    apply Nat.mod_eq_of_lt
    simp only [UInt32.reduceToNat]
    omega
  · rw [dif_neg fun isUpper => inRange (upper.mp isUpper), if_neg inRange]

/-- A character that is no ASCII letter. -/
def Caseless (letter : Char) : Prop :=
  letter.toNat < 65 ∨ (90 < letter.toNat ∧ letter.toNat < 97) ∨
    122 < letter.toNat

instance (letter : Char) : Decidable (Caseless letter) :=
  inferInstanceAs (Decidable (_ ∨ _))

theorem toLower_eq_iff {letter : Char} (caseless : Caseless letter)
    (other : Char) :
    other.toLower = letter ↔ other = letter := by
  unfold Caseless at caseless
  rw [← Char.toNat_inj, ← Char.toNat_inj, toNat_toLower]
  split <;> omega

theorem takeWhile_map_toLower {letter : Char} (caseless : Caseless letter)
    (text : List Char) :
    (text.map Char.toLower).takeWhile (· ≠ letter) =
      (text.takeWhile (· ≠ letter)).map Char.toLower := by
  rw [List.takeWhile_map]
  congr 1
  congr 1
  funext other
  simp [toLower_eq_iff caseless]

theorem dropWhile_map_toLower {letter : Char} (caseless : Caseless letter)
    (text : List Char) :
    (text.map Char.toLower).dropWhile (· ≠ letter) =
      (text.dropWhile (· ≠ letter)).map Char.toLower := by
  rw [List.dropWhile_map]
  congr 2
  funext other
  simp [toLower_eq_iff caseless]

/-! ## Sixteen-bit integers in text -/

/-- The digits after an optional plus sign. -/
def unsignedDigits : List Char → List Char
  | '+' :: digits => digits
  | digits => digits

/-- `str::parse::<u16>`: an optional plus sign and at least one decimal digit,
with a value that fits. -/
def parseU16 (text : List Char) : Option UInt16 :=
  let digits := unsignedDigits text
  if digits ≠ [] ∧ digits.all Char.isDigit ∧
      Nat.ofDigitChars 10 digits 0 < 65536 then
    some (Nat.ofDigitChars 10 digits 0).toUInt16
  else
    none

theorem isDigit_toLower (letter : Char) :
    letter.toLower.isDigit = letter.isDigit := by
  have range (other : Char) :
      other.isDigit = true ↔ 48 ≤ other.toNat ∧ other.toNat ≤ 57 := by
    simp only [Char.isDigit, Bool.and_eq_true, decide_eq_true_eq]
    exact Iff.rfl
  rw [Bool.eq_iff_iff, range, range, toNat_toLower]
  split
  · omega
  · rfl

theorem toLower_of_isDigit {digit : Char} (isDigit : digit.isDigit = true) :
    digit.toLower = digit := by
  apply Char.toNat_inj.mp
  rw [toNat_toLower]
  have range : 48 ≤ digit.toNat ∧ digit.toNat ≤ 57 := by
    simp only [Char.isDigit, Bool.and_eq_true, decide_eq_true_eq] at isDigit
    exact isDigit
  split
  · omega
  · rfl

theorem unsignedDigits_map_toLower (text : List Char) :
    unsignedDigits (text.map Char.toLower) =
      (unsignedDigits text).map Char.toLower := by
  rcases text with _ | ⟨head, tail⟩
  · rfl
  · by_cases plus : head = '+'
    · subst plus
      rfl
    · have lowered : head.toLower ≠ '+' :=
        fun same => plus ((toLower_eq_iff (by decide) head).mp same)
      simp [unsignedDigits, plus, lowered]

/-- Decimal digits have no case. -/
theorem parseU16_map_toLower (text : List Char) :
    parseU16 (text.map Char.toLower) = parseU16 text := by
  unfold parseU16
  rw [unsignedDigits_map_toLower]
  generalize unsignedDigits text = digits
  by_cases allDigits : digits.all Char.isDigit = true
  · have same : digits.map Char.toLower = digits.map id := by
      apply List.map_congr_left
      intro digit member
      exact toLower_of_isDigit (List.all_eq_true.mp allDigits digit member)
    rw [same, List.map_id]
  · have notLower : (digits.map Char.toLower).all Char.isDigit ≠ true := by
      rw [List.all_map]
      have same : Char.isDigit ∘ Char.toLower = Char.isDigit :=
        funext isDigit_toLower
      rwa [same]
    simp [allDigits, notLower]

def displayU16 (value : UInt16) : String :=
  toString value.toNat

theorem toList_displayU16 (value : UInt16) :
    (displayU16 value).toList = Nat.toDigits 10 value.toNat :=
  Nat.toList_repr

theorem isDigit_of_mem_displayU16 {value : UInt16} {digit : Char}
    (member : digit ∈ (displayU16 value).toList) : digit.isDigit := by
  rw [toList_displayU16] at member
  exact Nat.isDigit_of_mem_toDigits (by decide) (by decide) member

/-- What `Display` writes, `parse` reads back. -/
@[simp]
theorem parseU16_displayU16 (value : UInt16) :
    parseU16 (displayU16 value).toList = some value := by
  have unsigned :
      unsignedDigits (displayU16 value).toList =
        Nat.toDigits 10 value.toNat := by
    rw [← toList_displayU16]
    unfold unsignedDigits
    split
    · rename_i digits shape
      have plus : ('+' : Char) ∈ (displayU16 value).toList := by
        rw [shape]
        exact List.mem_cons_self
      exact absurd (isDigit_of_mem_displayU16 plus) (by decide)
    · rfl
  unfold parseU16
  rw [unsigned]
  have allDigits : (Nat.toDigits 10 value.toNat).all Char.isDigit := by
    rw [List.all_eq_true]
    intro digit member
    exact Nat.isDigit_of_mem_toDigits (by decide) (by decide) member
  simp only [Nat.ofDigitChars_ten_toDigits]
  rw [if_pos ⟨Nat.toDigits_ne_nil, allDigits, value.toNat_lt⟩]
  exact congrArg some UInt16.ofNat_toNat

end Foundation
