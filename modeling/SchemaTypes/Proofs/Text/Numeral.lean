import Mathlib.Data.List.Basic
import Mathlib.Data.List.TakeWhile
import SchemaTypes.Text.Numeral

/-!
# Numerals as they are written

A whole number is written in decimal digits, with a minus sign if it is negative. Such a numeral is
read as the number again, as long as it does not have more digits than numerals may have.
-/

namespace SchemaTypes.Text

section Digit

variable {c : Char} (digit : c.isDigit = true)

include digit in
/-- The value of an ASCII digit is its distance from zero. -/
theorem digitValue?_of_isDigit : digitValue? c = some (c.toNat - '0'.toNat) := by
  have bounds := Char.isDigit_iff_toNat.1 digit
  obtain ⟨others, scripts⟩ : ∃ others, zeroDigits = 0x30 :: others := ⟨_, rfl⟩
  rw [digitValue?, scripts, List.find?_cons_of_pos]
  · rfl
  · simp only [Bool.and_eq_true, decide_eq_true_eq]
    exact ⟨bounds.1, Nat.lt_succ_of_le bounds.2⟩

include digit in
theorem isNumeralChar_of_isDigit : isNumeralChar c = true := by
  simp [isNumeralChar, digitValue?_of_isDigit digit]

include digit in
/-- ASCII digits are no blanks. -/
theorem isBlank_of_isDigit : isBlank c = false := by
  have bounds := Char.isDigit_iff_toNat.1 digit
  have table : ∀ code < 58, 48 ≤ code → ((0x09 ≤ code && code ≤ 0x0D) ||
      (0x1C ≤ code && code ≤ 0x20) || wideBlanks.contains code) = false := by decide
  exact table c.toNat (Nat.lt_succ_of_le bounds.2) bounds.1

end Digit

/-- ASCII digits denote the number they denote in base ten. -/
theorem decimalValue_of_isDigit {digits : List Char} (all : ∀ c ∈ digits, c.isDigit = true) :
    decimalValue digits = Nat.ofDigitChars 10 digits 0 := by
  rw [decimalValue, Nat.ofDigitChars_eq_foldl]
  refine List.foldl_ext _ _ _ fun value c member => ?_
  rw [digitValue?_of_isDigit (all c member), Option.getD_some]

variable {number : Nat}

theorem isDigit_of_mem_toDigits {c : Char} (member : c ∈ Nat.toDigits 10 number) :
    c.isDigit = true :=
  Nat.isDigit_of_mem_toDigits (by decide) (by decide) member

/-- Digits behind a sign are read as the number they are the digits of. -/
theorem readInt_of_splitSign {text : String} {negative : Bool}
    (bare : text.toList.dropWhile isNumeralBlank = text.toList)
    (signed : splitSign text.toList = (negative, Nat.toDigits 10 number))
    (short : (Nat.toDigits 10 number).length ≤ maxNumeralDigits) :
    readInt text = .ok (if negative then -(number : Int) else number) := by
  have numeral : ∀ c ∈ Nat.toDigits 10 number, isNumeralChar c = true := fun c member =>
    isNumeralChar_of_isDigit (isDigit_of_mem_toDigits member)
  have groups : splitFields '_' (Nat.toDigits 10 number) = [Nat.toDigits 10 number] :=
    splitFields_of_not_mem Nat.underscore_not_in_toDigits
  have value : decimalValue (Nat.toDigits 10 number) = number :=
    (decimalValue_of_isDigit fun c => isDigit_of_mem_toDigits).trans Nat.ofDigitChars_ten_toDigits
  simp [readInt, bare, signed, List.takeWhile_eq_self_iff.2 numeral,
    List.dropWhile_eq_nil_iff.2 numeral, groups, value, Nat.not_lt.2 short, Nat.toDigits_ne_nil]

/-- A number starts with a digit, so what is written has no sign of its own. -/
theorem splitSign_toDigits (number : Nat) :
    splitSign (Nat.toDigits 10 number) = (false, Nat.toDigits 10 number) := by
  have digits : ∀ c ∈ Nat.toDigits 10 number, c.isDigit = true := fun c => isDigit_of_mem_toDigits
  cases written : Nat.toDigits 10 number with
  | nil => rfl
  | cons first rest =>
    have digit : first.isDigit = true := digits first (by simp [written])
    have minus : first ≠ '-' := by
      rintro rfl
      exact absurd digit (by decide)
    have plus : first ≠ '+' := by
      rintro rfl
      exact absurd digit (by decide)
    simp [splitSign, minus, plus]

/-- There is no blank in front of the digits of a number. -/
theorem dropWhile_toDigits (number : Nat) :
    (Nat.toDigits 10 number).dropWhile isNumeralBlank = Nat.toDigits 10 number := by
  have digits : ∀ c ∈ Nat.toDigits 10 number, c.isDigit = true := fun c => isDigit_of_mem_toDigits
  cases written : Nat.toDigits 10 number with
  | nil => rfl
  | cons first rest =>
    have digit : first.isDigit = true := digits first (by simp [written])
    have visible : isNumeralBlank first = false := by simp [isNumeralBlank, isBlank_of_isDigit digit]
    rw [List.dropWhile_cons_of_neg (by simp [visible])]

/-- A whole number is written with its digits and, if it is negative, a minus sign. -/
theorem toList_showInt (value : Int) :
    (showInt value).toList =
      if value < 0 then '-' :: Nat.toDigits 10 value.natAbs else Nat.toDigits 10 value.natAbs := by
  rw [showInt, Int.toString_eq_repr, Int.repr_eq_if]
  by_cases negative : value < 0
  · have magnitude : (-value).toNat = value.natAbs := by omega
    rw [if_neg (by omega), if_pos negative, String.toList_append, Nat.toList_repr, magnitude]
    rfl
  · have magnitude : value.toNat = value.natAbs := by omega
    rw [if_pos (by omega), if_neg negative, Nat.toList_repr, magnitude]

/-- Whole numbers are written in ASCII digits and minus signs. -/
theorem isDigit_of_mem_showInt {value : Int} {c : Char} (member : c ∈ (showInt value).toList) :
    c.isDigit = true ∨ c = '-' := by
  rw [toList_showInt] at member
  split at member
  · rcases List.mem_cons.1 member with rfl | digit
    · exact .inr rfl
    · exact .inl (isDigit_of_mem_toDigits digit)
  · exact .inl (isDigit_of_mem_toDigits member)

/-- A whole number is read as it is written, if it does not have too many digits. -/
theorem readInt_showInt {value : Int}
    (short : (Nat.toDigits 10 value.natAbs).length ≤ maxNumeralDigits) :
    readInt (showInt value) = .ok value := by
  have shown := toList_showInt value
  by_cases negative : value < 0
  · rw [if_pos negative] at shown
    rw [readInt_of_splitSign (by rw [shown]; rfl) (by rw [shown]; rfl) short, if_pos rfl]
    congr 1
    omega
  · rw [if_neg negative] at shown
    rw [readInt_of_splitSign (by rw [shown, dropWhile_toDigits])
      (by rw [shown, splitSign_toDigits]) short, if_neg (by decide)]
    congr 1
    omega

end SchemaTypes.Text
