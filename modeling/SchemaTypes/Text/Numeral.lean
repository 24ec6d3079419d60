import SchemaTypes.Text.Blank
import SchemaTypes.Text.Digit
import SchemaTypes.Text.Split

/-!
# Whole numbers in text

A numeral is an optional sign and groups of decimal digits of any script, single underscores
between the groups, with blanks around the whole. Numerals of more than 4300 digits are refused,
since the work of reading them grows with the square of their length.
-/

namespace SchemaTypes.Text

/-- The most digits a numeral may have, leading zeros included. -/
def maxNumeralDigits : Nat := 4300

/-- Why a text is not read as a whole number. -/
inductive NumeralError where
  /-- It does not have the form of a numeral. -/
  | malformed
  /-- It has the form, but too many digits. -/
  | tooLong (digits : Nat)
  deriving DecidableEq, Repr

/-- Blanks that may surround a numeral. The information separators are not among them. -/
def isNumeralBlank (c : Char) : Bool :=
  isBlank c && !(0x1C ≤ c.toNat && c.toNat ≤ 0x1F)

/-- The sign in front of a numeral, true for minus, and what follows it. -/
def splitSign : List Char → Bool × List Char
  | '-' :: rest => (true, rest)
  | '+' :: rest => (false, rest)
  | text => (false, text)

/-- Whether a character can stand between the sign and the end of a numeral. -/
def isNumeralChar (c : Char) : Bool := (digitValue? c).isSome || c = '_'

/-- The number a list of digit characters denotes in base ten. -/
def decimalValue (digits : List Char) : Nat :=
  digits.foldl (fun value c => 10 * value + (digitValue? c).getD 0) 0

/-- Reads a whole number. -/
def readInt (text : String) : Except NumeralError Int :=
  let (negative, unsigned) := splitSign (text.toList.dropWhile isNumeralBlank)
  let groups := splitFields '_' (unsigned.takeWhile isNumeralChar)
  let digits := groups.flatten
  if groups.any List.isEmpty then .error .malformed
  else if maxNumeralDigits < digits.length then .error (.tooLong digits.length)
  else if (unsigned.dropWhile isNumeralChar).all isNumeralBlank then
    .ok (if negative then -(decimalValue digits : Int) else decimalValue digits)
  else .error .malformed

/-- A whole number in decimal digits, with a minus sign below zero. -/
def showInt (value : Int) : String := toString value

end SchemaTypes.Text
