import SchemaTypes.Json.Written
import SchemaTypes.Text.Numeral

/-!
# Finite numbers

A number that is written with a point or a power of ten is held in double precision, where one that
is too great is infinite. A whole number is held exactly. This module tells which values hold no
infinite and no undefined number, and does so without rounding any number.
-/

namespace SchemaTypes.Json

open SchemaTypes.Text (decimalValue Loose)

/-- The least number that double precision rounds to infinity. It lies halfway between the greatest
number that is held and the next power of two. -/
def overflow : Nat := Nat.pow 2 1024 - Nat.pow 2 970

/-- Whether digits, multiplied by a power of ten, stay below the least infinite number. More digits
behind the point than there are digits leave less than one. -/
def isHeld (digits : List Char) (exponent : Int) : Bool :=
  let coefficient := decimalValue digits
  if coefficient = 0 then true
  else if 309 ≤ exponent then false
  else if 0 ≤ exponent then coefficient * Nat.pow 10 exponent.toNat < overflow
  else if digits.length ≤ exponent.natAbs then true
  else coefficient < overflow * Nat.pow 10 exponent.natAbs

/-- The number behind the letter of a power of ten. -/
def exponentOf : List Char → Int
  | '-' :: digits => -decimalValue digits
  | '+' :: digits => decimalValue digits
  | digits => decimalValue digits

/-- Whether the spelling of a number denotes a finite one. -/
def isFiniteNumber (spelling : String) : Bool :=
  let (whole, behind) := (spelling.toList.dropWhile (· = '-')).span Char.isDigit
  let (fraction, power) := match behind with
    | '.' :: rest => rest.span Char.isDigit
    | _ => ([], behind)
  if whole.isEmpty then false
  else if behind.isEmpty then true
  else isHeld (whole ++ fraction) (exponentOf power.tail - fraction.length)

namespace Written

mutual

/-- Whether every number in a value is finite. -/
def isFinite : Written → Bool
  | null | bool _ | text _ => true
  | number spelling => isFiniteNumber spelling
  | array items => areFinite items
  | object members => areFiniteMembers members

/-- Whether every number in several values is finite. -/
def areFinite : List Written → Bool
  | [] => true
  | item :: rest => item.isFinite && areFinite rest

/-- Whether every number in the values of members is finite. -/
def areFiniteMembers : List (Loose × Written) → Bool
  | [] => true
  | (_, value) :: rest => value.isFinite && areFiniteMembers rest

end

end Written

end SchemaTypes.Json
