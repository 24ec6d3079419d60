import SchemaTypes.Text.Hexadecimal

/-!
# Loose texts

A text that was written in units of 16 bits may hold half of a pair that stands on its own. A half
is no character, and a text that holds one has no encoding. Such a text is loose; it is refused by
the first halves in it.
-/

namespace SchemaTypes.Text

/-- What a loose text is made of. -/
inductive Point where
  | char (c : Char)
  /-- Half of a pair, by its number among all halves. -/
  | half (number : Fin 0x800)
  deriving DecidableEq, Repr

namespace Point

/-- The first of the units that are halves. -/
def firstHalf : Nat := 0xD800

/-- The point of a unit of 16 bits that is no part of a pair. -/
def ofUnit (unit : Nat) : Point :=
  if within : firstHalf ≤ unit ∧ unit - firstHalf < 0x800 then .half ⟨unit - firstHalf, within.2⟩
  else .char (Char.ofNat unit)

/-- The character of a point, if it is one. -/
def char? : Point → Option Char
  | char c => some c
  | half _ => none

end Point

/-- A text that may hold halves of pairs. -/
abbrev Loose := List Point

/-- The first halves in a loose text, one behind the other. -/
structure LoneHalves where
  /-- How many points are in front of them. -/
  position : Nat
  first : Fin 0x800
  /-- How many there are besides the first. -/
  others : Nat
  deriving DecidableEq, Repr

/-- What is said of halves that stand in the way of an encoding. -/
def LoneHalves.message (halves : LoneHalves) : String :=
  let which := if halves.others = 0 then
      " '\\u" ++ String.ofList (hexDigits 4 (Point.firstHalf + halves.first)) ++ "' in position "
        ++ toString halves.position
    else
      "s in position " ++ toString halves.position ++ "-"
        ++ toString (halves.position + halves.others)
  "'utf-8' codec can't encode character" ++ which ++ ": surrogates not allowed"

namespace Loose

/-- The loose text of a text. -/
def ofString (text : String) : Loose := text.toList.map .char

/-- The text of a loose text, unless there are halves in it. -/
def strict (loose : Loose) : Except LoneHalves String :=
  match loose.dropWhile (·.char?.isSome) with
  | .half first :: rest =>
    .error ⟨(loose.takeWhile (·.char?.isSome)).length, first,
      (rest.takeWhile (·.char?.isNone)).length⟩
  | _ => .ok (String.ofList (loose.filterMap Point.char?))

end Loose

end SchemaTypes.Text
