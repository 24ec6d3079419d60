import SchemaTypes.Json
import SchemaTypes.Text.Hexadecimal

/-!
# Layout of structured values

A structured value is laid out as text in ASCII, on one line or with a line for each member and
item. Characters outside the printable part of ASCII are written as escapes of 16 bits, two of them
for a character above `U+FFFF`.
-/

namespace SchemaTypes.Json

open SchemaTypes.Text

/-- How a value is laid out. -/
inductive Layout where
  /-- On one line, a blank behind each comma and colon. -/
  | oneLine
  /-- A line for each member and item, indented by this many blanks for each level. -/
  | indented (step : Nat)
  deriving DecidableEq, Repr

/-- The layout for an indentation: zero asks for one line, and below zero nothing is indented. -/
def Layout.ofIndentation (indentation : Int) : Layout :=
  if indentation = 0 then .oneLine else .indented indentation.toNat

/-- An escape of 16 bits. -/
def escape16 (unit : Nat) : List Char := '\\' :: 'u' :: hexDigits 4 unit

/-- A character as it is written inside a text. -/
def escapeChar (c : Char) : List Char :=
  if c = '"' || c = '\\' then ['\\', c]
  else if c = '\n' then ['\\', 'n']
  else if c = '\r' then ['\\', 'r']
  else if c = '\t' then ['\\', 't']
  else if c.toNat = 0x08 then ['\\', 'b']
  else if c.toNat = 0x0C then ['\\', 'f']
  else if 0x20 ≤ c.toNat ∧ c.toNat < 0x7F then [c]
  else if c.toNat < 0x10000 then escape16 c.toNat
  else
    let offset := c.toNat - 0x10000
    escape16 (0xD800 + offset / 0x400) ++ escape16 (0xDC00 + offset % 0x400)

/-- A text between double quotes. -/
def layText (text : String) : String :=
  "\"" ++ String.ofList (text.toList.flatMap escapeChar) ++ "\""

/-- The beginning of a line at a level, where there are several lines. -/
def Layout.line (layout : Layout) (level : Nat) : String :=
  match layout with
  | .oneLine => ""
  | .indented step => "\n" ++ String.ofList (List.replicate (step * level) ' ')

/-- What stands between two items. -/
def Layout.separator (layout : Layout) (level : Nat) : String :=
  match layout with
  | .oneLine => ", "
  | .indented _ => "," ++ layout.line level

/-- Items between an opening and a closing mark. -/
def Layout.enclose (layout : Layout) (level : Nat) (opening closing : String)
    (items : List String) : String :=
  if items.isEmpty then opening ++ closing
  else
    opening ++ layout.line (level + 1) ++ (layout.separator (level + 1)).intercalate items
      ++ layout.line level ++ closing

mutual

/-- A value at a level. -/
def lay (layout : Layout) (level : Nat) : Json → String
  | .null => "null"
  | .bool value => if value then "true" else "false"
  | .number spelling => spelling
  | .string text => layText text
  | .array items => layout.enclose level "[" "]" (layItems layout (level + 1) items)
  | .object members =>
    layout.enclose level "\x7b" "\x7d" (layMembers layout (level + 1) members)

/-- The items of an array at a level. -/
def layItems (layout : Layout) (level : Nat) : List Json → List String
  | [] => []
  | item :: rest => lay layout level item :: layItems layout level rest

/-- The members of an object at a level. -/
def layMembers (layout : Layout) (level : Nat) : List (String × Json) → List String
  | [] => []
  | (key, value) :: rest =>
    (layText key ++ ": " ++ lay layout level value) :: layMembers layout level rest

end

/-- A value as text. -/
def layOut (layout : Layout) (value : Json) : String := lay layout 0 value

end SchemaTypes.Json
