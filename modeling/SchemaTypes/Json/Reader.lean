import SchemaTypes.Json.Written
import SchemaTypes.Text.Hexadecimal
import SchemaTypes.Text.Numeral

/-!
# Reading structured values

A structured value is read from text in the usual grammar, to which the spellings of infinite and
undefined numbers are added. An escape of 16 bits may stand for half of a pair on its own. A text
that has no value is refused at a place, told by the number of characters in front of it. While
reading, places are told by the number of characters that are left.
-/

namespace SchemaTypes.Json

open SchemaTypes.Text (hexNumber? Loose Point)

/-- Why a text is not read as a value. -/
inductive ReadError where
  /-- The character at a place cannot stand there. -/
  | unexpected (offset : Nat)
  /-- A whole number has more digits than are read. -/
  | numberTooLong
  deriving DecidableEq, Repr

namespace Reader

/-- Refuses a text at its beginning. -/
def refuse {α : Type} (text : List Char) : Except ReadError α := .error (.unexpected text.length)

/-- The blanks of the grammar. -/
def isBlank (c : Char) : Bool := c = ' ' || c = '\t' || c = '\n' || c = '\r'

/-- The text behind its leading blanks. -/
def skipBlanks (text : List Char) : List Char := text.dropWhile isBlank

/-- Whether a unit is the first of a pair. -/
def isHighHalf (unit : Nat) : Bool := 0xD800 ≤ unit && unit < 0xDC00

/-- Whether a unit is the second of a pair. -/
def isLowHalf (unit : Nat) : Bool := 0xDC00 ≤ unit && unit < 0xE000

/-- The character an escape of one letter stands for. -/
def escaped? (c : Char) : Option Char :=
  match c with
  | '"' | '\\' | '/' => some c
  | 'b' => some '\x08'
  | 'f' => some '\x0c'
  | 'n' => some '\n'
  | 'r' => some '\r'
  | 't' => some '\t'
  | _ => none

/-- The character of two units that form a pair. -/
def charOfPair (high low : Nat) : Char :=
  Char.ofNat (0x10000 + (high - 0xD800) * 0x400 + (low - 0xDC00))

/-- What a text value is written with. -/
inductive Piece where
  | char (c : Char)
  /-- An escape of 16 bits. -/
  | unit (unit : Nat)

/-- The text that pieces stand for. Two units that form a pair stand for one character, and half of
a pair on its own for itself. -/
def textOf : List Piece → Loose
  | [] => []
  | .char c :: rest => .char c :: textOf rest
  | .unit high :: .unit low :: rest =>
    if isHighHalf high && isLowHalf low then .char (charOfPair high low) :: textOf rest
    else .ofUnit high :: textOf (.unit low :: rest)
  | .unit unit :: rest => .ofUnit unit :: textOf rest

/-- Pieces that were read, with one more in front of them. -/
def withPiece (piece : Piece) (read : Except ReadError (List Piece × List Char)) :
    Except ReadError (List Piece × List Char) :=
  read.map fun (pieces, behind) => (piece :: pieces, behind)

/-- The pieces of a text value behind its opening quote, and what follows its closing one. A value
that is not closed is refused at its opening quote, with `opening` characters left. An escape of
16 bits has at least one character behind it, and a digit in it that is none refuses it at its
letter. -/
def pieces (opening : Nat) : List Char → Except ReadError (List Piece × List Char)
  | [] => .error (.unexpected opening)
  | '"' :: rest => .ok ([], rest)
  | '\\' :: 'u' :: a :: b :: c :: d :: next :: rest =>
    match hexNumber? [a, b, c, d] with
    | some unit => withPiece (.unit unit) (pieces opening (next :: rest))
    | none => refuse ('u' :: a :: b :: c :: d :: next :: rest)
  | '\\' :: 'u' :: few => refuse ('u' :: few)
  | '\\' :: c :: rest =>
    match escaped? c with
    | some plain => withPiece (.char plain) (pieces opening rest)
    | none => refuse ('\\' :: c :: rest)
  | c :: rest =>
    if c = '\\' then .error (.unexpected opening)
    else if c.toNat < 0x20 then refuse (c :: rest)
    else withPiece (.char c) (pieces opening rest)

/-- A text value behind its opening quote, and what follows its closing one. -/
def text (opening : Nat) (input : List Char) : Except ReadError (Loose × List Char) :=
  (pieces opening input).map fun (pieces, behind) => (textOf pieces, behind)

/-- The whole part of a number without sign: a zero, or digits that begin with another one. -/
def wholePart (text : List Char) : List Char × List Char :=
  match text with
  | '0' :: rest => (['0'], rest)
  | text => text.span Char.isDigit

/-- The point of a number and the digits behind it, if there are any. -/
def fraction (text : List Char) : List Char × List Char :=
  match text with
  | '.' :: rest =>
    let (digits, behind) := rest.span Char.isDigit
    if digits.isEmpty then ([], text) else ('.' :: digits, behind)
  | _ => ([], text)

/-- The power of ten of a number, if there is one. -/
def exponent (text : List Char) : List Char × List Char :=
  match text with
  | letter :: rest =>
    if letter = 'e' || letter = 'E' then
      let (sign, unsigned) := match rest with
        | '+' :: unsigned => (['+'], unsigned)
        | '-' :: unsigned => (['-'], unsigned)
        | unsigned => ([], unsigned)
      let (digits, behind) := unsigned.span Char.isDigit
      if digits.isEmpty then ([], text) else (letter :: sign ++ digits, behind)
    else ([], text)
  | [] => ([], [])

/-- A number. -/
def number (input : List Char) : Except ReadError (Written × List Char) :=
  let (sign, unsigned) := match input with
    | '-' :: rest => (['-'], rest)
    | rest => ([], rest)
  let (whole, behindWhole) := wholePart unsigned
  let (decimals, behindDecimals) := fraction behindWhole
  let (power, behind) := exponent behindDecimals
  if whole.isEmpty then refuse input
  else if decimals.isEmpty && power.isEmpty && Text.maxNumeralDigits < whole.length then
    .error .numberTooLong
  else .ok (.number (String.ofList (sign ++ whole ++ decimals ++ power)), behind)

/-- The words that are values. -/
def words : List (String × Written) :=
  [("null", .null), ("true", .bool true), ("false", .bool false), ("NaN", .number "NaN"),
   ("Infinity", .number "Infinity"), ("-Infinity", .number "-Infinity")]

/-- A value that is a word or a number. -/
def plain (input : List Char) : Except ReadError (Written × List Char) :=
  match words.find? fun (word, _) => word.toList.isPrefixOf input with
  | some (word, value) => .ok (value, input.drop word.length)
  | none => number input

mutual

/-- A value without blanks in front of it. -/
def value (fuel : Nat) (input : List Char) : Except ReadError (Written × List Char) :=
  match fuel with
  | 0 => refuse input
  | fuel + 1 =>
    match input with
    | '"' :: rest => do
      let (found, behind) ← text input.length rest
      return (.text found, behind)
    | '[' :: rest =>
      match skipBlanks rest with
      | ']' :: behind => .ok (.array [], behind)
      | inside => (items fuel inside).map fun (items, behind) => (.array items, behind)
    | '\x7b' :: rest =>
      match skipBlanks rest with
      | '\x7d' :: behind => .ok (.object [], behind)
      | inside => (members fuel inside).map fun (members, behind) => (.object members, behind)
    | [] => refuse []
    | _ => plain input

/-- The items of an array up to its end, at least one. -/
def items (fuel : Nat) (input : List Char) : Except ReadError (List Written × List Char) :=
  match fuel with
  | 0 => refuse input
  | fuel + 1 => do
    let (item, behind) ← value fuel input
    match skipBlanks behind with
    | ']' :: rest => return ([item], rest)
    | ',' :: rest =>
      let (others, rest) ← items fuel (skipBlanks rest)
      return (item :: others, rest)
    | other => refuse other

/-- The members of an object up to its end, at least one. -/
def members (fuel : Nat) (input : List Char) :
    Except ReadError (List (Loose × Written) × List Char) :=
  match fuel with
  | 0 => refuse input
  | fuel + 1 =>
    match input with
    | '"' :: rest => do
      let (key, behind) ← text input.length rest
      match skipBlanks behind with
      | ':' :: rest =>
        let (content, behind) ← value fuel (skipBlanks rest)
        let member := (key, content)
        match skipBlanks behind with
        | '\x7d' :: rest => return ([member], rest)
        | ',' :: rest =>
          let (others, rest) ← members fuel (skipBlanks rest)
          return (member :: others, rest)
        | other => refuse other
      | other => refuse other
    | other => refuse other

end

/-- A value with nothing but blanks around it. -/
def whole (input : List Char) : Except ReadError Written := do
  let (found, behind) ← value (2 * input.length + 2) (skipBlanks input)
  match skipBlanks behind with
  | [] => return found
  | rest => refuse rest

end Reader

/-- Reads a value from text. A byte order mark in front of it does not count. -/
def Written.ofText (text : String) : Except ReadError Written :=
  let chars := match text.toList with
    | '\uFEFF' :: rest => rest
    | chars => chars
  (Reader.whole chars).mapError fun
    | .unexpected left => .unexpected (chars.length - left)
    | .numberTooLong => .numberTooLong

end SchemaTypes.Json
