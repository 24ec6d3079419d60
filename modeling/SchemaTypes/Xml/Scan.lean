import SchemaTypes.Text.Hexadecimal
import SchemaTypes.Xml.Error
import SchemaTypes.Xml.Letters

/-!
# Scanning

A scan reads characters from the front of a text, one token after the other. Running out of
characters inside a token and meeting a character the token cannot go on with are errors that every
scan shares; the state keeps what is needed to tell them.
-/

namespace SchemaTypes.Xml

open SchemaTypes.Text (hexValue?)

/-- What comes after the last character of a text. -/
inductive Ending where
  /-- Nothing. -/
  | complete
  /-- Bytes that encode no character. -/
  | broken
  /-- The first bytes of a character whose others are missing. -/
  | truncated
  /-- Half a code unit, too little to be the beginning of anything. -/
  | halfUnit
  deriving DecidableEq, Repr

/-- Where a scan stands. -/
structure Place where
  /-- The characters not read yet. -/
  rest : List Char
  /-- The number of characters read. -/
  offset : Nat
  /-- What comes after the last character. -/
  ending : Ending
  /-- Which characters count as letters. -/
  alphabet : Alphabet
  /-- The offset of the token that is being read. -/
  start : Nat
  /-- What is wrong when the text ends inside the token that is being read. -/
  unclosed : Cause
  /-- The number of bytes that references to entities have stood for so far. -/
  expanded : Nat := 0

/-- The place in front of a text. -/
def Place.of (text : List Char) (ending : Ending) (alphabet : Alphabet) : Place where
  rest := text
  offset := 0
  ending := ending
  alphabet := alphabet
  start := 0
  unclosed := .unclosedToken

/-- The error of a text that ends inside the token that is being read. -/
def Place.cut (place : Place) : Error :=
  match place.ending with
  | .complete | .halfUnit => ⟨place.unclosed, place.start⟩
  | .broken => ⟨.invalidToken, place.offset⟩
  | .truncated => ⟨.partialCharacter, place.start⟩

/-- Reading characters from the front of a text, with one error for the whole text. -/
abbrev Scan := StateT Place (Except Error)

namespace Scan

/-- Stops with a cause at an offset. -/
def failAt {α : Type} (cause : Cause) (offset : Nat) : Scan α := throw ⟨cause, offset⟩

/-- Stops with a cause at the next character. -/
def failHere {α : Type} (cause : Cause) : Scan α := do failAt cause (← get).offset

/-- Stops because the next character cannot stand here. -/
def invalid {α : Type} : Scan α := failHere .invalidToken

/-- The number of characters read so far. -/
def offset : Scan Nat := do return (← get).offset

/-- The next character, which stays unread; none at the end. -/
def peek? : Scan (Option Char) := do return (← get).rest.head?

/-- The next character, which stays unread. A token must not end here. -/
def peek : Scan Char := do
  let place ← get
  match place.rest with
  | c :: _ => return c
  | [] => throw place.cut

/-- Reads one character. -/
def skip : Scan Unit :=
  modify fun place => { place with rest := place.rest.tail, offset := place.offset + 1 }

/-- Reads several characters. -/
def skipMany (count : Nat) : Scan Unit :=
  modify fun place =>
    { place with rest := place.rest.drop count, offset := place.offset + count }

/-- Begins a token at the next character. -/
def beginToken : Scan Unit :=
  modify fun place => { place with start := place.offset, unclosed := .unclosedToken }

/-- Reads the longest run of characters of a class. -/
def takeWhile (inside : Char → Bool) : Scan (List Char) := do
  let run := (← get).rest.takeWhile inside
  skipMany run.length
  return run

/-- Reads one character, which has to be the given one. -/
def expect (wanted : Char) : Scan Unit := do
  if (← peek) = wanted then skip else invalid

/-- Repeats a step until it gives a result. A step that does not give one has read a character, so
the characters left at the beginning are enough for every step. -/
def iterate {σ β : Type} (step : σ → Scan (σ ⊕ β)) (start : σ) : Scan β := do
  go (← get).rest start
where
  go : List Char → σ → Scan β
    | fuel, state => do
      match ← step state with
      | .inr result => return result
      | .inl next =>
        match fuel with
        | [] => invalid
        | _ :: fuel => go fuel next

/-- Reads the white space in front of the next character, if there is any. -/
def skipSpaces : Scan Unit := do let _ ← takeWhile isSpace

/-- Reads a name that holds no colon. -/
def name : Scan (List Char) := do
  let alphabet := (← get).alphabet
  if alphabet.isNameStart (← peek) then takeWhile alphabet.isNameChar else invalid

/-- Reads a name of one part, or of two with a colon between them. -/
def qualifiedName : Scan (List Char) := do
  let first ← name
  if (← peek?) = some ':' then
    skip
    let second ← name
    return first ++ ':' :: second
  else return first

/-- Reads a comment from after its first dash. -/
def comment : Scan Unit := do
  expect '-'
  iterate (fun () => do
    let c ← peek
    if !isLegal c then invalid
    skip
    if c = '-' then
      if (← peek) = '-' then
        skip
        expect '>'
        return .inr ()
    return .inl ()) ()

/-- Which instruction a target announces. -/
inductive Target where
  /-- An instruction to some application. -/
  | instruction
  /-- The XML declaration, with its offset and the characters between its ends. -/
  | declaration (offset : Nat) (body : List Char)

/-- Reads the characters up to the end of an instruction. -/
def instructionBody : Scan (List Char) :=
  iterate (fun body => do
    let c ← peek
    if !isLegal c then invalid
    skip
    if c = '?' then
      if (← peek) = '>' then
        skip
        return .inr body.reverse
    return .inl (c :: body)) []

/-- Reads an instruction from after its question mark. The target `xml` is kept for the
declaration, and no other spelling of it in capitals is allowed. -/
def instruction : Scan Target := do
  let target ← name
  let c ← peek
  if !isSpace c && c != '?' then invalid
  if target.map Char.toLower = "xml".toList && target != "xml".toList then invalid
  let after ← offset
  let body ← if c = '?' then do
      skip
      expect '>'
      pure []
    else instructionBody
  if target = "xml".toList then return .declaration after body else return .instruction

/-- What a reference stands for. -/
inductive Reference where
  /-- The text of a named entity. -/
  | entity (name : List Char)
  /-- One character by its number; none if the number is no character of a document. -/
  | character (char? : Option Char)
  deriving DecidableEq, Repr

/-- The character of a number, if it may occur in a document. -/
def characterOf? (code : Nat) : Option Char :=
  if code.isValidChar && isLegal (Char.ofNat code) then some (Char.ofNat code) else none

/-- The number a list of digits denotes in a base, kept at the first value beyond all characters
once it has passed them. -/
def codeValue (base : Nat) (digits : List Char) : Nat :=
  digits.foldl (fun code c => min 0x110000 (code * base + (hexValue? c).getD 0)) 0

/-- Reads a reference from after its ampersand. -/
def reference : Scan Reference := do
  if (← peek) = '#' then
    skip
    let hexadecimal := (← peek) = 'x'
    if hexadecimal then skip
    let isDigit : Char → Bool := if hexadecimal then (hexValue? · |>.isSome) else Char.isDigit
    if !isDigit (← peek) then invalid
    let digits ← takeWhile isDigit
    expect ';'
    return .character (characterOf? (codeValue (if hexadecimal then 16 else 10) digits))
  else
    let entity ← name
    expect ';'
    return .entity entity

end Scan

end SchemaTypes.Xml
