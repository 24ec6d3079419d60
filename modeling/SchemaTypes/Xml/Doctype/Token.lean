import SchemaTypes.Xml.Scan

/-!
# Tokens of the prolog

Outside the document element a document is a row of tokens: white space, comments, instructions, and
the words, literals and punctuation that declarations are made of.
-/

namespace SchemaTypes.Xml.Doctype

/-- How a word of name characters is spelled. -/
inductive Spelling where
  /-- A name. -/
  | plain
  /-- Two names with a colon between them. -/
  | qualified
  /-- Name characters and colons in any other order. -/
  | loose
  deriving DecidableEq, Repr

/-- A token of the prolog. -/
inductive Token where
  | space
  | comment
  | instruction
  /-- The XML declaration: where it goes on after the word `xml`, and how. -/
  | xmlDeclaration (offset : Nat) (body : List Char)
  /-- The beginning of a declaration, with its keyword. -/
  | opening (keyword : List Char)
  /-- The bracket of a start tag, which stays unread. -/
  | element
  | word (spelling : Spelling) (text : List Char)
  /-- A name with a mark behind it that says how often it may come. -/
  | repeatedName
  /-- A name behind a number sign. -/
  | hashName (name : List Char)
  /-- The text between quotes and where it begins. -/
  | literal (text : List Char) (offset : Nat)
  | percent
  | parameterReference
  | comma
  | bar
  | openBracket
  | closeBracket
  | openParen
  /-- A closing parenthesis with the mark behind it, if any. -/
  | closeParen (mark? : Option Char)
  /-- The end of a declaration. -/
  | close
  | sectionOpen
  | sectionClose
  deriving DecidableEq, Repr

namespace Scan

open SchemaTypes.Xml.Scan

/-- Checks that a token may end in front of the next character, or at the end of the text. -/
def endsBefore (allowed : Char → Bool) : Scan Unit := do
  let place ← get
  match place.rest with
  | c :: _ => if !allowed c then invalid
  | [] =>
    match place.ending with
    | .complete | .halfUnit => return
    | .broken | .truncated => throw place.cut

/-- Reads a literal from after its opening quote. -/
def literal (quote : Char) : Scan Token := do
  let begin ← get
  let _ ← takeWhile fun c => c != quote && isLegal c
  let stop ← offset
  expect quote
  endsBefore fun c => isSpace c || c = '>' || c = '%' || c = '['
  return .literal (begin.rest.take (stop - begin.offset)) begin.offset

/-- Reads a token from after an exclamation mark. -/
def declaration : Scan Token := do
  match ← peek with
  | '-' =>
    skip
    comment
    return .comment
  | '[' =>
    skip
    return .sectionOpen
  | c =>
    if !(c.isAlpha || c = '_') then invalid
    let keyword ← takeWhile fun c => c.isAlpha || c = '_'
    let next ← peek
    if isSpace next then return .opening keyword
    if next != '%' then invalid
    match (← get).rest with
    | _ :: after :: _ => if isSpace after || after = '%' then invalid
    | _ => throw (← get).cut
    return .opening keyword

/-- Reads a token from after a percent sign. -/
def percent : Scan Token := do
  let c ← peek
  if isSpace c || c = '%' then return .percent
  let _ ← name
  expect ';'
  return .parameterReference

/-- Reads a name from after a number sign. -/
def hashName : Scan Token := do
  let _ ← peek
  let found ← name
  endsBefore fun c => isSpace c || c = ')' || c = '>' || c = '%' || c = '|'
  return .hashName found

/-- Reads a token from after a closing parenthesis. -/
def closeParen : Scan Token := do
  match ← peek? with
  | some '*' | some '?' | some '+' =>
    let mark? ← peek?
    skip
    return .closeParen mark?
  | _ =>
    endsBefore fun c => isSpace c || c = '>' || c = ',' || c = '|' || c = ')'
    return .closeParen none

/-- Reads the rest of a word. -/
def wordRest (spelling : Spelling) (text : List Char) : Scan Token := do
  let alphabet := (← get).alphabet
  iterate (fun (spelling, text) => do
    let more ← takeWhile alphabet.isNameChar
    let text := text ++ more
    match ← peek? with
    | some ':' =>
      skip
      match spelling with
      | .plain =>
        let next := if alphabet.isNameChar (← peek) then Spelling.qualified else .loose
        return .inl (next, text ++ [':'])
      | _ => return .inl (.loose, text ++ [':'])
    | some '+' | some '*' | some '?' =>
      if spelling = .loose then invalid
      skip
      return .inr .repeatedName
    | _ =>
      endsBefore fun c =>
        isSpace c || c = '>' || c = ')' || c = ',' || c = '|' || c = '[' || c = '%'
      return .inr (.word spelling text)) (spelling, text)

/-- Reads a token of the prolog; none at the end of the text. -/
def token? : Scan (Option Token) := do
  beginToken
  let place ← get
  match place.rest with
  | [] => if place.ending = .complete then return none else throw place.cut
  | '<' :: _ =>
    skip
    match ← peek with
    | '!' =>
      skip
      return some (← declaration)
    | '?' =>
      skip
      match ← instruction with
      | .instruction => return some .instruction
      | .declaration position body => return some (.xmlDeclaration position body)
    | c =>
      if c.isAlpha || c = '_' || 0x80 ≤ c.toNat then
        set place
        return some .element
      else invalid
  | c :: _ =>
    if isSpace c then
      skipSpaces
      return some .space
    else if place.alphabet.isNameStart c then return some (← wordRest .plain [])
    else if place.alphabet.isNameChar c || c = ':' then
      skip
      return some (← wordRest .loose [c])
    else
      let single := [(',', Token.comma), ('|', .bar), ('[', .openBracket), ('(', .openParen),
        ('>', .close)].lookup c
      if single.isSome || c = '"' || c = '\'' || c = '%' || c = ']' || c = ')' || c = '#' then
        skip
      match single, c with
      | some token, _ => return some token
      | none, '"' | none, '\'' => return some (← literal c)
      | none, '%' => return some (← percent)
      | none, '#' => return some (← hashName)
      | none, ')' => return some (← closeParen)
      | none, ']' =>
        match (← get).rest with
        | ']' :: '>' :: _ =>
          skipMany 2
          return some .sectionClose
        | [']'] =>
          let _ ← skip
          throw (← get).cut
        | _ => return some .closeBracket
      | none, _ => invalid

/-- Reads the next token that is not white space. The text must not end in front of it. -/
def token : Scan Token :=
  iterate (fun () => do
    match ← token? with
    | none => failHere .noElement
    | some .space => return .inl ()
    | some found => return .inr found) ()

/-- Stops because a token cannot stand where it stands. -/
def unexpected {α : Type} (found : Token) : Scan α := do
  let position := (← get).start
  match found with
  | .parameterReference => failAt .parameterEntityReference position
  | .xmlDeclaration .. => failAt .misplacedDeclaration position
  | _ => failAt .misplacedToken position

end Scan

end SchemaTypes.Xml.Doctype
