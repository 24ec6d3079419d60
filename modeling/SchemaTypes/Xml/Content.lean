import SchemaTypes.Element
import SchemaTypes.Xml.Tag

/-!
# Content

Content is read with the elements that are open kept on a stack. The text of an entity is read in
place of a reference to it and has to close exactly the elements it opens. Reading a document's
content ends with the tag that closes the first element.
-/

namespace SchemaTypes.Xml

/-- An element whose end tag has not been read yet. -/
structure OpenElement where
  /-- The name as the start tag has it. -/
  name : List Char
  tag : String
  attributes : List (String × String)
  /-- The elements inside it so far, last first. -/
  children : List Element
  /-- The bindings in force inside it. -/
  scope : Scope

/-- The open elements, innermost first. -/
abbrev OpenElements := List OpenElement

/-- What content needs to know of the prolog. -/
structure Context where
  entities : Entities
  defaults : List AttributeDefault

/-- The element that is open, complete with its children. -/
def OpenElement.close (element : OpenElement) : Element :=
  .mk element.tag element.attributes element.children.reverse

/-- Puts a complete element where it belongs: inside the innermost open one, or by itself. -/
def OpenElements.add (element : Element) : OpenElements → Element ⊕ OpenElements
  | [] => .inl element
  | parent :: others => .inr ({ parent with children := element :: parent.children } :: others)

/-- The bindings in force inside the innermost open element. -/
def OpenElements.scope : OpenElements → Scope
  | [] => .initial
  | parent :: _ => parent.scope

namespace Scan

/-- Reads a section of character data from after its second bracket. -/
def characterData : Scan Unit := do
  let place ← get
  if (place.rest.take 6).length < 6 then throw place.cut
  "CDATA[".toList.forM expect
  iterate (fun () => do
    modify fun place => { place with start := place.offset, unclosed := .unclosedSection }
    let place ← get
    match place.rest with
    | ']' :: ']' :: '>' :: _ =>
      skipMany 3
      return .inr ()
    | [']'] | [']', ']'] | ['\r'] =>
      if place.ending = .complete then throw place.cut
      skip
      return .inl ()
    | _ =>
      if !isLegal (← peek) then invalid
      skip
      return .inl ()) ()

/-- The end of a text while elements are open. A carriage return that is the last character counts
as not read. -/
def endOfContent {α : Type} : Scan α := do
  let place ← get
  match place.ending with
  | .complete => failAt .noElement place.offset
  | _ => throw place.cut

/-- Whether a character of content stands for nothing but itself. -/
def isPlain (c : Char) : Bool := isLegal c && c != '<' && c != '&' && c != ']' && c != '\r'

/-- What a reading of content ends with: the document element, or the elements still open where an
entity's text ends. -/
abbrev ContentResult := Element ⊕ OpenElements

/-- Goes on after an element has been completed. -/
def continueWith : Element ⊕ OpenElements → OpenElements ⊕ ContentResult
  | .inl root => .inr (.inl root)
  | .inr opened => .inl opened

/-- Reads markup from after its opening bracket; the innermost `base` elements were opened outside
of the text that is being read. -/
def markup (context : Context) (base : Nat) (opened : OpenElements) :
    Scan (OpenElements ⊕ ContentResult) := do
  let place ← get
  match ← peek with
  | '!' =>
    skip
    match ← peek with
    | '-' =>
      skip
      comment
      return .inl opened
    | '[' =>
      skip
      characterData
      return .inl opened
    | _ => invalid
  | '?' =>
    skip
    match ← instruction with
    | .instruction => return .inl opened
    | .declaration .. => failAt .misplacedDeclaration place.start
  | '/' =>
    skip
    let (name, nameOffset) ← endTag
    match opened with
    | [] => failAt .unbalancedEntity place.start
    | element :: outer =>
      if opened.length = base then failAt .unbalancedEntity place.start
      else if element.name = name then return continueWith (OpenElements.add element.close outer)
      else failAt .mismatchedTag nameOffset
  | _ =>
    let tag ← startTag
    let resolved ← (tag.resolve context.entities context.defaults opened.scope place.alphabet
      place.start : Except Error ResolvedTag)
    if tag.selfClosing then
      return continueWith (opened.add (.mk resolved.tag resolved.attributes []))
    else
      return .inl (⟨tag.name, resolved.tag, resolved.attributes, [], resolved.scope⟩ :: opened)

/-- Reads content to the end of the document element, or to the end of an entity's text. The
function reads the text an entity stands for. -/
def content (context : Context) (base : Nat)
    (expand : List Char → OpenElements → Scan OpenElements) (opened : OpenElements) :
    Scan ContentResult :=
  iterate (fun opened => do
    beginToken
    let place ← get
    match place.rest with
    | [] =>
      if base = 0 then endOfContent
      else if opened.length = base then return .inr (.inr opened)
      else failHere .unbalancedEntity
    | '<' :: _ =>
      skip
      markup context base opened
    | '&' :: _ =>
      skip
      match ← reference with
      | .character none => failAt .badCharacterReference place.start
      | .character (some _) => return .inl opened
      | .entity name => return .inl (← expand name opened)
    | ']' :: ']' :: '>' :: _ => failAt .invalidToken (place.start + 2)
    | ['\r'] =>
      if base = 0 && place.ending = .complete then endOfContent
      skip
      return .inl opened
    | c :: _ =>
      if !isLegal c then invalid
      skip
      let _ ← takeWhile isPlain
      return .inl opened) opened

end Scan

/-- The cause of an error about an entity that may be declared in a part that was not read. -/
def skipped (name : List Char) : Cause :=
  .skippedEntity (String.ofList (('&' :: name ++ [';']).take 100))

/-- Reads the text a named entity stands for as content. What is wrong with it shows at the
reference. An entity is expanded with one fewer entity left to expand, since one that is open is
not opened again. -/
def Context.expand (context : Context) :
    Nat → List (List Char) → List Char → OpenElements → Scan OpenElements
  | left, openEntities, name, opened => do
    let place ← get
    if (predefined? name).isSome then return opened
    match context.entities.declared.lookup name, left with
    | none, _ =>
      if context.entities.closed then Scan.failAt .undefinedEntity place.start
      else Scan.failAt (skipped name) place.start
    | some entity, left =>
      if openEntities.contains name then Scan.failAt .recursiveEntity place.start
      else match entity, left with
        | .unparsed, _ => Scan.failAt .binaryEntity place.start
        | .external, _ => Scan.failAt (skipped name) place.start
        | .text _, 0 => Scan.failAt .recursiveEntity place.start
        | .text replacement, left + 1 =>
          let inner := Scan.content context opened.length
            (context.expand left (name :: openEntities)) opened
          match ← Scan.within replacement place.start inner with
          | .inr opened => return opened
          | .inl _ => Scan.failAt .unbalancedEntity place.start

/-- Reads the document element, whose start tag comes next. -/
def Context.documentElement (context : Context) : Scan Element := do
  match ← Scan.content context 0 (context.expand context.entities.declared.length []) [] with
  | .inl root => return root
  | .inr _ => Scan.endOfContent

end SchemaTypes.Xml
