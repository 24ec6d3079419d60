import SchemaTypes.Xml.Entity
import SchemaTypes.Xml.Namespace

/-!
# Tags

A start tag is first read as it is written and then resolved: attribute values are worked out,
attributes the document type supplies are added, prefixes are bound, and names are expanded. An
element may not have two attributes of one name, neither as written nor expanded.
-/

namespace SchemaTypes.Xml

open SchemaTypes.Text

/-- An attribute as it is written. -/
structure WrittenAttribute where
  name : List Char
  /-- Where the name begins. -/
  nameOffset : Nat
  value : List Char
  /-- Where the value begins, after its quote. -/
  valueOffset : Nat

/-- A start tag as it is written. -/
structure StartTag where
  name : List Char
  attributes : List WrittenAttribute
  /-- Whether the tag is an end tag as well. -/
  selfClosing : Bool

/-- An attribute the document type declares for an element. -/
structure AttributeDefault where
  element : List Char
  name : List Char
  /-- Whether the value is of another type than plain text, so that its spaces are squeezed. -/
  squeezed : Bool
  /-- The value of an attribute that is left out. -/
  value? : Option String

namespace Scan

/-- Reads an attribute value with its quotes, up to and including the closing one. -/
def quotedValue : Scan (List Char × Nat) := do
  let quote ← peek
  if quote != '"' && quote != '\'' then invalid
  skip
  let place ← get
  let stop ← iterate (fun () => do
    let c ← peek
    if c = quote then
      let stop ← offset
      skip
      return .inr stop
    else if c = '<' || !isLegal c then invalid
    else
      skip
      if c = '&' then
        let _ ← reference
      return .inl ()) ()
  return (place.rest.take (stop - place.offset), place.offset)

/-- Reads an attribute. -/
def writtenAttribute : Scan WrittenAttribute := do
  let nameOffset ← offset
  let name ← qualifiedName
  skipSpaces
  expect '='
  skipSpaces
  let (value, valueOffset) ← quotedValue
  return ⟨name, nameOffset, value, valueOffset⟩

/-- Reads a start tag from after its opening bracket. White space separates the attributes from
what is in front of them. -/
def startTag : Scan StartTag := do
  let name ← qualifiedName
  iterate (fun attributes => do
    let space := isSpace (← peek)
    skipSpaces
    match ← peek with
    | '>' =>
      skip
      return .inr ⟨name, attributes.reverse, false⟩
    | '/' =>
      skip
      expect '>'
      return .inr ⟨name, attributes.reverse, true⟩
    | _ => if space then return .inl ((← writtenAttribute) :: attributes) else invalid) []

/-- Reads an end tag from after its slash, and gives its name and where it begins. -/
def endTag : Scan (List Char × Nat) := do
  let place ← get
  let _ ← name
  let _ ← takeWhile fun c => place.alphabet.isNameChar c || c = ':'
  let stop ← offset
  skipSpaces
  expect '>'
  return (place.rest.take (stop - place.offset), place.offset)

end Scan

/-- A start tag with its names expanded and its attributes complete. -/
structure ResolvedTag where
  tag : String
  attributes : List (String × String)
  /-- The bindings in force inside the element. -/
  scope : Scope

/-- Adds the attributes a document type supplies for those left out, each once. -/
def supplyDefaults (defaults : List AttributeDefault) (written : List (List Char × String)) :
    List (List Char × String) :=
  defaults.foldl (fun attributes supplied =>
    match supplied.value? with
    | some value =>
      if (attributes.lookup supplied.name).isSome then attributes
      else attributes ++ [(supplied.name, value)]
    | none => attributes) written

/-- Binds the prefixes that attributes bind, in order. -/
def bindAll (scope : Scope) (attributes : List (List Char × String)) : Except Cause Scope :=
  attributes.foldlM (fun scope (name, value) =>
    match boundPrefix? name with
    | some bound => scope.bind bound value
    | none => .ok scope) scope

/-- Expands the names of attributes, none of which may come twice. -/
def expandAttributes (scope : Scope) :
    List (List Char × String) → List (String × String) → Except Cause (List (String × String))
  | [], done => .ok done.reverse
  | (name, value) :: rest, done => do
    let whole ← scope.expandAttribute name
    if (done.lookup whole).isSome then .error .duplicateAttribute
    else expandAttributes scope rest ((whole, value) :: done)

/-- Gives an error of names its place. -/
def placed {α : Type} (owner : Nat) : Except Cause α → Except Error α
  | .ok value => .ok value
  | .error cause => .error ⟨cause, owner⟩

/-- Works out the values of attributes and binds the prefixes they bind, in order. -/
def readValues (entities : Entities) (declared : List AttributeDefault) (alphabet : Alphabet)
    (owner : Nat) : List WrittenAttribute → List (List Char × String) → Scope →
    Except Error (List (List Char × String) × Scope)
  | [], done, scope => .ok (done, scope)
  | found :: rest, done, scope =>
    if (done.lookup found.name).isSome then .error ⟨.duplicateAttribute, found.nameOffset⟩
    else do
      let squeezed := (declared.find? (·.name = found.name)).any (·.squeezed)
      let value ← entities.attributeValue squeezed owner found.value found.valueOffset alphabet
      let scope ← placed owner (bindAll scope [(found.name, value)])
      readValues entities declared alphabet owner rest (done ++ [(found.name, value)]) scope

/-- Resolves a start tag that begins at an offset. What is wrong with names shows at the tag; a
name written twice shows at its second place. -/
def StartTag.resolve (tag : StartTag) (entities : Entities) (defaults : List AttributeDefault)
    (outer : Scope) (alphabet : Alphabet) (owner : Nat) : Except Error ResolvedTag := do
  let declared := defaults.filter (·.element = tag.name)
  let (written, scope) ← readValues entities declared alphabet owner tag.attributes [] outer
  let complete := supplyDefaults declared written
  let scope ← placed owner (bindAll scope (complete.drop written.length))
  let named := complete.filter fun (name, _) => (boundPrefix? name).isNone
  let attributes ← placed owner (expandAttributes scope named [])
  let whole ← placed owner (scope.expandTag tag.name)
  return ⟨whole, attributes, scope⟩

end SchemaTypes.Xml
