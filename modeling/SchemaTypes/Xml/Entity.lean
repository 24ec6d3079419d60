import SchemaTypes.Xml.Scan

/-!
# Entities and attribute values

An entity is a name for a piece of text. The value of an attribute is its text with references
replaced and white space made plain; values of every type but plain text are also trimmed and have
single spaces inside. The text of an entity takes part in this as if it stood in the value. Since a
few references can stand for very much text, there is a limit to all of it together.
-/

namespace SchemaTypes.Xml

/-- What a declared entity stands for. -/
inductive Entity where
  /-- Text, with its character references already replaced. -/
  | text (replacement : List Char)
  /-- Something kept elsewhere. -/
  | external
  /-- Something kept elsewhere that is not text. -/
  | unparsed
  deriving DecidableEq, Repr

/-- The entities a document may refer to. -/
structure Entities where
  /-- Entities by name; of two declarations of one name the first counts. -/
  declared : List (List Char × Entity) := []
  /-- Whether every entity must be declared in what was read. -/
  closed : Bool := true

/-- The characters that have a name without a declaration. -/
def predefined? (name : List Char) : Option Char :=
  [("lt".toList, '<'), ("gt".toList, '>'), ("amp".toList, '&'), ("apos".toList, '\''),
   ("quot".toList, '"')].lookup name

/-- Adds a space to the reversed value; a value that is squeezed takes none at its beginning and
none after another. -/
def addSpace (squeezed : Bool) (value : List Char) : List Char :=
  if squeezed && (value.isEmpty || value.head? = some ' ') then value else ' ' :: value

/-- Reads text to its end into a reversed attribute value. The function adds what a reference
stands for, given the offset of its ampersand. -/
def Scan.valueText (squeezed : Bool) (refer : Nat → Reference → List Char → Scan (List Char))
    (value : List Char) : Scan (List Char) :=
  iterate (fun value => do
    match (← get).rest with
    | [] => return .inr value
    | '&' :: _ =>
      modify fun place => { place with start := place.offset, unclosed := .invalidToken }
      let position ← offset
      skip
      return .inl (← refer position (← reference) value)
    | '<' :: _ => invalid
    | '\r' :: '\n' :: _ =>
      skipMany 2
      return .inl (addSpace squeezed value)
    | c :: _ =>
      skip
      return .inl (if isSpace c then addSpace squeezed value else c :: value)) value

/-- The number of bytes that references to entities may stand for before they are refused. -/
def expansionLimit : Nat := 8388608

/-- Runs a scan over the text of an entity in place of a reference to it. What is wrong with the
text shows at the reference. -/
def Scan.within {α : Type} (text : List Char) (position : Nat) (scan : Scan α) : Scan α := do
  let expanded := (← get).expanded + (String.ofList text).utf8ByteSize
  if expansionLimit ≤ expanded then failAt .excessiveExpansion position
  match scan.run { Place.of text .complete .strict with expanded } with
  | .ok (result, inner) =>
    modify fun place => { place with expanded := inner.expanded }
    return result
  | .error error => failAt error.cause position

/-- Adds what a reference stands for to a reversed attribute value. Errors show at `shown` where
the reference itself is at fault and at `owner` where the entity is. An entity is expanded with
one fewer entity left to expand, since one that is open is not opened again. -/
def Entities.addReference (entities : Entities) (squeezed : Bool) (owner : Nat) :
    Nat → List (List Char) → Nat → Scan.Reference → List Char → Scan (List Char)
  | _, _, shown, .character none, _ => Scan.failAt .badCharacterReference shown
  | _, _, _, .character (some c), value =>
    return if c = ' ' then addSpace squeezed value else c :: value
  | left, opened, shown, .entity name, value =>
    match predefined? name with
    | some c => return c :: value
    | none =>
      match entities.declared.lookup name with
      | none =>
        if entities.closed then Scan.failAt .undefinedEntity owner else return value
      | some entity =>
        if opened.contains name then Scan.failAt .recursiveEntity owner
        else match entity, left with
          | .unparsed, _ => Scan.failAt .binaryEntity shown
          | .external, _ => Scan.failAt .externalEntityInAttribute shown
          | .text _, 0 => Scan.failAt .recursiveEntity owner
          | .text replacement, left + 1 => do
            let refer := fun _ =>
              entities.addReference squeezed owner left (name :: opened) owner
            Scan.within replacement owner (Scan.valueText squeezed refer value)

/-- The value of an attribute from its text, which stands at an offset. -/
def Entities.attributeValue (entities : Entities) (squeezed : Bool) (owner : Nat)
    (text : List Char) (position : Nat) (alphabet : Alphabet) : Except Error String := do
  let refer := entities.addReference squeezed owner entities.declared.length []
  let place : Place := { Place.of text .complete alphabet with offset := position }
  let (value, _) ← (Scan.valueText squeezed refer []).run place
  let trimmed := if squeezed && value.head? = some ' ' then value.tail else value
  return String.ofList trimmed.reverse

end SchemaTypes.Xml
