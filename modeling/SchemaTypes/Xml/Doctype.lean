import SchemaTypes.Xml.Doctype.Token
import SchemaTypes.Xml.Tag

/-!
# The document type

A document type declares entities and attributes, directly or in parts kept elsewhere. Parts kept
elsewhere are not read; once one may have been left out, an entity that is not declared may be
declared there, and later declarations count only in a document that stands alone. Declarations of
elements and notations have to be well formed and mean nothing here.
-/

namespace SchemaTypes.Xml

open Doctype Scan

/-- What has been read of the document type. -/
structure Doctype where
  entities : List (List Char × Entity) := []
  defaults : List AttributeDefault := []
  /-- Whether some part of the document type was not read. -/
  hasUnread : Bool := false
  /-- Whether declarations still count. -/
  counts : Bool := true
  /-- Whether the document says that it stands alone. -/
  standalone : Bool

namespace Doctype

/-- The entities declared so far. Every entity must be declared if all of the document type was
read or the document stands alone. -/
def entityTable (doctype : Doctype) : Entities where
  declared := doctype.entities
  closed := !doctype.hasUnread || doctype.standalone

/-- Declares an entity unless one of that name is declared, or the name has a fixed meaning. -/
def declareEntity (doctype : Doctype) (name : List Char) (entity : Entity) : Doctype :=
  if (predefined? name).isSome || (doctype.entities.lookup name).isSome then doctype
  else { doctype with entities := doctype.entities ++ [(name, entity)] }

/-- Declares an attribute. A declaration with a value, or of an identifier, counts only if the
attribute is not declared yet. -/
def declareAttribute (doctype : Doctype) (identifier : Bool) (found : AttributeDefault) :
    Doctype :=
  let known := doctype.defaults.any fun old =>
    old.element = found.element && old.name = found.name
  if (found.value?.isSome || identifier) && known then doctype
  else { doctype with defaults := doctype.defaults ++ [found] }

/-- Characters a public identifier may hold. -/
def isPublicIdChar (c : Char) : Bool :=
  c.isAlphanum || c = ' ' || c = '\n' || c = '\r' || "-'()+,./:=?;!*#@$_%".toList.contains c

/-- Checks the text of a public identifier. -/
def checkPublicId (text : List Char) (position : Nat) : Scan Unit :=
  match text.findIdx? (!isPublicIdChar ·) with
  | some index => failAt .publicIdentifier (position + index)
  | none => return

/-- Reads a token that ends a declaration. -/
def endDeclaration : Scan Unit := do
  match ← token with
  | .close => return
  | found => unexpected found

/-- Reads a literal. -/
def literal : Scan (List Char × Nat) := do
  match ← token with
  | .literal text position => return (text, position)
  | found => unexpected found

/-- Reads a public identifier. -/
def publicId : Scan Unit := do
  let (text, position) ← literal
  checkPublicId text position

/-- The text an entity stands for: the literal with its character references replaced and its line
ends made equal. Parameter entities may not be referred to in it. -/
def entityText (text : List Char) (position : Nat) (alphabet : Alphabet) : Scan (List Char) := do
  let reading : Scan (List Char) := iterate (fun done => do
    modify fun place => { place with start := place.offset, unclosed := .invalidToken }
    let start ← offset
    match (← get).rest with
    | [] => return .inr done.reverse
    | '&' :: rest =>
      skip
      match ← reference with
      | .character (some c) => return .inl (c :: done)
      | .character none => failAt .badCharacterReference start
      | .entity name => return .inl ((rest.take (name.length + 1)).reverse ++ '&' :: done)
    | '%' :: _ =>
      skip
      let _ ← name
      expect ';'
      failAt .parameterEntityReference start
    | '\r' :: '\n' :: _ =>
      skipMany 2
      return .inl ('\n' :: done)
    | c :: _ =>
      skip
      return .inl ((if c = '\r' then '\n' else c) :: done)) []
  let place : Place := { Place.of text .complete alphabet with offset := position }
  let (found, _) ← (reading.run place : Except Error (List Char × Place))
  return found

/-- Reads what an entity stands for and the end of its declaration. -/
def entityDefinition (doctype : Doctype) (parameter : Bool) : Scan Entity := do
  let place ← get
  match ← token with
  | .literal text position =>
    let replacement ←
      if doctype.counts then entityText text position place.alphabet else pure []
    endDeclaration
    return .text replacement
  | .word .plain keyword =>
    if keyword = "PUBLIC".toList then publicId
    else if keyword != "SYSTEM".toList then unexpected (.word .plain keyword)
    let _ ← literal
    match ← token with
    | .close => return .external
    | .word .plain marker =>
      if parameter || marker != "NDATA".toList then unexpected (.word .plain marker)
      match ← token with
      | .word .plain _ =>
        endDeclaration
        return .unparsed
      | found => unexpected found
    | found => unexpected found
  | found => unexpected found

/-- Reads an entity declaration from after its keyword. -/
def entityDeclaration (doctype : Doctype) : Scan Doctype := do
  match ← token with
  | .word .plain name =>
    let entity ← doctype.entityDefinition false
    return if doctype.counts then doctype.declareEntity name entity else doctype
  | .percent =>
    match ← token with
    | .word .plain _ =>
      let _ ← doctype.entityDefinition true
      return doctype
    | found => unexpected found
  | found => unexpected found

/-- Reads alternatives between parentheses from after the opening one. -/
def alternatives (allowed : Spelling → Bool) : Scan Unit :=
  iterate (fun () => do
    match ← token with
    | .word spelling text => if !allowed spelling then unexpected (.word spelling text)
    | found => unexpected found
    match ← token with
    | .bar => return .inl ()
    | .closeParen none => return .inr ()
    | found => unexpected found) ()

/-- The names of the types of attributes whose spaces are squeezed. -/
def squeezedTypes : List (List Char) :=
  ["ID", "IDREF", "IDREFS", "ENTITY", "ENTITIES", "NMTOKEN", "NMTOKENS"].map String.toList

/-- Reads the type of an attribute; gives whether its spaces are squeezed and whether it is an
identifier. -/
def attributeType : Scan (Bool × Bool) := do
  match ← token with
  | .openParen =>
    alternatives fun _ => true
    return (true, false)
  | .word .plain keyword =>
    if keyword = "CDATA".toList then return (false, false)
    else if keyword = "NOTATION".toList then
      match ← token with
      | .openParen =>
        alternatives (· = .plain)
        return (true, false)
      | found => unexpected found
    else if squeezedTypes.contains keyword then return (true, keyword = "ID".toList)
    else unexpected (.word .plain keyword)
  | found => unexpected found

/-- Declares an attribute with the value that a literal gives it. -/
def declareValue (doctype : Doctype) (element name : List Char) (squeezed : Bool)
    (text : List Char) (position : Nat) : Scan Doctype := do
  if !doctype.counts then return doctype
  let place ← get
  let value ← (doctype.entityTable.attributeValue squeezed place.start text position
    place.alphabet : Except Error String)
  return doctype.declareAttribute false ⟨element, name, squeezed, some value⟩

/-- Reads an attribute's type and default. -/
def attributeDefinition (doctype : Doctype) (element name : List Char) : Scan Doctype := do
  let (squeezed, identifier) ← attributeType
  match ← token with
  | .hashName keyword =>
    if keyword = "IMPLIED".toList || keyword = "REQUIRED".toList then
      return if doctype.counts then
        doctype.declareAttribute identifier ⟨element, name, squeezed, none⟩ else doctype
    else if keyword = "FIXED".toList then
      match ← token with
      | .literal text position => doctype.declareValue element name squeezed text position
      | found => unexpected found
    else unexpected (.hashName keyword)
  | .literal text position => doctype.declareValue element name squeezed text position
  | found => unexpected found

/-- Reads an attribute declaration from after its keyword. -/
def attributeDeclaration (doctype : Doctype) : Scan Doctype := do
  match ← token with
  | .word .loose text => unexpected (.word .loose text)
  | .word _ element =>
    iterate (fun doctype => do
      match ← token with
      | .close => return .inr doctype
      | .word .loose text => unexpected (.word .loose text)
      | .word _ name => return .inl (← doctype.attributeDefinition element name)
      | found => unexpected found) doctype
  | found => unexpected found

/-- Reads the rest of content that mixes text and elements, from after its first word. -/
def mixedContent : Scan Unit := do
  match ← token with
  | .closeParen none | .closeParen (some '*') => return
  | .bar =>
    iterate (fun () => do
      match ← token with
      | .word .loose text => unexpected (.word .loose text)
      | .word _ _ =>
        match ← token with
        | .closeParen (some '*') => return .inr ()
        | .bar => return .inl ()
        | found => unexpected found
      | found => unexpected found) ()
  | found => unexpected found

/-- Reads the rest of content made of elements. The open groups, innermost first, each have one
separator as soon as the first one was read. In front of an item an item comes; behind it a
separator or the end of the group. -/
def elementContent (groups : List (Option Token)) (itemNext : Bool) : Scan Unit :=
  iterate (fun (groups, itemNext) => do
    let found ← token
    match itemNext, found, groups with
    | true, .openParen, _ => return .inl (none :: groups, true)
    | true, .word .loose _, _ => unexpected found
    | true, .word .., _ | true, .repeatedName, _ => return .inl (groups, false)
    | false, .closeParen _, _ :: outer =>
      return if outer.isEmpty then .inr () else .inl (outer, false)
    | false, .comma, separator :: outer | false, .bar, separator :: outer =>
      if separator.any (· != found) then unexpected found
      return .inl (some found :: outer, true)
    | _, _, _ => unexpected found) (groups, itemNext)

/-- Reads an element declaration from after its keyword. -/
def elementDeclaration : Scan Unit := do
  match ← token with
  | .word .loose text => unexpected (.word .loose text)
  | .word _ _ =>
    match ← token with
    | .word .plain keyword =>
      if keyword != "EMPTY".toList && keyword != "ANY".toList then
        unexpected (.word .plain keyword)
    | .openParen =>
      match ← token with
      | .hashName keyword =>
        if keyword != "PCDATA".toList then unexpected (.hashName keyword)
        mixedContent
      | .openParen => elementContent [none, none] true
      | .word .loose text => unexpected (.word .loose text)
      | .word .. | .repeatedName => elementContent [none] false
      | found => unexpected found
    | found => unexpected found
    endDeclaration
  | found => unexpected found

/-- Reads a notation declaration from after its keyword. -/
def notationDeclaration : Scan Unit := do
  match ← token with
  | .word .plain _ =>
    match ← token with
    | .word .plain keyword =>
      if keyword = "SYSTEM".toList then
        let _ ← literal
        endDeclaration
      else if keyword = "PUBLIC".toList then
        publicId
        match ← token with
        | .close => return
        | .literal .. => endDeclaration
        | found => unexpected found
      else unexpected (.word .plain keyword)
    | found => unexpected found
  | found => unexpected found

/-- Reads declarations up to the closing bracket. -/
def internalSubset (doctype : Doctype) : Scan Doctype :=
  iterate (fun doctype => do
    match ← token with
    | .closeBracket => return .inr doctype
    | .comment | .instruction => return .inl doctype
    | .parameterReference =>
      return .inl { doctype with hasUnread := true, counts := doctype.standalone }
    | .opening keyword =>
      if keyword = "ENTITY".toList then return .inl (← doctype.entityDeclaration)
      else if keyword = "ATTLIST".toList then return .inl (← doctype.attributeDeclaration)
      else if keyword = "ELEMENT".toList then
        elementDeclaration
        return .inl doctype
      else if keyword = "NOTATION".toList then
        notationDeclaration
        return .inl doctype
      else unexpected (.opening keyword)
    | found => unexpected found) doctype

/-- Reads the brackets with declarations in them, if there are any, and the end of the whole. -/
def ending (doctype : Doctype) (first : Token) : Scan Doctype := do
  match first with
  | .close => return doctype
  | .openBracket =>
    let doctype ← doctype.internalSubset
    endDeclaration
    return doctype
  | found => unexpected found

/-- Reads a document type from after its keyword. -/
def declaration (standalone : Bool) : Scan Doctype := do
  let doctype : Doctype := { standalone := standalone }
  match ← token with
  | .word .loose text => unexpected (.word .loose text)
  | .word _ _ =>
    match ← token with
    | .word .plain keyword =>
      if keyword = "PUBLIC".toList then publicId
      else if keyword != "SYSTEM".toList then unexpected (.word .plain keyword)
      let _ ← literal
      ending { doctype with hasUnread := true } (← token)
    | found => doctype.ending found
  | found => unexpected found

end Doctype

end SchemaTypes.Xml
