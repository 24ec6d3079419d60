/-!
# Why a document is malformed

A document is malformed for one cause at one place. The place is kept as a count of characters from
the beginning of the text; lines and columns are worked out only for the message.
-/

namespace SchemaTypes.Xml

/-- What is wrong with a document. -/
inductive Cause where
  /-- A token that cannot stand where it stands. -/
  | misplacedToken
  /-- The text ends before the document element does. -/
  | noElement
  /-- A character that no token goes on with. -/
  | invalidToken
  /-- The text ends inside a token. -/
  | unclosedToken
  /-- The text ends inside the encoding of a character. -/
  | partialCharacter
  /-- An end tag names another element than the one that is open. -/
  | mismatchedTag
  /-- An element has two attributes of one name. -/
  | duplicateAttribute
  /-- Something other than comments, instructions and white space after the document element. -/
  | junkAfterDocument
  /-- A parameter entity is referred to inside a declaration. -/
  | parameterEntityReference
  /-- A reference to an entity that is not declared. -/
  | undefinedEntity
  /-- A reference to an entity that may be declared in a part of the document type not read. -/
  | skippedEntity (reference : String)
  /-- An entity whose text refers to itself. -/
  | recursiveEntity
  /-- References to entities stand for more text than is read. -/
  | excessiveExpansion
  /-- An entity whose text does not hold whole elements. -/
  | unbalancedEntity
  /-- A reference to a character that cannot occur in a document. -/
  | badCharacterReference
  /-- A reference to an entity that is not text. -/
  | binaryEntity
  /-- An attribute refers to an entity kept elsewhere. -/
  | externalEntityInAttribute
  /-- An XML declaration anywhere but at the very beginning. -/
  | misplacedDeclaration
  /-- The declared encoding contradicts the one the bytes are in. -/
  | contradictedEncoding
  /-- The declared encoding does not agree with ASCII where markup is. -/
  | unknownEncoding
  /-- The text ends inside a section of character data. -/
  | unclosedSection
  /-- A prefix that no namespace is bound to. -/
  | unboundPrefix
  /-- A prefix bound to the empty namespace name. -/
  | undeclaredPrefix
  /-- The XML declaration does not have its form. -/
  | malformedDeclaration
  /-- A public identifier holds a character it may not hold. -/
  | publicIdentifier
  /-- The prefix `xml` bound to another namespace. -/
  | reservedXmlPrefix
  /-- The prefix `xmlns` bound at all. -/
  | reservedXmlnsPrefix
  /-- Another prefix bound to a namespace that is reserved. -/
  | reservedNamespace
  deriving DecidableEq, Repr

/-- The cause in words. -/
def Cause.text : Cause → String
  | .misplacedToken => "syntax error"
  | .noElement => "no element found"
  | .invalidToken => "not well-formed (invalid token)"
  | .unclosedToken => "unclosed token"
  | .partialCharacter => "partial character"
  | .mismatchedTag => "mismatched tag"
  | .duplicateAttribute => "duplicate attribute"
  | .junkAfterDocument => "junk after document element"
  | .parameterEntityReference => "illegal parameter entity reference"
  | .undefinedEntity => "undefined entity"
  | .skippedEntity reference => "undefined entity " ++ reference
  | .recursiveEntity => "recursive entity reference"
  | .excessiveExpansion =>
    "limit on input amplification factor (from DTD and entities) breached"
  | .unbalancedEntity => "asynchronous entity"
  | .badCharacterReference => "reference to invalid character number"
  | .binaryEntity => "reference to binary entity"
  | .externalEntityInAttribute => "reference to external entity in attribute"
  | .misplacedDeclaration => "XML or text declaration not at start of entity"
  | .contradictedEncoding => "encoding specified in XML declaration is incorrect"
  | .unknownEncoding => "unknown encoding"
  | .unclosedSection => "unclosed CDATA section"
  | .unboundPrefix => "unbound prefix"
  | .undeclaredPrefix => "must not undeclare prefix"
  | .malformedDeclaration => "XML declaration not well-formed"
  | .publicIdentifier => "illegal character(s) in public id"
  | .reservedXmlPrefix =>
    "reserved prefix (xml) must not be undeclared or bound to another namespace name"
  | .reservedXmlnsPrefix => "reserved prefix (xmlns) must not be declared or undeclared"
  | .reservedNamespace => "prefix must not be bound to one of the reserved namespace names"

/-- A cause and the number of characters in front of the place where it shows. -/
structure Error where
  cause : Cause
  offset : Nat
  deriving DecidableEq, Repr

/-- A place for people: lines count from one and columns from zero. -/
structure Position where
  line : Nat
  column : Nat
  deriving DecidableEq, Repr

/-- The position after a number of characters. A line feed, a carriage return, and the two of them
in this order each end one line. -/
def Position.advance (position : Position) : List Char → Nat → Position
  | _, 0 => position
  | [], _ => position
  | '\r' :: '\n' :: _, 1 => ⟨position.line + 1, 0⟩
  | '\r' :: '\n' :: rest, count + 2 => Position.advance ⟨position.line + 1, 0⟩ rest count
  | '\r' :: rest, count + 1 => Position.advance ⟨position.line + 1, 0⟩ rest count
  | '\n' :: rest, count + 1 => Position.advance ⟨position.line + 1, 0⟩ rest count
  | _ :: rest, count + 1 => Position.advance ⟨position.line, position.column + 1⟩ rest count

/-- The position an offset into a text denotes. -/
def Position.ofOffset (text : List Char) (offset : Nat) : Position :=
  Position.advance ⟨1, 0⟩ text offset

/-- An error with its position worked out. -/
structure Malformed where
  cause : Cause
  position : Position
  deriving DecidableEq, Repr

/-- The error as one line of text. -/
def Malformed.message (malformed : Malformed) : String :=
  malformed.cause.text ++ ": line " ++ toString malformed.position.line
    ++ ", column " ++ toString malformed.position.column

/-- Works out the position of an error in the text it was found in. -/
def Error.inText (error : Error) (text : List Char) : Malformed :=
  ⟨error.cause, .ofOffset text error.offset⟩

end SchemaTypes.Xml
