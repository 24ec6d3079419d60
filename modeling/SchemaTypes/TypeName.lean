import SchemaTypes.Overrides
import SchemaTypes.Text.Search
import SchemaTypes.Text.Split

/-!
# Names of types

A schema refers to a type by a name that may carry a namespace prefix, and generated code knows
only a few basic types. `target` takes a reference to the generated name: an override first, then
the basic type a builtin stands for, then the local name of a type the schema defines itself. Two
tests on the base of a restriction, for whole numbers and for text, look at the spelling alone.
-/

namespace SchemaTypes.TypeName

open SchemaTypes.Text

/-- The generated type of everything without a type of its own. -/
def textTarget : String := "string"

/-- The builtin types that hold text. -/
def textTypes : List String :=
  ["string", "normalizedString", "token", "language", "Name", "NCName", "NMTOKEN", "NMTOKENS",
   "ID", "IDREF", "IDREFS", "ENTITY", "anyURI", "QName", "base64Binary", "hexBinary",
   "anySimpleType"]

/-- The builtin types that hold numbers. -/
def numberTypes : List String :=
  ["decimal", "float", "double", "integer", "int", "long", "short", "byte", "positiveInteger",
   "negativeInteger", "nonPositiveInteger", "nonNegativeInteger", "unsignedLong", "unsignedInt",
   "unsignedShort", "unsignedByte"]

/-- The builtin types that hold points in time. -/
def dateTypes : List String :=
  ["date", "dateTime", "time", "gYear", "gYearMonth", "gMonthDay"]

/-- The part of a type name after its first colon; all of a name without one. -/
def localPart (name : String) : String :=
  match cut? ':' name.toList with
  | some (_, after) => String.ofList after
  | none => name

/-- The generated type of a local name that no override mentions. -/
def builtinTarget (name : String) : String :=
  if textTypes.contains name then textTarget
  else if numberTypes.contains name then "number"
  else if name = "boolean" then "boolean"
  else if dateTypes.contains name then "Date"
  else name

/-- The local name overrides are looked up under; an empty one counts as text. -/
def lookupName (name : String) : String :=
  if localPart name = "" then textTarget else localPart name

/-- The generated type a reference stands for. An override may name the type with or without
its prefix, and the name with the prefix is tried first. -/
def target (overrides : Overrides) : Option String → String
  | none => textTarget
  | some name =>
    if name = "" then textTarget
    else ((overrides.find? name).or (overrides.find? (lookupName name))).getD
      (builtinTarget (lookupName name))

/-- The endings that make the base of a restriction a whole number type. -/
def integerEndings : List String := ["integer", "int", "long", "short", "byte"]

/-- The words that make the base of a restriction a text type. -/
def textWords : List String := ["string", "token"]

/-- Whether a base is spelled like a whole number type: it ends with one of the endings in any
case, where one final line feed does not count. -/
def isIntegerLike (base : Option String) : Bool :=
  let letters := (base.getD "").toList.map foldLetter
  let ends (text : List Char) := integerEndings.any fun word => endsWith word.toList text
  ends letters || (letters.getLast? == some '\n' && ends letters.dropLast)

/-- Whether a base is spelled like a text type: one of the words occurs in it in any case. -/
def isTextLike (base : Option String) : Bool :=
  let letters := (base.getD "").toList.map foldLetter
  textWords.any fun word => occursIn word.toList letters

end SchemaTypes.TypeName
