import SchemaTypes.Text.Split
import SchemaTypes.Xml.Error

/-!
# Namespaces

Elements bind prefixes to namespace names for themselves and everything inside them. A name with a
prefix, and the name of an element without one, is expanded to the namespace name between braces
and the local name. Since a closing brace ends the namespace name there, no namespace name holds
one.
-/

namespace SchemaTypes.Xml

open SchemaTypes.Text

/-- The namespace names in force, innermost first. The empty prefix stands for names without one,
and the empty namespace name for no namespace. -/
abbrev Scope := List (String × String)

/-- The beginning of the namespace names that are reserved. -/
def reservedBeginning : String := "http://www.w3.org/"

/-- The namespace the prefix `xml` always stands for. -/
def xmlNamespace : String := reservedBeginning ++ "XML/1998/namespace"

/-- The namespace of the attributes that bind prefixes. -/
def xmlnsNamespace : String := reservedBeginning ++ "2000/xmlns/"

/-- The bindings every document begins with. -/
def Scope.initial : Scope := [("xml", xmlNamespace)]

/-- The prefix an attribute binds, if binding prefixes is what the attribute does. -/
def boundPrefix? (written : List Char) : Option String :=
  if written = "xmlns".toList then some ""
  else match cut? ':' written with
    | some (space, bound) => if space = "xmlns".toList then some (String.ofList bound) else none
    | none => none

/-- Binds a prefix to a namespace name, or says why it may not be bound to it. -/
def Scope.bind (scope : Scope) (bound uri : String) : Except Cause Scope :=
  if uri = "" && bound != "" then .error .undeclaredPrefix
  else if bound = "xmlns" then .error .reservedXmlnsPrefix
  else if uri.toList.contains '}' then .error .misplacedToken
  else if bound = "xml" && uri != xmlNamespace then .error .reservedXmlPrefix
  else if bound != "xml" && (uri = xmlNamespace || uri = xmlnsNamespace) then
    .error .reservedNamespace
  else .ok ((bound, uri) :: scope)

/-- A local name in a namespace. -/
def expanded (uri name : String) : String :=
  String.ofList ('{' :: uri.toList ++ '}' :: name.toList)

/-- The expanded form of a name with a prefix; none if the prefix is not bound. -/
def Scope.expandPrefixed? (scope : Scope) (bound name : List Char) : Option String :=
  (scope.lookup (String.ofList bound)).map (expanded · (String.ofList name))

/-- The expanded form of an element's name. -/
def Scope.expandTag (scope : Scope) (tag : List Char) : Except Cause String :=
  match cut? ':' tag with
  | some (bound, name) =>
    match scope.expandPrefixed? bound name with
    | some whole => .ok whole
    | none => .error .unboundPrefix
  | none =>
    match scope.lookup "" with
    | some "" | none => .ok (String.ofList tag)
    | some uri => .ok (expanded uri (String.ofList tag))

/-- The expanded form of an attribute's name. Names without a prefix are in no namespace. -/
def Scope.expandAttribute (scope : Scope) (written : List Char) : Except Cause String :=
  match cut? ':' written with
  | some (bound, name) =>
    match scope.expandPrefixed? bound name with
    | some whole => .ok whole
    | none => .error .unboundPrefix
  | none => .ok (String.ofList written)

end SchemaTypes.Xml
