import SchemaTypes.Xml.Scan

/-!
# The XML declaration

The declaration at the beginning of a document names its version, then perhaps its encoding, then
perhaps whether it stands alone, each as `name="value"` after white space. Values hold ASCII letters
and digits, dots, dashes and underscores only.
-/

namespace SchemaTypes.Xml

/-- What a declaration says that matters for reading the document. -/
structure Declaration where
  /-- The name of the encoding and where it stands. -/
  encoding? : Option (String × Nat)
  standalone : Bool
  deriving DecidableEq, Repr

namespace Declaration

/-- One item of a declaration. -/
structure Item where
  name : List Char
  nameOffset : Nat
  value : List Char
  valueOffset : Nat

/-- Characters a value may hold. -/
def isValueChar (c : Char) : Bool := c.isAlphanum || c = '.' || c = '-' || c = '_'

/-- Reads the next item, none at the end of the declaration. -/
def item : Scan (Option Item) := do
  let begin ← get
  if begin.rest.isEmpty then return none
  if !isSpace (← Scan.peek) then Scan.invalid
  Scan.skipSpaces
  if (← Scan.peek?).isNone then
    set begin
    return none
  let nameOffset ← Scan.offset
  let name ← Scan.takeWhile fun c => c != '=' && !isSpace c && c.toNat < 0x80
  Scan.skipSpaces
  if name.isEmpty then Scan.invalid
  Scan.expect '='
  Scan.skipSpaces
  let quote ← Scan.peek
  if quote != '"' && quote != '\'' then Scan.invalid
  Scan.skip
  let valueOffset ← Scan.offset
  let value ← Scan.takeWhile isValueChar
  Scan.expect quote
  return some ⟨name, nameOffset, value, valueOffset⟩

/-- The declaration whose items follow the word `xml`. -/
def items : Scan Declaration := do
  let some version ← item | Scan.invalid
  if version.name != "version".toList then Scan.failAt .malformedDeclaration version.nameOffset
  let some second ← item | return ⟨none, false⟩
  let (encoding?, third?) ←
    if second.name = "encoding".toList then do
      if !(second.value.head?.any Char.isAlpha) then
        Scan.failAt .malformedDeclaration second.valueOffset
      pure (some (String.ofList second.value, second.valueOffset), ← item)
    else pure (none, some second)
  let some last := third? | return ⟨encoding?, false⟩
  if last.name != "standalone".toList then Scan.failAt .malformedDeclaration last.nameOffset
  let standalone := last.value = "yes".toList
  if !standalone && last.value != "no".toList then
    Scan.failAt .malformedDeclaration last.valueOffset
  Scan.skipSpaces
  if (← Scan.peek?).isSome then Scan.invalid
  return ⟨encoding?, standalone⟩

/-- Reads a declaration from the characters after the word `xml`, which stand at an offset. Every
error is one of form and shows at the offending item. -/
def ofBody (body : List Char) (position : Nat) : Except Error Declaration :=
  match items.run { Place.of body .complete .strict with offset := position } with
  | .ok (declaration, _) => .ok declaration
  | .error error =>
    let shown := if error.cause = .unclosedToken then position + body.length else error.offset
    .error ⟨.malformedDeclaration, shown⟩

end Declaration

end SchemaTypes.Xml
