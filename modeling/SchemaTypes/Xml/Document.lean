import SchemaTypes.Xml.Content
import SchemaTypes.Xml.Doctype
import SchemaTypes.Xml.Encoding

/-!
# Documents

A document is a prolog, one element, and what may follow it. Text that arrives as characters is read
as it stands, whatever encoding it declares; stored bytes are decoded as they declare.
-/

namespace SchemaTypes.Xml

open Doctype

/-- Why a stored document cannot be read. -/
inductive ReadError where
  | malformed (reason : Malformed)
  /-- The declared encoding is not known. -/
  | unknownEncoding (name : String)
  /-- The declared encoding is not one of characters. -/
  | transformEncoding (name : String)
  /-- The declared encoding takes several bytes for a character and is not a Unicode one. -/
  | multiByteEncoding
  /-- The declared encoding cannot be tried on bytes. -/
  | refusedEncoding (name : String) (refusal : Charset.Refusal)
  deriving DecidableEq

/-- The reason in words. -/
def ReadError.message : ReadError → String
  | .malformed reason => reason.message
  | .unknownEncoding name => "unknown encoding: " ++ name
  | .transformEncoding name =>
    "'" ++ name ++ "' is not a text encoding; use codecs.decode() to handle arbitrary codecs"
  | .multiByteEncoding => "multi-byte encodings are not supported"
  | .refusedEncoding name refusal => refusal.message name

namespace Scan

/-- Reads the declaration at the beginning of a document, if there is one, and the byte order mark
in front of it. -/
def documentDeclaration : Scan (Option Declaration) := do
  if (← peek?) = some '\uFEFF' then skip
  let place ← get
  match place.rest with
  | '<' :: '?' :: 'x' :: 'm' :: 'l' :: _ =>
    match ← Doctype.Scan.token? with
    | some (.xmlDeclaration position body) =>
      return some (← (Declaration.ofBody body position : Except Error Declaration))
    | _ =>
      set place
      return none
  | _ => return none

/-- Reads the prolog up to the document element, and what it declares. -/
def prolog (standalone : Bool) : Scan Context := do
  let doctype? ← iterate (fun (doctype? : Option Doctype) => do
    match ← Doctype.Scan.token?, doctype? with
    | none, _ => failHere .noElement
    | some .space, _ | some .comment, _ | some .instruction, _ => return .inl doctype?
    | some .element, _ => return .inr doctype?
    | some (.opening keyword), none =>
      if keyword != "DOCTYPE".toList then Doctype.Scan.unexpected (.opening keyword)
      return .inl (some (← Doctype.declaration standalone))
    | some found, _ => Doctype.Scan.unexpected found) none
  match doctype? with
  | some doctype => return ⟨doctype.entityTable, doctype.defaults⟩
  | none => return ⟨{}, []⟩

/-- Reads what follows the document element. -/
def epilog : Scan Unit :=
  iterate (fun () => do
    match ← Doctype.Scan.token? with
    | none => return .inr ()
    | some .space | some .comment | some .instruction => return .inl ()
    | some _ => failAt .junkAfterDocument (← get).start) ()

/-- Reads a document behind its declaration. -/
def behindDeclaration (standalone : Bool) : Scan Element := do
  let context ← prolog standalone
  let root ← context.documentElement
  epilog
  return root

/-- Reads a whole document. -/
def document : Scan Element := do
  let declaration? ← documentDeclaration
  behindDeclaration (declaration?.any (·.standalone))

end Scan

/-- The place in front of a source. -/
def Source.place (source : Source) : Place := .of source.text source.ending source.alphabet

/-- Runs a scan over a source, with positions worked out in errors. -/
def Source.run {α : Type} (source : Source) (scan : Scan α) : Except Malformed (α × Place) :=
  (scan.run source.place).mapError (·.inText source.text)

/-- The error of bytes that are too few to show their encoding. -/
def undecided : Malformed := ⟨.unclosedToken, ⟨1, 0⟩⟩

/-- The source bytes in one encoding decode to. -/
def Source.ofBytes (encoding : Encoding) (bytes : List UInt8) : Source :=
  let (text, ending) := encoding.decode bytes
  ⟨text, ending, encoding.alphabet⟩

/-- A document whose declaration was read. -/
structure Opened where
  /-- The characters that positions are counted in. -/
  text : List Char
  /-- The place behind the declaration. -/
  place : Place
  standalone : Bool

/-- A document that goes on in the declared encoding. In another encoding than the one the bytes
were found to be in, each byte read before counts as a character. -/
def Opened.redecode (opened : Opened) (found declared : Encoding) (bytes : List UInt8) : Opened :=
  let markBytes := if found = .utf8 then 2 else 0
  let mark := if opened.text.head? = some '\uFEFF' then markBytes else 0
  let read := opened.place.offset * found.unitSize + mark
  let before := if declared = found then opened.text.take opened.place.offset
    else (bytes.take read).map fun byte => Char.ofNat byte.toNat
  let (text, ending) := declared.decode (bytes.drop read)
  { opened with
    text := before ++ text
    place := { Place.of text ending declared.alphabet with offset := before.length } }

/-- A document of stored bytes behind its declaration, decoded as that says. Only an encoding with
code units of its own has to agree with the one the bytes were found to be in. -/
def Opened.ofStored (bytes : List UInt8) : Except ReadError Opened := do
  let some found := Encoding.detect? bytes | throw (.malformed undecided)
  let source := Source.ofBytes found bytes
  let (declaration?, place) ← (source.run Scan.documentDeclaration).mapError .malformed
  let opened : Opened := ⟨source.text, place, declaration?.any (·.standalone)⟩
  match declaration?.bind (·.encoding?) with
  | none => return opened
  | some (name, position) =>
    let refused (cause : Cause) : ReadError :=
      .malformed (Error.inText ⟨cause, position⟩ source.text)
    match Encoding.ofName name found.unitSize with
    | .asFound => return opened
    | .multiByte => throw .multiByteEncoding
    | .foreign => throw (refused .unknownEncoding)
    | .transform => throw (.transformEncoding name)
    | .refused refusal => throw (.refusedEncoding name refusal)
    | .unknown => throw (.unknownEncoding name)
    | .encoding declared =>
      if declared.contradicts found then throw (refused .contradictedEncoding)
      return opened.redecode found declared bytes

/-- Reads a document from characters. -/
def readText (text : String) : Except Malformed Element := do
  let bytes := text.toUTF8.toList
  let some found := Encoding.detect? bytes | throw undecided
  let (root, _) ← (Source.ofBytes found bytes).run Scan.document
  return root

/-- Reads a document from stored bytes. -/
def readStored (bytes : ByteArray) : Except ReadError Element := do
  let opened ← Opened.ofStored bytes.toList
  let (root, _) ← ((Scan.behindDeclaration opened.standalone).run opened.place).mapError
    fun error => .malformed (error.inText opened.text)
  return root

end SchemaTypes.Xml
