import SchemaTypes.Schema.Grammar
import SchemaTypes.Text.Loose
import SchemaTypes.Xml.Document

/-!
# Reading schemas

A document is read as a schema from its document element. Reading fails for one reason only, that
the document is no schema; what the grammar does not know is left out. A reading leaves lines in the
log: the trace of the match, and at the end what came of it.
-/

namespace SchemaTypes.Schema

/-- The document element is not that of a schema. -/
structure NotSchema where
  /-- The local name of the document element. -/
  root : String
  /-- Where the document comes from. -/
  source : String
  deriving DecidableEq, Repr

/-- The failure in words. -/
def NotSchema.message (failure : NotSchema) : String :=
  "Document root '" ++ failure.root ++ "' in " ++ failure.source ++ " is not an XML schema"

/-- What stands for the source of a document that comes as text. -/
def textSource : String := "<string>"

/-- The node the grammar builds from a document element, if that of a schema. Nothing in the grammar
is left unbound, so matching has no defects. -/
def recognize (config : Config) (root : Element) : Option Node :=
  (Pattern.result (bindings config) (schema config) (some (.root root)) 0).toOption.join

/-- Reads a schema from a document element. -/
def ofElement (config : Config) (source : String) (root : Element) : Except NotSchema Node :=
  match recognize config root with
  | some node => .ok node
  | none => .error ⟨root.localName?.getD "", source⟩

/-- The trace of matching a document element. -/
def trace (config : Config) (root : Element) : List Log.Line :=
  match Pattern.traced (bindings config) (schema config) (some (.root root)) 0 with
  | .ok (_, trace) => trace.lines
  | .error _ => []

/-- The last line of the log: how many types were found, or that there is no schema. -/
def conclusion (source : String) (root : Element) : Except NotSchema Node → Log.Line
  | .ok node =>
    ⟨.info, .reading, "Parsed " ++ toString (node.types.getD []).length ++ " top-level types from "
      ++ source⟩
  | .error _ =>
    ⟨.debug, .grammar, "Document root " ++ (Cursor.root root).label ++ " is not a schema"⟩

/-- Every line that reading a document element leaves in the log. -/
def log (config : Config) (source : String) (root : Element) : List Log.Line :=
  trace config root ++ [conclusion source root (ofElement config source root)]

/-- Why a document gives no schema. -/
inductive Failure where
  /-- The document has no encoding. -/
  | unencodable (halves : Text.LoneHalves)
  /-- The document is malformed. -/
  | malformed (reason : Xml.Malformed)
  /-- The document is something else. -/
  | notSchema (failure : NotSchema)
  deriving DecidableEq

/-- Reads a schema from the text of a document. -/
def ofText (config : Config) (text : String) : Except Failure Node := do
  let root ← (Xml.readText text).mapError .malformed
  (ofElement config textSource root).mapError .notSchema

/-- Reads a schema from a document that may have no encoding. -/
def ofLoose (config : Config) (text : Text.Loose) : Except Failure Node := do
  ofText config (← text.strict.mapError .unencodable)

/-- Every line that reading the text of a document leaves in the log. A document that cannot be read
leaves none. -/
def logOfText (config : Config) (text : String) : List Log.Line :=
  match Xml.readText text with
  | .ok root => log config textSource root
  | .error _ => []

end SchemaTypes.Schema
