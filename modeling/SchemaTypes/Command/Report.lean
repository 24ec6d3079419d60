import SchemaTypes.Command
import SchemaTypes.Json.Layout
import SchemaTypes.Node.Wire
import SchemaTypes.Path
import SchemaTypes.Schema.Reading
import SchemaTypes.Text.Blank

/-!
# Reports

A command is carried out on what stands at the path of the schema. The report says what the program
writes and with which status it ends. Most of what can go wrong is told to the user; what is not is
a breakdown, after which the program ends without a report.
-/

namespace SchemaTypes.Command

open Arguments

/-- What the program does not recover from. -/
inductive Breakdown where
  /-- A file cannot be opened. -/
  | file (path : String) (obstacle : Path.Obstacle)
  /-- The schema declares an encoding that it cannot be in. -/
  | encoding (error : Xml.ReadError)
  /-- The indentation is larger than any text. -/
  | indentation
  deriving DecidableEq

/-- The breakdown in words. -/
def Breakdown.message : Breakdown → String
  | .file path obstacle => obstacle.message path
  | .encoding error => error.message
  | .indentation => "cannot fit 'int' into an index-sized integer"

/-- What the program does at its end. -/
structure Report where
  ending : Ending
  /-- A file to be written before that, and its new text. -/
  writes : Option (String × String) := none

/-- The mark in front of good news. -/
def doneMark : String := "✓ "

/-- The mark in front of bad news. -/
def failedMark : String := "✗ "

/-- The configuration of a command: the one from the setting, with the command's own prefix unless
that is empty. -/
def configFor (command : Command) (setting : Option String) : Config :=
  let config := (Config.readOptional setting).1
  match command.namespacePrefix with
  | none | some "" => config
  | some other => { config with namespacePrefix := other }

/-- Log lines as the program writes them, those that matter for a command. -/
def showLog (command : Command) (lines : List Log.Line) : String :=
  joinLines ((Log.atLeast (if command.verbose then .debug else .info) lines).map (·.full))

/-- The line for a type: its kind and, if it has one, its name. -/
def typeLine (type : Node) : String :=
  String.ofList (Text.stripRight (type.kind ++ " " ++ type.name.getD "").toList)

/-- The report on bad news. -/
def failed (log news : String) : Report :=
  { ending := { status := 1, errors := log ++ failedMark ++ news ++ "\n" } }

/-- The greatest number of blanks that a text can hold. -/
def maxIndentation : Int := 9223372036854775807

/-- The report on a schema that was read. -/
def reportSchema (command : Command) (log : String) (schema : Node) : Except Breakdown Report :=
  match command.action with
  | .types =>
    .ok { ending := ⟨0, joinLines ((schema.types.getD []).map typeLine), log⟩ }
  | .parse output indentation =>
    if maxIndentation < indentation ∨ indentation < -maxIndentation - 1 then .error .indentation
    else
      let text := schema.toJson.layOut (.ofIndentation indentation) ++ "\n"
      match output with
      | none | some "" => .ok { ending := ⟨0, text, log⟩ }
      | some path =>
        let count := toString (schema.types.getD []).length
        let news := doneMark ++ "Wrote " ++ count ++ " types to: " ++ path ++ "\n"
        .ok { ending := ⟨0, news, log⟩, writes := some (path, text) }

/-- Carries out a command on the bytes of a schema. -/
def reportBytes (command : Command) (config : Config) (warnings : List Log.Line)
    (bytes : ByteArray) : Except Breakdown Report :=
  match Xml.readStored bytes with
  | .error (.malformed reason) =>
    .ok (failed (command.showLog warnings)
      ("Malformed XML in " ++ command.schema ++ ": " ++ reason.message))
  | .error (.unknownEncoding name) => .error (.encoding (.unknownEncoding name))
  | .error (.transformEncoding name) => .error (.encoding (.transformEncoding name))
  | .error error => .ok (failed (command.showLog warnings) error.message)
  | .ok root =>
    let source := Path.normalized command.schema
    let log := command.showLog (warnings ++ Schema.log config source root)
    match Schema.ofElement config source root with
    | .error failure => .ok (failed log failure.message)
    | .ok schema => reportSchema command log schema

/-- Carries out a command, given the setting for the configuration and what stands at the path of
the schema. -/
def report (command : Command) (setting : Option String)
    (found : Except Path.Obstacle ByteArray) : Except Breakdown Report :=
  let warnings := (Config.readOptional setting).2.map Config.Warning.line
  match found with
  | .ok bytes => reportBytes command (command.configFor setting) warnings bytes
  | .error .missing =>
    .ok (failed (command.showLog warnings) ("Schema not found: " ++ command.schema))
  | .error .zeroCharacter =>
    .ok (failed (command.showLog warnings) (Path.Obstacle.zeroCharacter.message command.schema))
  | .error obstacle => .error (.file command.schema obstacle)

end SchemaTypes.Command
