import SchemaTypes.Command.Arguments
import SchemaTypes.Command.Help
import SchemaTypes.Text.Numeral

/-!
# Commands

The program understands two commands. One prints a schema or writes it to a file, the other lists
the types of a schema. Arguments that give neither end the program.
-/

namespace SchemaTypes

open Arguments

/-- What is to be done with a schema. -/
inductive Command.Action where
  /-- Print it, or write it to a file. -/
  | parse (output : Option String) (indentation : Int)
  /-- List its types. -/
  | types
  deriving DecidableEq, Repr

/-- What the program is asked to do. -/
structure Command where
  action : Command.Action
  /-- The path of the schema, as it was given. -/
  schema : String
  /-- A prefix in place of the configured one. -/
  namespacePrefix : Option String := none
  /-- Whether the log shows every step. -/
  verbose : Bool := false
  deriving DecidableEq, Repr

namespace Command

/-- The commands of the program. -/
inductive Name where
  | parse
  | types
  deriving DecidableEq, Repr

/-- The word for a command. -/
def Name.word : Name → String
  | .parse => "parse"
  | .types => "types"

/-- Every command, in the order they are listed. -/
def Name.all : List Name := [.parse, .types]

/-- What the arguments have settled so far. -/
structure Settings where
  verbose : Bool := false
  chosen : Option Name := none
  schema : String := ""
  namespacePrefix : Option String := none
  output : Option String := none
  indentation : Int := 2

/-- The option that shows the help. -/
def helpSwitch : Switch Settings := ⟨["-h", "--help"], .help⟩

/-- The option for the whole log. -/
def verboseSwitch : Switch Settings :=
  ⟨["-v", "--verbose"], .flag fun settings => { settings with verbose := true }⟩

/-- The option for another prefix. -/
def prefixSwitch : Switch Settings :=
  ⟨["--namespace-prefix"], .value fun value settings =>
    .ok { settings with namespacePrefix := some value }⟩

/-- The option for a file to write to. -/
def outputSwitch : Switch Settings :=
  ⟨["-o", "--output"], .value fun value settings => .ok { settings with output := some value }⟩

/-- The option for the indentation, which is a whole number. -/
def indentSwitch : Switch Settings :=
  ⟨["--indent"], .value fun value settings =>
    match Text.readInt value with
    | .ok indentation => .ok { settings with indentation }
    | .error _ => .error ("invalid int value: " ++ Text.quoted value)⟩

/-- The operand of every command. -/
def schemaOperand : Operand Settings :=
  .one "schema" fun path settings => { settings with schema := path }

/-- The form of the command that prints a schema. -/
def parseForm : Form Settings where
  command := programName ++ " " ++ Name.parse.word
  usage := parseUsage
  details := parseDetails
  switches := [helpSwitch, prefixSwitch, outputSwitch, indentSwitch]
  operand := schemaOperand

/-- The form of the command that lists types. -/
def typesForm : Form Settings where
  command := programName ++ " " ++ Name.types.word
  usage := typesUsage
  details := typesDetails
  switches := [helpSwitch, prefixSwitch]
  operand := schemaOperand

/-- The form of a command. -/
def Name.form : Name → Form Settings
  | .parse => parseForm
  | .types => typesForm

/-- Reads a command with its own arguments. -/
def readChosen (arguments : List String) (settings : Settings) :
    Except Ending (Settings × List String) :=
  let word := arguments.headD ""
  match Name.all.find? (·.word = word) with
  | some name => name.form.read { settings with chosen := some name } arguments.tail
  | none =>
    .error (refusal programUsage programName
      ("argument command: invalid choice: " ++ Text.quoted word ++ " (choose from "
        ++ ", ".intercalate (Name.all.map fun name => Text.quoted name.word) ++ ")"))

/-- The form of the program. -/
def programForm : Form Settings where
  command := programName
  usage := programUsage
  details := programDetails
  switches := [helpSwitch, verboseSwitch]
  operand := .rest readChosen

/-- The command that settled arguments ask for. -/
def ofSettings (settings : Settings) : Option Command :=
  let command (action : Action) : Command :=
    ⟨action, settings.schema, settings.namespacePrefix, settings.verbose⟩
  settings.chosen.map fun
    | .parse => command (.parse settings.output settings.indentation)
    | .types => command .types

/-- Reads the arguments of the program. Without a command it shows its help and fails. -/
def ofArguments (arguments : List String) : Except Ending Command := do
  let settings ← programForm.readAll {} arguments
  match ofSettings settings with
  | some command => return command
  | none => throw { status := 1, output := programForm.help }

end Command

end SchemaTypes
