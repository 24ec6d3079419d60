import SchemaTypes.Command.Report

/-!
# The program

Reads the arguments, carries out the command they ask for on the file they name, and writes what the
report says. Everything else is decided by the report.
-/

namespace SchemaTypes.Program

/-- The environment variable that holds the configuration. -/
def settingName : String := "XSD_AST_PARSER_CONFIG"

/-- The obstacle an error of the operating system stands for, if it is one of them. -/
def obstacleOf? : IO.Error → Option Path.Obstacle
  | .noFileOrDirectory .. => some .missing
  | .inappropriateType _ code _ => some (if code = 21 then .folder else .notFolder)
  | .invalidArgument .. => some .zeroCharacter
  | _ => none

/-- Does something with the file at a path, or finds what stands in the way. -/
def attempt {α : Type} (path : String) (action : String → IO α) :
    IO (Except Path.Obstacle α) := do
  try
    return .ok (← action (Path.normalized path))
  catch error =>
    match obstacleOf? error with
    | some obstacle => return .error obstacle
    | none => throw error

/-- Ends the program on what it does not recover from. -/
def breakDown {α : Type} (breakdown : Command.Breakdown) : IO α :=
  throw (.userError breakdown.message)

/-- Writes what the program says at its end, and gives its status. -/
def finish (ending : Arguments.Ending) : IO UInt32 := do
  IO.eprint ending.errors
  IO.print ending.output
  return UInt32.ofNat ending.status

/-- Carries out a command. -/
def run (command : Command) : IO UInt32 := do
  let found ← attempt command.schema fun path => IO.FS.readBinFile path
  match command.report (← IO.getEnv settingName) found with
  | .error breakdown => breakDown breakdown
  | .ok report =>
    if let some (path, text) := report.writes then
      if let .error obstacle ← attempt path fun path => IO.FS.writeFile path text then
        breakDown (.file path obstacle)
    finish report.ending

end SchemaTypes.Program

/-- Runs the program. -/
def main (arguments : List String) : IO UInt32 :=
  match SchemaTypes.Command.ofArguments arguments with
  | .error ending => SchemaTypes.Program.finish ending
  | .ok command => SchemaTypes.Program.run command
