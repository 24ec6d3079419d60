import SchemaTypes.Text.Digit
import SchemaTypes.Text.Quoted
import SchemaTypes.Text.Split

/-!
# Command line arguments

A form says which options a command understands and what its operand is. Options come before, behind
and between operands. A long option may be cut short as long as it stays the only one of its
beginning, its value stands behind an equals sign or in the next argument, and short options without
a value may share one dash. Two dashes alone make everything behind them an operand.

Reading runs in two passes: first each argument is sighted on its own, then options and operands
take effect in order. It stops at the first argument that cannot be used, or at a call for help.
-/

namespace SchemaTypes.Arguments

open SchemaTypes.Text

/-- How the program ends: its exit status and what it writes. -/
structure Ending where
  status : Nat
  output : String := ""
  errors : String := ""
  deriving DecidableEq, Repr

variable {Settings : Type}

/-- What an option does. -/
inductive Effect (Settings : Type) where
  /-- Shows the help and ends the program. -/
  | help
  /-- Changes the settings. -/
  | flag (change : Settings → Settings)
  /-- Takes a value, which it may refuse. -/
  | value (change : String → Settings → Except String Settings)

/-- An option with its spellings. -/
structure Switch (Settings : Type) where
  names : List String
  effect : Effect Settings

/-- Whether an option takes a value. -/
def Switch.takesValue (switch : Switch Settings) : Bool :=
  match switch.effect with
  | .value _ => true
  | _ => false

/-- What arguments that are no options are for. -/
inductive Operand (Settings : Type) where
  /-- One argument that has to be there. -/
  | one (name : String) (change : String → Settings → Settings)
  /-- An argument with everything behind it, options included. What is not understood there is given
  back. -/
  | rest (run : List String → Settings → Except Ending (Settings × List String))

/-- What a command understands. -/
structure Form (Settings : Type) where
  /-- The name of the command in messages. -/
  command : String
  /-- The summary in front of messages. -/
  usage : String
  /-- The help behind the summary. -/
  details : String
  switches : List (Switch Settings)
  operand : Operand Settings

/-- The ending of a command that refuses its arguments. -/
def refusal (usage command message : String) : Ending where
  status := 2
  errors := usage ++ command ++ ": error: " ++ message ++ "\n"

namespace Form

/-- The help of a form. -/
def help (form : Form Settings) : String := form.usage ++ "\n" ++ form.details

/-- Ends the reading because of the arguments as a whole. -/
def refuse {α : Type} (form : Form Settings) (message : String) : Except Ending α :=
  .error (refusal form.usage form.command message)

/-- Ends the reading because of one option. -/
def refuseSwitch {α : Type} (form : Form Settings) (switch : Switch Settings) (message : String) :
    Except Ending α :=
  form.refuse ("argument " ++ "/".intercalate switch.names ++ ": " ++ message)

/-- Every spelling of an option, in order. -/
def spellings (form : Form Settings) : List (String × Switch Settings) :=
  form.switches.flatMap fun switch => switch.names.map (·, switch)

end Form

/-- A value that stands in the same argument as its option. -/
structure Attached where
  /-- Whether an equals sign stands between the two. -/
  equals : Bool
  text : List Char

/-- What an argument looks like on its own. -/
inductive Sighting (Settings : Type) where
  /-- Two dashes alone. -/
  | separator
  | operand
  /-- An option that the form does not know. -/
  | unknown
  | switch (switch : Switch Settings) (spelling : String) (attached : Option Attached)

/-- Whether an argument has the form of an option. -/
def Sighting.isOption : Sighting Settings → Bool
  | .unknown | .switch .. => true
  | _ => false

/-- Whether an argument has the form of an operand. -/
def Sighting.isOperand : Sighting Settings → Bool
  | .operand => true
  | _ => false

/-- Whether an argument consists of two dashes alone. -/
def Sighting.isSeparator : Sighting Settings → Bool
  | .separator => true
  | _ => false

/-- Whether a text is digits of any script, one at least. -/
def isDigits (text : List Char) : Bool :=
  !text.isEmpty && text.all fun c => (digitValue? c).isSome

/-- Whether a text behind a dash makes it a negative number, with or without a point. -/
def isUnsignedNumber (text : List Char) : Bool :=
  match cut? '.' text with
  | none => isDigits text
  | some (whole, fraction) => (whole.isEmpty || isDigits whole) && isDigits fraction

/-- Whether an argument is a negative number. One line feed at its end does not count. -/
def isNegativeNumber : List Char → Bool
  | '-' :: text =>
    isUnsignedNumber text || (text.getLast? == some '\n' && isUnsignedNumber text.dropLast)
  | _ => false

namespace Form

/-- The options an argument may stand for that is not spelled like any of them: those of which it is
the beginning, up to an equals sign, or the short one it begins with. -/
def candidates (form : Form Settings) (argument : List Char) :
    List (String × Switch Settings × Option Attached) :=
  match argument with
  | '-' :: '-' :: _ =>
    let (start, attached) : List Char × Option Attached := match cut? '=' argument with
      | some (start, text) => (start, some ⟨true, text⟩)
      | none => (argument, none)
    (form.spellings.filter fun (name, _) => start.isPrefixOf name.toList).map
      fun (name, switch) => (name, switch, attached)
  | _ =>
    (form.spellings.filter fun (name, _) => name.toList = argument.take 2).map
      fun (name, switch) => (name, switch, some ⟨false, argument.drop 2⟩)

/-- What an argument in front of the first separator looks like. -/
def sight (form : Form Settings) (argument : String) : Except Ending (Sighting Settings) :=
  let chars := argument.toList
  if chars.head? ≠ some '-' then .ok .operand
  else match form.spellings.lookup argument with
  | some switch => .ok (.switch switch argument none)
  | none =>
    if chars.length = 1 then .ok .operand
    else
      let spelled := (cut? '=' chars).bind fun (name, text) =>
        (form.spellings.lookup (String.ofList name)).map fun switch =>
          Sighting.switch switch (String.ofList name) (some ⟨true, text⟩)
      match spelled, form.candidates chars with
      | some found, _ => .ok found
      | none, [(name, switch, attached)] => .ok (.switch switch name attached)
      | none, [] =>
        if isNegativeNumber chars || chars.contains ' ' then .ok .operand else .ok .unknown
      | none, several =>
        form.refuse ("ambiguous option: " ++ argument ++ " could match "
          ++ ", ".intercalate (several.map (·.1)))

/-- What each argument looks like. Behind the first separator there are only operands. -/
def sightAll (form : Form Settings) :
    List String → Except Ending (List (Sighting Settings × String))
  | [] => .ok []
  | argument :: rest =>
    if argument = "--" then .ok ((.separator, argument) :: rest.map (.operand, ·))
    else do
      let sighting ← form.sight argument
      let sightings ← form.sightAll rest
      return (sighting, argument) :: sightings

/-- What one argument with options asks for. -/
structure Demand (Settings : Type) where
  /-- The options, each with its value if it takes one. -/
  uses : List (Switch Settings × String)
  /-- What is no option of the form. -/
  unknown : List String := []
  /-- Whether the next argument is taken as a value. -/
  takesNext : Bool := false

/-- Works out what an argument with options asks for, given the argument behind it if that is an
operand. An option without a value may be followed by more short options behind the same dash. -/
def demand (form : Form Settings) (switch : Switch Settings) (spelling : String)
    (attached : Option Attached) (next : Option String) : Except Ending (Demand Settings) :=
  match attached with
  | none =>
    if switch.takesValue then
      match next with
      | some value => .ok ⟨[(switch, value)], [], true⟩
      | none => form.refuseSwitch switch "expected one argument"
    else .ok ⟨[(switch, "")], [], false⟩
  | some ⟨equals, text⟩ =>
    let ignored {α : Type} : Except Ending α :=
      form.refuseSwitch switch ("ignored explicit argument " ++ quoted (String.ofList text))
    if switch.takesValue then .ok ⟨[(switch, String.ofList text)], [], false⟩
    else if "--".toList.isPrefixOf spelling.toList then ignored
    else match text with
    | [] => ignored
    | c :: rest =>
      if equals || c = '-' then ignored
      else
        let name := String.ofList ['-', c]
        match form.spellings.lookup name with
        | none => .ok ⟨[(switch, "")], [String.ofList ('-' :: c :: rest)], false⟩
        | some other => do
          let others ← match rest with
            | [] => form.demand other name none next
            | '=' :: value => form.demand other name (some ⟨true, value⟩) next
            | more => form.demand other name (some ⟨false, more⟩) next
          return { others with uses := (switch, "") :: others.uses }
termination_by (attached.map fun attached => attached.text.length + 1).getD 0
decreasing_by all_goals simp_all

/-- Lets an option take effect. -/
def use (form : Form Settings) (settings : Settings) (switch : Switch Settings) (value : String) :
    Except Ending Settings :=
  match switch.effect with
  | .help => .error { status := 0, output := form.help }
  | .flag change => .ok (change settings)
  | .value change =>
    match change value settings with
    | .ok settings => .ok settings
    | .error message => form.refuseSwitch switch message

/-- How far a reading has come. -/
structure Progress (Settings : Type) where
  settings : Settings
  /-- Whether the operand is still to come. -/
  awaitsOperand : Bool := true
  /-- Arguments that were not understood, in order. -/
  unknown : List String := []

/-- Takes the operand from the beginning of the arguments, if it is still to come and stands there.
Gives back how many arguments it takes. -/
def takeOperand (form : Form Settings) (progress : Progress Settings)
    (arguments : List (Sighting Settings × String)) :
    Except Ending (Option (Progress Settings × Nat)) :=
  let isSeparator (argument : Sighting Settings × String) := argument.1.isSeparator
  let before := arguments.takeWhile isSeparator
  match arguments.dropWhile isSeparator with
  | (.operand, text) :: behind =>
    if progress.awaitsOperand then
      match form.operand with
      | .one _ change =>
        let settings := change text progress.settings
        .ok (some ({ progress with settings, awaitsOperand := false },
          before.length + 1 + (behind.takeWhile isSeparator).length))
      | .rest run => do
        let (settings, unknown) ← run (arguments.map (·.2)) progress.settings
        return some (⟨settings, false, progress.unknown ++ unknown⟩, arguments.length)
    else .ok none
  | _ => .ok none

/-- Lets the arguments take effect in order. -/
def advance (form : Form Settings) (progress : Progress Settings)
    (arguments : List (Sighting Settings × String)) : Except Ending (Progress Settings) :=
  let isOption (argument : Sighting Settings × String) := argument.1.isOption
  match arguments with
  | [] => .ok progress
  | (.unknown, text) :: rest =>
    form.advance { progress with unknown := progress.unknown ++ [text] } rest
  | (.switch switch spelling attached, _) :: rest => do
    let next := (rest.head?.filter (·.1.isOperand)).map (·.2)
    let demand ← form.demand switch spelling attached next
    let settings ← demand.uses.foldlM (fun settings (switch, value) =>
      form.use settings switch value) progress.settings
    form.advance { progress with settings, unknown := progress.unknown ++ demand.unknown }
      (rest.drop (if demand.takesNext then 1 else 0))
  | first :: rest => do
    match ← form.takeOperand progress (first :: rest) with
    | some (progress, taken) => form.advance progress (rest.drop (taken - 1))
    | none =>
      let skipped := first :: rest.takeWhile fun argument => !isOption argument
      form.advance { progress with unknown := progress.unknown ++ skipped.map (·.2) }
        (rest.dropWhile fun argument => !isOption argument)
termination_by arguments.length
decreasing_by
  all_goals simp only [List.length_cons, List.length_drop]
  all_goals try omega
  exact Nat.lt_succ_of_le (List.dropWhile_suffix _).length_le

/-- Reads arguments into settings, and gives back those that were not understood. -/
def read (form : Form Settings) (settings : Settings) (arguments : List String) :
    Except Ending (Settings × List String) := do
  let progress ← form.advance { settings } (← form.sightAll arguments)
  match form.operand with
  | .one name _ =>
    if progress.awaitsOperand then
      form.refuse ("the following arguments are required: " ++ name)
    else return (progress.settings, progress.unknown)
  | .rest _ => return (progress.settings, progress.unknown)

/-- Reads arguments all of which have to be understood. -/
def readAll (form : Form Settings) (settings : Settings) (arguments : List String) :
    Except Ending Settings := do
  let (settings, unknown) ← form.read settings arguments
  if unknown.isEmpty then return settings
  else form.refuse ("unrecognized arguments: " ++ " ".intercalate unknown)

end Form

end SchemaTypes.Arguments
