import SchemaTypes.Log
import SchemaTypes.Overrides
import SchemaTypes.Text.Blank
import SchemaTypes.Text.Numeral
import SchemaTypes.Text.Split

/-!
# Configuration

A configuration says which prefix the schema uses for its own namespace, which types have an
override, and how deep patterns may nest. Its text form is a list of `key=value` settings between
commas. Each setting is read on its own: one that cannot be used leaves a warning and changes
nothing, so configurations compose from left to right.
-/

namespace SchemaTypes

open SchemaTypes.Text

/-- How to read schemas. -/
structure Config where
  /-- The prefix the schema uses for its own namespace. -/
  namespacePrefix : String := "xs"
  /-- Types with a generated type of the user's choice. -/
  overrides : Overrides := .empty
  /-- The nesting depth beyond which recursion stops. -/
  maxDepth : Int := 500
  deriving DecidableEq, Inhabited

namespace Config

/-- Why a setting was not used. -/
inductive Warning where
  /-- A prefix cannot be empty. -/
  | emptyPrefix
  /-- A depth is a whole number. -/
  | nonIntegerDepth (value : String)
  /-- No setting has this key. -/
  | unknownKey (key : String)
  deriving DecidableEq, Repr

/-- The warning as the log shows it. -/
def Warning.message : Warning → String
  | .emptyPrefix => "Ignoring empty value for parser config key 'namespace_prefix'"
  | .nonIntegerDepth value => "Ignoring non-integer max_depth '" ++ value ++ "'"
  | .unknownKey key => "Ignoring unknown parser config key '" ++ key ++ "'"

/-- The log line of a warning. -/
def Warning.line (warning : Warning) : Log.Line := ⟨.warning, .reading, warning.message⟩

/-- What one part of a configuration text asks for. -/
inductive Setting where
  | namespacePrefix (value : String)
  | maxDepth (value : Int)
  | override (name target : String)
  | refused (warning : Warning)
  deriving DecidableEq, Repr

/-- The words in front of the name in the key of an override. -/
def overridePrefix : List Char := "type.".toList

/-- The setting a key and a value stand for, both without surrounding blanks. -/
def Setting.ofPair (key value : List Char) : Setting :=
  if overridePrefix.isPrefixOf key then
    .override (String.ofList (key.drop overridePrefix.length)) (String.ofList value)
  else if key = "namespace_prefix".toList then
    if value = [] then .refused .emptyPrefix else .namespacePrefix (String.ofList value)
  else if key = "max_depth".toList then
    match readInt (String.ofList value) with
    | .ok depth => .maxDepth depth
    | .error _ => .refused (.nonIntegerDepth (String.ofList value))
  else .refused (.unknownKey (String.ofList key))

/-- The setting written in one part of a configuration text; none without an equals sign. -/
def Setting.ofText? (part : List Char) : Option Setting :=
  (cut? '=' part).map fun (key, value) => .ofPair (strip key) (strip value)

/-- The settings of a configuration text, in order. -/
def settings (text : List Char) : List Setting :=
  (splitFields ',' text).filterMap Setting.ofText?

/-- The configuration with a setting applied. -/
def apply (config : Config) : Setting → Config
  | .namespacePrefix value => { config with namespacePrefix := value }
  | .maxDepth value => { config with maxDepth := value }
  | .override name target => { config with overrides := config.overrides.insert name target }
  | .refused _ => config

/-- The warning a setting carries. -/
def Setting.warning? : Setting → Option Warning
  | .refused warning => some warning
  | _ => none

/-- Reads a configuration and the warnings about what it could not use. -/
def read (text : String) : Config × List Warning :=
  let found := settings text.toList
  (found.foldl apply {}, found.filterMap Setting.warning?)

/-- Reads a configuration that may be missing altogether. -/
def readOptional (text : Option String) : Config × List Warning := read (text.getD "")

/-- A text that determines the configuration's meaning, with overrides in a fixed order. -/
def fingerprint (config : Config) : String :=
  let pairs := config.overrides.sorted.map fun (name, target) => name ++ "=" ++ target
  "namespace_prefix=" ++ config.namespacePrefix ++ ";max_depth=" ++ showInt config.maxDepth ++ ";"
    ++ ",".intercalate pairs

/-- Settings of a text joined by a comma are the settings of its parts, in order. -/
theorem settings_append (left right : List Char) :
    settings (left ++ ',' :: right) = settings left ++ settings right := by
  simp [settings, splitFields_append]

end Config

end SchemaTypes
