/-!
# Log lines

A log line has a level, the part of the program that speaks, and a text. Lines are data: whoever
runs an operation decides which lines to show and in which layout.
-/

namespace SchemaTypes

/-- How much a log line matters. -/
inductive Log.Level where
  | debug
  | info
  | warning
  | error
  deriving DecidableEq, Repr

/-- The part of the program a log line comes from. -/
inductive Log.Channel where
  /-- Matching patterns against a tree. -/
  | matching
  /-- The schema grammar. -/
  | grammar
  /-- Reading a whole document under a configuration. -/
  | reading
  /-- The network service. -/
  | service
  deriving DecidableEq, Repr

/-- One line of the log. -/
structure Log.Line where
  level : Log.Level
  channel : Log.Channel
  text : String
  deriving DecidableEq, Repr

namespace Log

/-- A level as it is written in front of a line. -/
def Level.label : Level → String
  | .debug => "DEBUG"
  | .info => "INFO"
  | .warning => "WARNING"
  | .error => "ERROR"

/-- Levels in increasing order of importance. -/
def Level.rank : Level → Nat
  | .debug => 0
  | .info => 1
  | .warning => 2
  | .error => 3

/-- A channel's name in the log. -/
def Channel.label : Channel → String
  | .matching => "parsing"
  | .grammar => "grammar"
  | .reading => "xsd_parser"
  | .service => "app"

/-- The program's name in front of its channels. -/
def programLabel : String := "xsd_ast"

/-- The short layout: level, channel and text. -/
def Line.brief (line : Line) : String :=
  line.level.label ++ " " ++ line.channel.label ++ ": " ++ line.text

/-- The long layout: program and channel, level and text, between dashes. -/
def Line.full (line : Line) : String :=
  programLabel ++ "." ++ line.channel.label ++ " - " ++ line.level.label ++ " - " ++ line.text

/-- The lines at or above a level. -/
def atLeast (level : Level) (lines : List Line) : List Line :=
  lines.filter fun line => level.rank ≤ line.level.rank

end Log

end SchemaTypes
