/-!
# Help texts

The summaries and the help of the commands, laid out for lines of 80 characters.
-/

namespace SchemaTypes.Command

/-- Lines, each with its end. -/
def joinLines (lines : List String) : String := String.join (lines.map (· ++ "\n"))

/-- The name of the program. -/
def programName : String := "xsd-ast"

/-- The summary of the program. -/
def programUsage : String :=
  joinLines ["usage: xsd-ast [-h] [-v] \x7bparse,types\x7d ..."]

/-- The help of the program. -/
def programDetails : String :=
  joinLines [
    "Translate XML Schema definitions into a type AST",
    "",
    "positional arguments:",
    "  \x7bparse,types\x7d  Available commands",
    "    parse        Translate a schema and print its AST as JSON",
    "    types        List the top-level types found in a schema",
    "",
    "options:",
    "  -h, --help     show this help message and exit",
    "  -v, --verbose  Enable verbose logging (includes the combinator trace)"]

/-- The summary of the command that prints a schema. -/
def parseUsage : String :=
  joinLines [
    "usage: xsd-ast parse [-h] [--namespace-prefix NAMESPACE_PREFIX] [-o OUTPUT]",
    "                     [--indent INDENT]",
    "                     schema"]

/-- The help on what every command takes. -/
def schemaDetails : List String := [
  "positional arguments:",
  "  schema                Path to the XSD file",
  "",
  "options:",
  "  -h, --help            show this help message and exit",
  "  --namespace-prefix NAMESPACE_PREFIX",
  "                        Prefix bound to the XML Schema namespace (default: xs)"]

/-- The help of the command that prints a schema. -/
def parseDetails : String :=
  joinLines (schemaDetails ++ [
    "  -o OUTPUT, --output OUTPUT",
    "                        Write JSON to this file instead of stdout",
    "  --indent INDENT       JSON indentation, 0 for compact output (default: 2)"])

/-- The summary of the command that lists types. -/
def typesUsage : String :=
  joinLines ["usage: xsd-ast types [-h] [--namespace-prefix NAMESPACE_PREFIX] schema"]

/-- The help of the command that lists types. -/
def typesDetails : String := joinLines schemaDetails

end SchemaTypes.Command
