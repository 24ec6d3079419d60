import SchemaTypes.Service.Call
import SchemaTypes.Text.Hexadecimal

/-!
# Routes

The service answers on three paths, on each to one method. A path may end in further slashes, which
lead the client to the path without them. A target may name a host between two slashes and its path.
What it holds behind a question mark or a number sign is no part of the path, and percent escapes in
the path stand for bytes.
-/

namespace SchemaTypes.Service

open SchemaTypes.Text

/-- What the service is asked for. -/
inductive Route where
  | health
  | parserConfig
  | parse
  deriving DecidableEq, Repr

namespace Route

/-- Every route. -/
def all : List Route := [.health, .parserConfig, .parse]

/-- The path of a route. -/
def path : Route → String
  | .health => "/health"
  | .parserConfig => "/config/parser"
  | .parse => parsePath

/-- The method a route answers to. -/
def method : Route → String
  | .health | .parserConfig => "GET"
  | .parse => "POST"

/-- A path without slashes at its end. -/
def withoutSlashes (path : String) : String :=
  String.ofList (path.toList.reverse.dropWhile (· = '/')).reverse

/-- The route of a path, if it has one. -/
def ofPath? (path : String) : Option Route :=
  all.find? fun route => route.path = path || route.path = withoutSlashes path

end Route

/-- The part of a text in front of the first of a character. -/
def before (separator : Char) (text : List Char) : List Char :=
  text.takeWhile (· ≠ separator)

/-- The bytes of a text, with each percent sign and two digits behind it for one byte. -/
def unescapedBytes : List Char → List UInt8
  | [] => []
  | '%' :: a :: b :: rest =>
    match hexValue? a, hexValue? b with
    | some high, some low => UInt8.ofNat (16 * high + low) :: unescapedBytes rest
    | _, _ => '%'.toUInt8 :: unescapedBytes (a :: b :: rest)
  | c :: rest => (String.singleton c).toUTF8.toList ++ unescapedBytes rest

/-- The part of a target behind the host, if it names one. -/
def behindHost : List Char → List Char
  | '/' :: '/' :: rest => rest.dropWhile (· ≠ '/')
  | path => path

/-- The path of a target, which begins with one slash. -/
def pathOf (target : String) : String :=
  let written := behindHost (before '?' (before '#' target.toList))
  let path := '/' :: written.dropWhile (· = '/')
  (String.fromUTF8? ⟨(unescapedBytes path).toArray⟩).getD (String.ofList path)

end SchemaTypes.Service
