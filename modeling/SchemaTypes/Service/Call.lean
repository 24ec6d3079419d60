import SchemaTypes.Json
import SchemaTypes.Log
import SchemaTypes.Text.Loose

/-!
# Calls of the service

A framework carries the service. It takes requests in, finds out what each one asks for, and answers
by itself what asks for nothing that there is; otherwise it calls the service. What is known of the
framework here is only that it makes a call of every request.
-/

namespace SchemaTypes.Service

/-- A request as a client makes it. -/
structure Request where
  method : String
  target : String
  /-- What is sent along, if anything. -/
  body : Option String := none

/-- What the client gets, and the lines left in the log. -/
structure Response where
  status : Nat
  body : Json
  /-- Whether the service broke down. -/
  broken : Bool := false
  log : List Log.Line := []

/-- A document to be read, with a prefix in place of the configured one. The document comes as it
was sent and may have no encoding; the prefix has one, since its length was counted. -/
structure Submission where
  text : Text.Loose
  namespacePrefix : Option String
  deriving DecidableEq, Repr

/-- The prefix that a submission gives. An empty one is none. -/
def Submission.givenPrefix? (submission : Submission) : Option String :=
  submission.namespacePrefix.filter (· ≠ "")

/-- The path that schemas are submitted on. -/
def parsePath : String := "/parse"

/-- What the service is called for. -/
inductive Call where
  | health
  | parserConfig
  | parse (submission : Submission)
  /-- There is nothing at a path, for a reason if one is given. -/
  | notFound (path : String) (detail : Option String)
  /-- A request on a path was broken off for a cause. -/
  | broken (path cause : String)
  /-- The framework answers by itself. -/
  | answered (response : Response)

/-- What a framework makes of requests. -/
abbrev Framework := Request → Call

end SchemaTypes.Service
