import SchemaTypes.Node.Wire
import SchemaTypes.Schema.Cached
import SchemaTypes.Service.Call

/-!
# The service

The service reads schemas that clients submit and keeps the results for a while. Each request is
answered at a time and leaves the service with what it keeps afterwards. A request that the service
breaks down on is answered too, without the headers that every other response carries.
-/

namespace SchemaTypes

/-- The version of the program. -/
def version : String := "0.1.0"

namespace Service

/-- The service and what it keeps. -/
structure State (Time : Type) where
  config : Config
  results : Schema.Results Time

/-- A whole number of thousandths as a decimal fraction. -/
def showThousandths (value : Nat) : String :=
  let digits := toString (value % 1000)
  toString (value / 1000) ++ "." ++ String.ofList (List.replicate (3 - digits.length) '0') ++ digits

/-- The headers of a response after a time in milliseconds. -/
def Response.headers (response : Response) (milliseconds : Nat) : List (String × String) :=
  if response.broken then []
  else [("X-Response-Time", showThousandths milliseconds ++ "s"), ("X-API-Version", version)]

/-- A response that tells one thing. -/
def detail (status : Nat) (value : Json) : Response where
  status := status
  body := .object [("detail", value)]

/-- The response where there is nothing at a path. -/
def notFound (path : String) (reason : Option String) : Response where
  status := 404
  body := .object [("error", .string "Not Found"),
    ("detail", .string (reason.getD "The requested resource was not found")),
    ("path", .string path)]

/-- The response after a breakdown. -/
def breakdown (path cause : String) : Response where
  status := 500
  body := .object [("error", .string "Internal Server Error"),
    ("detail", .string "An unexpected error occurred processing your request")]
  broken := true
  log := [⟨.error, .service, "Unhandled error on " ++ path ++ ": " ++ cause⟩]

/-- The response that says the service is well. -/
def healthy : Response where
  status := 200
  body := .object [("status", .string "healthy"), ("version", .string version)]

/-- The response that shows a configuration. -/
def showConfig (config : Config) : Response where
  status := 200
  body := .object [("namespace_prefix", .string config.namespacePrefix),
    ("type_overrides", .object (config.overrides.entries.map fun (name, target) =>
      (name, .string target))),
    ("max_depth", .ofInt config.maxDepth)]

/-- The response to a schema. -/
def showSchema (schema : Node) : Response :=
  let types := schema.types.getD []
  { status := 200
    body := .object [("kind", .string schema.kind), ("type_count", .ofInt types.length),
      ("types", .array (types.map Node.toJson))] }

/-- The response to a request for a schema that has no result. -/
def refuseSchema : Schema.Refusal → Response
  | .reading (.unencodable halves) => detail 422 (.string halves.message)
  | .reading (.malformed reason) => detail 400 (.string ("Malformed XML: " ++ reason.message))
  | .reading (.notSchema failure) => detail 422 (.string failure.message)
  | .storing .noRoom => breakdown parsePath "coroutine raised StopIteration"

/-- The configuration for a submission. -/
def configFor (config : Config) (submission : Submission) : Config :=
  match submission.givenPrefix? with
  | none => config
  | some namespacePrefix => { config with namespacePrefix }

variable {Time : Type} [Sub Time] [LT Time] [DecidableLT Time]

/-- Answers a submission by a clock. -/
def answerSubmission (state : State Time) (submission : Submission)
    (clock : Schema.Readings Time) : Response × State Time :=
  let config := configFor state.config submission
  let (result, results) := Schema.answerLooseBy state.results config submission.text clock
  let response := match result with
    | .ok schema => showSchema schema
    | .error refusal => refuseSchema refusal
  (response, { state with results })

/-- Answers a call by a clock. -/
def answerCall (state : State Time) (call : Call) (clock : Schema.Readings Time) :
    Response × State Time :=
  match call with
  | .health => (healthy, state)
  | .parserConfig => (showConfig state.config, state)
  | .parse submission => answerSubmission state submission clock
  | .notFound path reason => (notFound path reason, state)
  | .broken path cause => (breakdown path cause, state)
  | .answered response => (response, state)

/-- Answers a request in a framework by a clock. -/
def answerBy (framework : Framework) (state : State Time) (request : Request)
    (clock : Schema.Readings Time) : Response × State Time :=
  answerCall state (framework request) clock

end Service

end SchemaTypes
