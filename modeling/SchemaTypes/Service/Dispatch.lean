import SchemaTypes.Service
import SchemaTypes.Service.Route
import SchemaTypes.Service.Submission

/-!
# Dispatching requests

The framework that the program runs in looks for the route of a request, and on the route for
submissions for the submission in its body. What it refuses there it answers by itself.
-/

namespace SchemaTypes.Service

/-- The response to a submission that is refused. -/
def refuse : Rejection → Call
  | .complaints complaints => .answered (detail 422 (.array (complaints.map Complaint.toJson)))
  | .unreadable => .answered (detail 400 (.string "There was an error parsing the body"))
  | .unshowable => .broken parsePath "Out of range float values are not JSON compliant"

/-- The call for a request on a route, where it is known. -/
def Route.call? (route : Route) (request : Request) : Option Call :=
  if request.method ≠ route.method then
    some (.answered (detail 405 (.string "Method Not Allowed")))
  else match route with
  | .health => some .health
  | .parserConfig => some .parserConfig
  | .parse =>
    (Submission.ofBody? (request.body.getD "")).map fun
      | .error rejection => refuse rejection
      | .ok submission => .parse submission

/-- The call for a request, where it is known. -/
def Call.ofRequest? (request : Request) : Option Call :=
  let path := pathOf request.target
  match Route.ofPath? path with
  | none => some (.notFound path (some "Not Found"))
  | some route => route.call? request

end SchemaTypes.Service
