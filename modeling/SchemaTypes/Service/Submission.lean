import SchemaTypes.Json.Finite
import SchemaTypes.Json.Reader
import SchemaTypes.Service.Call

/-!
# Submissions

A client submits a document as an object with the text of the document and, if it likes, a prefix.
The text may come under either of two keys, of which the first has precedence. A submission that
cannot be used is refused with every complaint about it, in the order of the keys. The client is
shown what each complaint is about, which fails for a number that is not finite and for half of a
pair.
-/

namespace SchemaTypes.Service

open SchemaTypes.Json (Written)
open SchemaTypes.Text (Loose)

/-- What is wrong with a submission. -/
inductive Complaint where
  /-- Nothing was submitted. -/
  | empty
  /-- The text is no structured value from an offset on. -/
  | invalidJson (offset : Nat)
  /-- The value is no object. -/
  | notObject
  /-- There is no document. -/
  | missingText
  /-- The value of a key is no text. -/
  | notText (key : String)
  /-- The prefix is empty. -/
  | emptyPrefix
  deriving DecidableEq, Repr

/-- The key of the document. -/
def textKey : String := "schema"

/-- The other key of the document. -/
def otherTextKey : String := "schema_text"

/-- The key of the prefix. -/
def prefixKey : String := "namespace_prefix"

/-- The word for a complaint. -/
def Complaint.word : Complaint → String
  | .empty | .missingText => "missing"
  | .invalidJson _ => "json_invalid"
  | .notObject => "model_attributes_type"
  | .notText _ => "string_type"
  | .emptyPrefix => "string_too_short"

/-- The place a complaint is about, inside the body. -/
def Complaint.place : Complaint → List Json
  | .empty | .notObject => []
  | .invalidJson offset => [.ofInt offset]
  | .missingText => [.string textKey]
  | .notText key => [.string key]
  | .emptyPrefix => [.string prefixKey]

/-- What a complaint about a submitted value shows of it. -/
def Complaint.subject (value : Written) : Complaint → Written
  | .notText key =>
    match value with
    | .object members => (Written.member? members key).getD .null
    | _ => .null
  | .notObject | .missingText => value
  | .empty | .invalidJson _ | .emptyPrefix => .null

/-- A complaint as it is told to the client. -/
def Complaint.toJson (complaint : Complaint) : Json :=
  .object [("type", .string complaint.word),
    ("loc", .array (.string "body" :: complaint.place))]

/-- Why a submission is refused. -/
inductive Rejection where
  | complaints (complaints : List Complaint)
  /-- It cannot be taken in at all. -/
  | unreadable
  /-- What there is to complain about cannot be shown. -/
  | unshowable
  deriving DecidableEq, Repr

/-- The document of a submission, or the complaint about it. -/
def submittedText (members : List (Loose × Written)) : Except Complaint Loose :=
  let under (key : String) : Option (Except Complaint Loose) :=
    (Written.member? members key).map fun
      | .text text => .ok text
      | _ => .error (.notText key)
  ((under textKey).or (under otherTextKey)).getD (.error .missingText)

/-- The prefix of a submission, or the complaint about it. A prefix has an encoding. -/
def submittedPrefix (members : List (Loose × Written)) : Except Complaint (Option String) :=
  match Written.member? members prefixKey with
  | none | some .null => .ok none
  | some (.text text) =>
    match text.strict with
    | .error _ => .error (.notText prefixKey)
    | .ok "" => .error .emptyPrefix
    | .ok text => .ok (some text)
  | some _ => .error (.notText prefixKey)

/-- The complaint of a check that failed. -/
def complaintOf? {α : Type} : Except Complaint α → Option Complaint
  | .ok _ => none
  | .error complaint => some complaint

/-- The submission a structured value stands for. -/
def Submission.ofWritten : Written → Except (List Complaint) Submission
  | .object members =>
    match submittedText members, submittedPrefix members with
    | .ok text, .ok namespacePrefix => .ok ⟨text, namespacePrefix⟩
    | text, namespacePrefix =>
      .error ((complaintOf? text).toList ++ (complaintOf? namespacePrefix).toList)
  | _ => .error [.notObject]

/-- How complaints about a submitted value are told. Nothing is said here of complaints that would
have to show halves of pairs. -/
def Rejection.ofComplaints? (value : Written) (complaints : List Complaint) : Option Rejection :=
  let subjects := complaints.map (·.subject value)
  if !subjects.all (·.isFinite) then some .unshowable
  else if subjects.all (·.strict?.isSome) then some (.complaints complaints)
  else none

/-- The submission in the body of a request. An empty body is none. -/
def Submission.ofBody? (body : String) : Option (Except Rejection Submission) :=
  if body = "" then some (.error (.complaints [.empty]))
  else match Written.ofText body with
  | .error (.unexpected offset) => some (.error (.complaints [.invalidJson offset]))
  | .error .numberTooLong => some (.error .unreadable)
  | .ok value =>
    match Submission.ofWritten value with
    | .ok submission => some (.ok submission)
    | .error complaints => (Rejection.ofComplaints? value complaints).map .error

end SchemaTypes.Service
