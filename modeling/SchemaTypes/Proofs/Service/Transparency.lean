import SchemaTypes.Proofs.Schema.Shape
import SchemaTypes.Proofs.Schema.Transparency
import SchemaTypes.Proofs.Text.Loose
import SchemaTypes.Service.Dispatch

/-!
# The service answers as it reads

A client cannot tell from the answer to a submission what was submitted before: it is the answer
that reading the document under the client's prefix gives. It is refused with one status for a
malformed document and with another for a document that is no schema, and otherwise shows the types.
Only a document that has no encoding, so that it cannot even be called well-formed, is refused with
the status of the latter. All this holds in whatever framework calls the service.
-/

namespace SchemaTypes.Schema

/-- A document with an encoding is read as its text. -/
theorem ofLoose_ofString (config : Config) (document : String) :
    ofLoose config (.ofString document) = ofText config document := by
  rw [ofLoose, Text.Loose.strict_ofString]
  rfl

/-- A document with an encoding makes the request for its text. -/
theorem requestOf?_ofString (config : Config) (document : String) :
    requestOf? config (.ofString document) = some ⟨document, config⟩ :=
  requestOf?_eq_some (Text.Loose.strict_ofString document) config

end SchemaTypes.Schema

namespace SchemaTypes.Service

open Schema (Readings Separated Use afterUses requestOf? requestsOf)
open Cache (start)
open Text (Loose)

/-- The submission that a call is for. -/
def Call.submission? : Call → Option Submission
  | .parse submission => some submission
  | _ => none

/-- A call is for a submission if it is one to read it. -/
theorem Call.submission?_eq_some_iff {call : Call} {submission : Submission} :
    call.submission? = some submission ↔ call = .parse submission := by
  cases call <;> simp [submission?]

/-- What a call does with the results that are kept. -/
def Call.use? {Time : Type} (config : Config) (clock : Readings Time) (call : Call) :
    Option (Use Time) :=
  call.submission?.map fun submission =>
    .answer (configFor config submission) submission.text clock

/-- What a history of requests does with the results that are kept. -/
def usesOf {Time : Type} (framework : Framework) (config : Config)
    (history : List (Request × Readings Time)) : List (Use Time) :=
  history.filterMap fun (request, clock) => (framework request).use? config clock

/-- The first request of a history comes first. -/
theorem usesOf_cons {Time : Type} (framework : Framework) (config : Config) (request : Request)
    (clock : Readings Time) (history : List (Request × Readings Time)) :
    usesOf framework config ((request, clock) :: history) =
      ((framework request).use? config clock).toList ++ usesOf framework config history := by
  cases used : (framework request).use? config clock <;> simp [usesOf, used]

/-- The prefix of a submission stands in place of the configured one. -/
theorem configFor_eq (config : Config) (submission : Submission) :
    configFor config submission =
      { config with
        namespacePrefix := submission.givenPrefix?.getD config.namespacePrefix } := by
  rw [configFor]
  cases given : submission.givenPrefix? <;> rfl

variable {Time : Type} [Sub Time] [LT Time] [DecidableLT Time] {framework : Framework}
  {request : Request} {submission : Submission} {clock : Readings Time}

/-- What is left of a service in a framework after a history of requests. -/
def after (framework : Framework) (state : State Time) (history : List (Request × Readings Time)) :
    State Time :=
  history.foldl (fun state (request, clock) => (answerBy framework state request clock).2) state

/-! ## Histories -/

/-- A call leaves the configuration, and of the results what its use leaves. -/
theorem answerCall_snd (state : State Time) (call : Call) (clock : Readings Time) :
    (answerCall state call clock).2 =
      { state with results := afterUses state.results (call.use? state.config clock).toList } := by
  cases call <;> rfl

/-- A history of requests leaves the configuration, and of the results what their uses leave. -/
theorem after_eq (framework : Framework) (state : State Time)
    (history : List (Request × Readings Time)) :
    after framework state history =
      { state with
        results := afterUses state.results (usesOf framework state.config history) } := by
  induction history generalizing state with
  | nil => rfl
  | cons first history inductionHypothesis =>
    obtain ⟨request, clock⟩ := first
    show after framework (answerCall state (framework request) clock).2 history = _
    rw [answerCall_snd, inductionHypothesis, usesOf_cons, afterUses, afterUses, afterUses,
      List.foldl_append]

/-! ## Responses -/

/-- The response to a submission from reading its document. -/
def responseTo (config : Config) (submission : Submission) : Response :=
  match Schema.ofLoose (configFor config submission) submission.text with
  | .ok schema => showSchema schema
  | .error failure => refuseSchema (.reading failure)

/-- Whatever came before, a submission is answered as from reading its document. -/
theorem answerBy_fst_after {capacity : Int} (room : 1 ≤ capacity) (lifetime : Time)
    (config : Config) (history : List (Request × Readings Time))
    (called : framework request = .parse submission) (clock : Readings Time)
    (separated : Separated (requestsOf (usesOf framework config history) ++
      (requestOf? (configFor config submission) submission.text).toList)) :
    (answerBy framework (after framework ⟨config, start lifetime capacity⟩ history) request
      clock).1 = responseTo config submission := by
  have faithful := Schema.faithful_afterUses room lifetime (usesOf framework config history)
  have answered := faithful.answerLooseBy_fst clock separated
  rw [answerBy, called, answerCall, after_eq, answerSubmission, responseTo]
  simp only [answered]
  cases Schema.ofLoose (configFor config submission) submission.text <;> rfl

/-- A document without an encoding is refused as if it were none of a schema. -/
theorem responseTo_of_halves (config : Config) {halves : Text.LoneHalves}
    (loose : submission.text.strict = .error halves) :
    (responseTo config submission).status = 422 := by
  rw [responseTo, Schema.ofLoose, loose]
  rfl

/-- A malformed document is refused. -/
theorem responseTo_of_malformed (config : Config) {document : String} {reason : Xml.Malformed}
    (sent : submission.text = .ofString document)
    (malformed : Xml.readText document = .error reason) :
    (responseTo config submission).status = 400 := by
  rw [responseTo, sent, Schema.ofLoose_ofString, Schema.ofText, malformed]
  rfl

/-- A document that is no schema is refused otherwise. -/
theorem responseTo_of_notSchema (config : Config) {document : String} {root : Element}
    (sent : submission.text = .ofString document) (wellFormed : Xml.readText document = .ok root)
    (other : root.localName? ≠ some "schema") : (responseTo config submission).status = 422 := by
  have unrecognized : Schema.recognize (configFor config submission) root = none :=
    Schema.recognize_eq_none_iff.2 other
  rw [responseTo, sent, Schema.ofLoose_ofString, Schema.ofText, wellFormed]
  simp only [Except.mapError, bind, Except.bind, Schema.ofElement, unrecognized]
  rfl

/-- The types of a schema are shown. -/
theorem responseTo_of_schema (config : Config) {document : String} {root : Element}
    (sent : submission.text = .ofString document) (wellFormed : Xml.readText document = .ok root)
    (named : root.localName? = some "schema") :
    ∃ schema, Schema.ofElement (configFor config submission) Schema.textSource root = .ok schema ∧
      responseTo config submission = showSchema schema := by
  cases recognized : Schema.recognize (configFor config submission) root with
  | none => exact absurd named (Schema.recognize_eq_none_iff.1 recognized)
  | some schema =>
    have read : Schema.ofElement (configFor config submission) Schema.textSource root =
        .ok schema := by rw [Schema.ofElement, recognized]
    refine ⟨schema, read, ?_⟩
    rw [responseTo, sent, Schema.ofLoose_ofString, Schema.ofText, wellFormed]
    simp only [Except.mapError, bind, Except.bind, read]

/-- A submission is answered as it reads under a configuration: with one status exactly if its
document is malformed, with another exactly if its document has no encoding or is no schema, and
otherwise with the types of the schema. -/
structure AnsweredAsRead (config : Config) (submission : Submission) (response : Response) :
    Prop where
  malformed : response.status = 400 ↔ ∃ document reason,
    submission.text = .ofString document ∧ Xml.readText document = .error reason
  noSchema : response.status = 422 ↔ (∃ number, .half number ∈ submission.text) ∨
    ∃ document root, submission.text = .ofString document ∧ Xml.readText document = .ok root ∧
      root.localName? ≠ some "schema"
  shown : ∀ document, submission.text = .ofString document → ∀ root,
    Xml.readText document = .ok root → root.localName? = some "schema" →
      ∃ schema, Schema.ofElement config Schema.textSource root = .ok schema ∧
        response.status = 200 ∧
        response.body = .object [("kind", .string schema.kind),
          ("type_count", .ofInt (schema.types.getD []).length),
          ("types", .array ((schema.types.getD []).map Node.toJson))]

/-- A document without an encoding is answered as it reads: it is no text at all. -/
theorem answeredAsRead_of_half (config : Config) {number : Fin 0x800}
    (member : .half number ∈ submission.text) {halves : Text.LoneHalves}
    (loose : submission.text.strict = .error halves) :
    AnsweredAsRead (configFor config submission) submission (responseTo config submission) := by
  have status := responseTo_of_halves config loose
  have noText : ∀ document, submission.text ≠ .ofString document := by
    intro document sent
    exact Loose.half_notMem_ofString number document (sent ▸ member)
  have held : ∃ number, .half number ∈ submission.text := ⟨number, member⟩
  exact ⟨by simp [status, noText], by simp [status, held],
    fun document sent => absurd sent (noText document)⟩

/-- A document with an encoding is answered as it reads: it is malformed, or no schema, or a
schema. -/
theorem answeredAsRead_of_text (config : Config) {document : String}
    (sent : submission.text = .ofString document) :
    AnsweredAsRead (configFor config submission) submission (responseTo config submission) := by
  have whole : ¬∃ number, .half number ∈ submission.text := by
    rintro ⟨number, member⟩
    exact Loose.half_notMem_ofString number document (sent ▸ member)
  have only : ∀ other, submission.text = .ofString other ↔ document = other := by
    intro other
    rw [sent, Loose.ofString_inj]
  cases read : Xml.readText document with
  | error reason =>
    have status := responseTo_of_malformed config sent read
    exact ⟨by simp [status, only, read], by simp [status, only, whole, read], by simp [only, read]⟩
  | ok root =>
    by_cases named : root.localName? = some "schema"
    · obtain ⟨schema, recognized, shown⟩ := responseTo_of_schema config sent read named
      have status : (responseTo config submission).status = 200 := by
        rw [shown]
        rfl
      refine ⟨by simp [status, only, read], by simp [status, only, whole, read, named], ?_⟩
      intro other form top parsed _
      obtain rfl := (only other).1 form
      obtain rfl := Except.ok.inj (read.symm.trans parsed)
      exact ⟨schema, recognized, status, by rw [shown]; rfl⟩
    · have status := responseTo_of_notSchema config sent read named
      exact ⟨by simp [status, only, read], by simp [status, only, whole, read, named],
        by simp [only, read, named]⟩

/-! ## Transparency -/

/-- A framework that dispatches requests as far as that is known. -/
def dispatching : Framework := fun request =>
  (Call.ofRequest? request).getD (.notFound request.target none)

/-- A request that submits a text. -/
def submitting (text : String) : Request where
  method := "POST"
  target := parsePath
  body := some ("\x7b\"schema\": \"" ++ text ++ "\"\x7d")

/-- A schema with half of a pair in it. -/
def halved : Loose := Loose.ofString "<schema>" ++ .half 0 :: Loose.ofString "</schema>"

/-- The half is in it. -/
theorem half_mem_halved : .half 0 ∈ halved := by simp [halved]

/-- The request that submits it. -/
def submittingHalved : Request := submitting "<schema>\\ud800</schema>"

/-- An empty schema, the same under another prefix, and a document that ends too early. -/
def samples : List Schema.Request :=
  [⟨"<schema/>", {}⟩, ⟨"<schema/>", { namespacePrefix := "xsd" }⟩, ⟨"<schema", {}⟩]

/-- The samples have distinct keys. -/
theorem nodup_keys_samples : (samples.map Schema.Request.key).Nodup := by
  simp only [samples, List.map_cons, List.map_nil, Schema.Request.key, Schema.Request.bytes_eq]
  decide +kernel

/-- The samples are asked for by a clock that goes back, where there is room for one result. -/
def sampling : List (Use Int) :=
  [.answer {} (.ofString "<schema/>") ⟨0, 1⟩,
    .answer { namespacePrefix := "xsd" } (.ofString "<schema/>") ⟨3, 2⟩, .get "other" 90,
    .answer {} (.ofString "<schema") ⟨-3, -2⟩, .answer {} (.ofString "<schema/>") ⟨5, 4⟩]

/-- Two of the samples are submitted and a schema with half of a pair, and something else is asked
for. -/
def submittingAll : List (Request × Readings Int) :=
  [(submitting "<schema/>", .still 0), (submitting "<schema", .still 1),
    (submittingHalved, .still 1), (⟨"GET", "/health", none⟩, .still 2)]

/-- What the sample requests are for. -/
theorem dispatching_samples :
    dispatching (submitting "<schema/>") = .parse ⟨.ofString "<schema/>", none⟩ ∧
      dispatching (submitting "<schema") = .parse ⟨.ofString "<schema", none⟩ ∧
      dispatching submittingHalved = .parse ⟨halved, none⟩ := by
  refine ⟨?_, ?_, ?_⟩ <;> rw [← Call.submission?_eq_some_iff] <;> decide +kernel

end SchemaTypes.Service
