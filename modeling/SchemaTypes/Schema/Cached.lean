import SchemaTypes.Cache
import SchemaTypes.Digest
import SchemaTypes.Schema.Reading

/-!
# Reading schemas once

A request for a schema is a document and a configuration. Results are kept under the digest of the
two, so that a request made before is answered without reading the document again. A reading that
fails leaves nothing behind.
-/

namespace SchemaTypes.Schema

/-- A document to be read under a configuration. -/
structure Request where
  text : String
  config : Config

namespace Request

/-- The bytes a request's key is made from: the configuration's fingerprint, a zero, and the
document. -/
def bytes (request : Request) : List UInt8 :=
  request.config.fingerprint.toUTF8.toList ++ 0 :: request.text.toUTF8.toList

/-- The key results are kept under. -/
def key (request : Request) : String := Digest.hex request.bytes

end Request

/-- Results of requests under their keys. -/
abbrev Results (Time : Type) := Cache String Time Node

/-- Why a request has no result. -/
inductive Refusal where
  /-- The document gives no schema. -/
  | reading (failure : Failure)
  /-- The result cannot be kept. -/
  | storing (full : Cache.Full)
  deriving DecidableEq

/-- What the clock shows while a request is answered. -/
structure Readings (Time : Type) where
  /-- When the request's key is asked for. -/
  asked : Time
  /-- When a new result is stored. -/
  stored : Time

/-- The readings of a clock that stands still. -/
def Readings.still {Time : Type} (now : Time) : Readings Time := ⟨now, now⟩

variable {Time : Type} [Sub Time] [LT Time] [DecidableLT Time]

/-- Answers a request by a clock: its result, and what is kept afterwards. -/
def answerBy (results : Results Time) (request : Request) (clock : Readings Time) :
    Except Refusal Node × Results Time :=
  let key := request.key
  match results.get key clock.asked with
  | (some node, results) => (.ok node, results)
  | (none, results) =>
    match ofText request.config request.text with
    | .error failure => (.error (.reading failure), results)
    | .ok node =>
      match results.set key node clock.stored with
      | .error full => (.error (.storing full), results)
      | .ok results => (.ok node, results)

/-- Answers a request for a document that may have no encoding. Without one there is no key to ask
for. -/
def answerLooseBy (results : Results Time) (config : Config) (text : Text.Loose)
    (clock : Readings Time) : Except Refusal Node × Results Time :=
  match text.strict with
  | .error halves => (.error (.reading (.unencodable halves)), results)
  | .ok text => answerBy results ⟨text, config⟩ clock

/-- Answers a request at a time. -/
def answer (results : Results Time) (request : Request) (now : Time) :
    Except Refusal Node × Results Time :=
  answerBy results request (.still now)

end SchemaTypes.Schema
