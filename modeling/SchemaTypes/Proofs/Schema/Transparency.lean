import SchemaTypes.Proofs.Cache.Run
import SchemaTypes.Proofs.Schema.Agreement
import SchemaTypes.Proofs.Schema.Key

/-!
# Keeping results does not show

Whatever was asked before and whatever the clock shows, a request is answered as if its document was
read for it. The reason is an invariant of what is kept: every result is that of reading a request
with the key it is kept under. It makes a difference only where requests for different things have
one key. A document that has no encoding has no key either; it is refused, and nothing changes.
-/

namespace SchemaTypes.Schema

open Cache (start)

/-- Requests that have one key only if they are for the same thing. -/
def Separated (requests : List Request) : Prop :=
  ∀ left ∈ requests, ∀ right ∈ requests, left.key = right.key → left.Agree right

/-- Requests are separated if each is one of several with distinct keys. -/
theorem separated_of_subset {requests several : List Request}
    (distinct : (several.map Request.key).Nodup) (subset : requests ⊆ several) :
    Separated requests := by
  intro left memberLeft right memberRight same
  obtain rfl := List.inj_on_of_nodup_map distinct (subset memberLeft) (subset memberRight) same
  exact .refl left

/-- The request for a document, if that has an encoding. -/
def requestOf? (config : Config) (text : Text.Loose) : Option Request :=
  text.strict.toOption.map (⟨·, config⟩)

/-- What is done with results: a document is asked for, a key is, or all results are removed. -/
inductive Use (Time : Type) where
  | answer (config : Config) (text : Text.Loose) (clock : Readings Time)
  | get (key : String) (now : Time)
  | clear

/-- The request that is answered. -/
def Use.request? {Time : Type} : Use Time → Option Request
  | .answer config text _ => requestOf? config text
  | .get _ _ | .clear => none

/-- The requests that are answered, one after the other. -/
def requestsOf {Time : Type} (uses : List (Use Time)) : List Request := uses.filterMap Use.request?

variable {Time : Type} {results : Results Time} {requests : List Request} {request : Request}
  {clock : Readings Time}

/-- Every result is that of reading a request with the key it is kept under. -/
structure Faithful (requests : List Request) (results : Results Time) : Prop where
  room : 1 ≤ results.capacity
  distinct : results.keys.Nodup
  read : ∀ entry ∈ results.entries, ∃ request ∈ requests, request.key = entry.1 ∧
    ofText request.config request.text = .ok entry.2.data

/-- What is kept of faithful results is faithful. -/
theorem Faithful.of_sublist (faithful : Faithful requests results) {next : Results Time}
    (capacity : next.capacity = results.capacity)
    (kept : next.entries.Sublist results.entries) : Faithful requests next where
  room := faithful.room.trans_eq capacity.symm
  distinct := (kept.map Prod.fst).nodup faithful.distinct
  read entry member := faithful.read entry (kept.subset member)

/-- More requests may have been made. -/
theorem Faithful.of_subset (faithful : Faithful requests results) {more : List Request}
    (subset : requests ⊆ more) : Faithful more results where
  room := faithful.room
  distinct := faithful.distinct
  read entry member := by
    obtain ⟨request, made, same, read⟩ := faithful.read entry member
    exact ⟨request, subset made, same, read⟩

/-- A new result of a request is faithful, whatever it displaces. -/
theorem Faithful.store (faithful : Faithful requests results) {next : Results Time} {node : Node}
    {kept : List (String × Cache.Entry Time Node)} {stored lifetime : Time}
    (made : request ∈ requests) (read : ofText request.config request.text = .ok node)
    (capacity : next.capacity = results.capacity)
    (sublist : kept.Sublist (results.others request.key))
    (entries : next.entries = kept ++ [(request.key, ⟨node, stored, lifetime⟩)]) :
    Faithful requests next := by
  refine ⟨faithful.room.trans_eq capacity.symm, ?_, ?_⟩
  · rw [Cache.keys, entries, List.map_append, List.nodup_append]
    have distinct := ((sublist.trans (results.others_sublist _)).map Prod.fst).nodup
      faithful.distinct
    refine ⟨distinct, List.nodup_singleton _, ?_⟩
    intro key memberKept other memberNew
    obtain ⟨entry, member, rfl⟩ := List.mem_map.1 memberKept
    rw [List.mem_singleton.1 memberNew]
    exact (Cache.mem_others.1 (sublist.subset member)).2
  · intro entry member
    rw [entries] at member
    rcases List.mem_append.1 member with member | member
    · exact faithful.read entry (Cache.mem_others.1 (sublist.subset member)).1
    · rw [List.mem_singleton.1 member]
      exact ⟨request, made, rfl, read⟩

variable [Sub Time] [LT Time] [DecidableLT Time]

/-- What one use leaves of results. -/
def afterUse (results : Results Time) : Use Time → Results Time
  | .answer config text clock => (answerLooseBy results config text clock).2
  | .get key now => (results.get key now).2
  | .clear => results.clear

/-- What uses leave of results. -/
def afterUses (results : Results Time) (uses : List (Use Time)) : Results Time :=
  uses.foldl afterUse results

/-! ## Answers -/

/-- A request whose key is found gets what is kept under it. -/
theorem answerBy_of_find?_eq_some {node : Node}
    (found : results.find? request.key clock.asked = some node) :
    answerBy results request clock = (.ok node, { results with hits := results.hits + 1 }) := by
  simp only [answerBy, Cache.get_eq_of_find?_eq_some found]

/-- A request for a document that cannot be read is refused and leaves no entry under its key. -/
theorem answerBy_of_error {failure : Failure}
    (missing : results.find? request.key clock.asked = none)
    (failed : ofText request.config request.text = .error failure) :
    answerBy results request clock = (.error (.reading failure), { results with
      entries := results.others request.key, misses := results.misses + 1 }) := by
  simp only [answerBy, Cache.get_eq_of_find?_eq_none missing, failed]

/-- A request that was not made before gets what its document gives, and that is stored. -/
theorem answerBy_of_ok {node : Node} (missing : results.find? request.key clock.asked = none)
    (read : ofText request.config request.text = .ok node) (room : 1 ≤ results.capacity) :
    answerBy results request clock = (.ok node, { results with
      entries := (results.others request.key).rtake (results.capacity.toNat - 1) ++
        [(request.key, ⟨node, clock.stored, results.lifetime⟩)]
      misses := results.misses + 1 }) := by
  let missed : Results Time :=
    { results with entries := results.others request.key, misses := results.misses + 1 }
  have others : missed.others request.key = results.others request.key :=
    results.others_others request.key
  have stored := Cache.set_eq_ok (show 1 ≤ missed.capacity from room) request.key node clock.stored
  rw [others] at stored
  simp only [answerBy, Cache.get_eq_of_find?_eq_none missing, read]
  split
  · next full refused => cases refused.symm.trans stored
  · next kept done =>
    obtain rfl := Except.ok.inj (done.symm.trans stored)
    rfl

/-- How a request can be answered where there is room: what holds of each way holds of the
answer. -/
theorem answerBy_cases {motive : Except Refusal Node × Results Time → Prop}
    (room : 1 ≤ results.capacity) (request : Request) (clock : Readings Time)
    (known : ∀ node, results.find? request.key clock.asked = some node →
      motive (.ok node, { results with hits := results.hits + 1 }))
    (failed : ∀ failure, results.find? request.key clock.asked = none →
      ofText request.config request.text = .error failure →
      motive (.error (.reading failure), { results with
        entries := results.others request.key, misses := results.misses + 1 }))
    (read : ∀ node, results.find? request.key clock.asked = none →
      ofText request.config request.text = .ok node →
      motive (.ok node, { results with
        entries := (results.others request.key).rtake (results.capacity.toNat - 1) ++
          [(request.key, ⟨node, clock.stored, results.lifetime⟩)]
        misses := results.misses + 1 })) :
    motive (answerBy results request clock) := by
  cases found : results.find? request.key clock.asked with
  | some node =>
    rw [answerBy_of_find?_eq_some found]
    exact known node found
  | none =>
    cases reading : ofText request.config request.text with
    | error failure =>
      rw [answerBy_of_error found reading]
      exact failed failure found reading
    | ok node =>
      rw [answerBy_of_ok found reading room]
      exact read node found reading

/-! ## What is kept -/

namespace Faithful

/-- Asking for a key leaves results faithful. -/
theorem get (faithful : Faithful requests results) (key : String) (now : Time) :
    Faithful requests (results.get key now).2 := by
  cases found : results.find? key now with
  | some node =>
    rw [Cache.get_eq_of_find?_eq_some found]
    exact faithful.of_sublist rfl (List.Sublist.refl _)
  | none =>
    rw [Cache.get_eq_of_find?_eq_none found]
    exact faithful.of_sublist rfl (results.others_sublist key)

/-- Answering a request leaves results faithful. -/
theorem answer (faithful : Faithful requests results) (request : Request) (clock : Readings Time) :
    Faithful (requests ++ [request]) (answerBy results request clock).2 := by
  have earlier := faithful.of_subset (List.subset_append_left requests [request])
  apply answerBy_cases (motive := fun (_, next) => Faithful (requests ++ [request]) next)
    faithful.room request clock
  case known =>
    intro node _
    exact earlier.of_sublist rfl (List.Sublist.refl _)
  case failed =>
    intro failure _ _
    exact earlier.of_sublist rfl (results.others_sublist request.key)
  case read =>
    intro node _ read
    have made : request ∈ requests ++ [request] := by simp
    exact earlier.store made read rfl (List.drop_sublist _ _) rfl

/-- Faithful results answer a request as reading its document does. -/
theorem answerBy_fst (faithful : Faithful requests results) (clock : Readings Time)
    (separated : Separated (requests ++ [request])) :
    (answerBy results request clock).1 =
      (ofText request.config request.text).mapError .reading := by
  apply answerBy_cases (motive := fun (outcome, _) =>
    outcome = (ofText request.config request.text).mapError .reading) faithful.room request clock
  case known =>
    -- The result found is that of an earlier request, which is for the same thing.
    intro node found
    obtain ⟨entry, member, -, rfl⟩ := (Cache.find?_eq_some_iff faithful.distinct).1 found
    obtain ⟨earlier, made, same, read⟩ := faithful.read _ member
    have agree : request.Agree earlier :=
      separated request (by simp) earlier (List.mem_append_left _ made) same.symm
    rw [ofText_of_agree agree.config, agree.text, read]
    rfl
  case failed =>
    intro failure _ failed
    rw [failed]
    rfl
  case read =>
    intro node _ read
    rw [read]
    rfl

/-- A request without a result leaves everything but what has expired under its own key. -/
theorem entries_of_error (faithful : Faithful requests results) {refusal : Refusal}
    (refused : (answerBy results request clock).1 = .error refusal) :
    (answerBy results request clock).2.entries = results.others request.key ∧
      ∀ entry ∈ results.entries, entry.1 = request.key →
        entry.2.isExpired clock.asked = true := by
  revert refused
  apply answerBy_cases (motive := fun (outcome, next) => outcome = .error refusal →
    next.entries = results.others request.key ∧ ∀ entry ∈ results.entries,
      entry.1 = request.key → entry.2.isExpired clock.asked = true) faithful.room request clock
  case known =>
    intro node _ refused
    cases refused
  case failed =>
    intro failure missing _ _
    refine ⟨rfl, ?_⟩
    intro entry member same
    exact Cache.isExpired_of_find?_eq_none faithful.distinct missing member same
  case read =>
    intro node _ _ refused
    cases refused

end Faithful

/-! ## Documents that may have no encoding -/

/-- A document without an encoding makes no request. -/
theorem requestOf?_eq_none {text : Text.Loose} {halves : Text.LoneHalves}
    (loose : text.strict = .error halves) (config : Config) : requestOf? config text = none := by
  rw [requestOf?, loose]
  rfl

/-- A document with an encoding makes the request for it. -/
theorem requestOf?_eq_some {text : Text.Loose} {document : String}
    (strict : text.strict = .ok document) (config : Config) :
    requestOf? config text = some ⟨document, config⟩ := by
  rw [requestOf?, strict]
  rfl

/-- A document without an encoding is refused, and nothing that is kept changes. -/
theorem answerLooseBy_of_error {text : Text.Loose} {halves : Text.LoneHalves}
    (loose : text.strict = .error halves) (config : Config) (clock : Readings Time) :
    answerLooseBy results config text clock =
      (.error (.reading (.unencodable halves)), results) := by
  rw [answerLooseBy, loose]

/-- A document with an encoding is answered as the request for it. -/
theorem answerLooseBy_of_ok {text : Text.Loose} {document : String}
    (strict : text.strict = .ok document) (config : Config) (clock : Readings Time) :
    answerLooseBy results config text clock = answerBy results ⟨document, config⟩ clock := by
  rw [answerLooseBy, strict]

namespace Faithful

/-- Answering for a document leaves results faithful. -/
theorem answerLoose (faithful : Faithful requests results) (config : Config) (text : Text.Loose)
    (clock : Readings Time) :
    Faithful (requests ++ (requestOf? config text).toList)
      (answerLooseBy results config text clock).2 := by
  cases strict : text.strict with
  | error halves =>
    rw [answerLooseBy_of_error strict]
    exact faithful.of_subset (List.subset_append_left _ _)
  | ok document =>
    rw [answerLooseBy_of_ok strict, requestOf?_eq_some strict]
    exact faithful.answer _ clock

/-- Faithful results answer for a document as reading it does. -/
theorem answerLooseBy_fst (faithful : Faithful requests results) {config : Config}
    {text : Text.Loose} (clock : Readings Time)
    (separated : Separated (requests ++ (requestOf? config text).toList)) :
    (answerLooseBy results config text clock).1 = (ofLoose config text).mapError .reading := by
  cases strict : text.strict with
  | error halves =>
    rw [answerLooseBy_of_error strict, ofLoose, strict]
    rfl
  | ok document =>
    rw [requestOf?_eq_some strict] at separated
    rw [answerLooseBy_of_ok strict, faithful.answerBy_fst clock separated, ofLoose, strict]
    rfl

/-- A document without a result leaves everything but what has expired under its own key. -/
theorem entries_of_loose_error (faithful : Faithful requests results) {config : Config}
    {text : Text.Loose} {refusal : Refusal}
    (refused : (answerLooseBy results config text clock).1 = .error refusal) :
    (answerLooseBy results config text clock).2.entries =
        results.entries.filter (fun entry => some entry.1 ≠ (requestOf? config text).map (·.key)) ∧
      ∀ entry ∈ results.entries, some entry.1 = (requestOf? config text).map (·.key) →
        entry.2.isExpired clock.asked = true := by
  cases strict : text.strict with
  | error halves =>
    rw [answerLooseBy_of_error strict, requestOf?_eq_none strict]
    simp
  | ok document =>
    rw [answerLooseBy_of_ok strict] at refused
    have left := faithful.entries_of_error refused
    rw [answerLooseBy_of_ok strict, requestOf?_eq_some strict, left.1, Cache.others]
    simpa using left.2

end Faithful

/-- Results stay faithful whatever is done with them. -/
theorem faithful_afterUses {capacity : Int} (room : 1 ≤ capacity) (lifetime : Time)
    (uses : List (Use Time)) :
    Faithful (requestsOf uses) (afterUses (start lifetime capacity) uses) := by
  induction uses using List.reverseRecOn with
  | nil => exact ⟨room, List.nodup_nil, by simp [afterUses, start]⟩
  | append_singleton uses last inductionHypothesis =>
    rw [afterUses, List.foldl_append, requestsOf, List.filterMap_append]
    cases last with
    | answer config text clock =>
      have asked : [Use.answer config text clock].filterMap Use.request? =
          (requestOf? config text).toList := by
        cases made : requestOf? config text <;> simp [Use.request?, made]
      rw [asked]
      exact inductionHypothesis.answerLoose config text clock
    | get key now =>
      exact (inductionHypothesis.get key now).of_subset (List.subset_append_left _ _)
    | clear => exact ⟨inductionHypothesis.room, List.nodup_nil, by simp [afterUse, Cache.clear]⟩

end SchemaTypes.Schema
