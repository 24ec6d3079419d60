import SchemaTypes.Command.Report
import SchemaTypes.Proofs.Schema.Shape

/-!
# How commands end

A command that prints ends well exactly when a schema stands at its path: a file that holds a
well-formed document whose element has the right name. Otherwise it ends badly, prints nothing and
tells the user once. In between are the breakdowns: what the program does not expect of a path, of
an encoding or of an indentation ends it without a report, and nothing else does.
-/

namespace SchemaTypes.Xml

/-! ## Encodings -/

/-- What an error says about the encoding that a document declares. -/
def ReadError.Declared : ReadError → Prop
  | .malformed _ => True
  | .unknownEncoding name => ∃ unitSize, Encoding.ofName name unitSize = .unknown
  | .transformEncoding name => ∃ unitSize, Encoding.ofName name unitSize = .transform
  | .multiByteEncoding => ∃ name unitSize, Encoding.ofName name unitSize = .multiByte
  | .refusedEncoding name refusal =>
    ∃ unitSize, Encoding.ofName name unitSize = .refused refusal

/-- A document that cannot be opened is malformed or declares an encoding as the error says. -/
theorem declared_of_ofStored {bytes : List UInt8} {error : ReadError}
    (refused : Opened.ofStored bytes = .error error) : error.Declared := by
  simp only [Opened.ofStored] at refused
  split at refused
  · simp only [bind, Except.bind] at refused
    split at refused
    · next failed =>
      simp only [Except.mapError] at failed
      split at failed <;> cases failed
      cases refused
      trivial
    · split at refused
      · cases refused
      · -- The declaration names an encoding, and the error is what the name says.
        split at refused
        · cases refused
        · next named =>
          cases refused
          exact ⟨_, _, named⟩
        · cases refused
          trivial
        · next named =>
          cases refused
          exact ⟨_, named⟩
        · next named =>
          cases refused
          exact ⟨_, named⟩
        · next named =>
          cases refused
          exact ⟨_, named⟩
        · split at refused <;> cases refused
          trivial
  · cases refused
    trivial

/-- A document that cannot be read is malformed or declares an encoding as the error says. -/
theorem declared_of_readStored {bytes : ByteArray} {error : ReadError}
    (unread : readStored bytes = .error error) : error.Declared := by
  rw [readStored] at unread
  cases stored : Opened.ofStored bytes.toList with
  | error other =>
    simp only [stored, bind, Except.bind] at unread
    cases unread
    exact declared_of_ofStored stored
  | ok opened =>
    cases parsed : (Scan.behindDeclaration opened.standalone).run opened.place <;>
      simp only [stored, parsed, bind, Except.bind, Except.mapError] at unread <;> cases unread
    trivial

end SchemaTypes.Xml

namespace SchemaTypes.Command

open Arguments

/-! ## Breakdowns and promises -/

/-- What stands at a path is a file that holds a schema. -/
def HoldsSchema (found : Except Path.Obstacle ByteArray) : Prop :=
  ∃ bytes root, found = .ok bytes ∧ Xml.readStored bytes = .ok root ∧
    root.localName? = some "schema"

/-- An action that prints its result, so that no file is written. -/
def Action.Prints : Action → Prop
  | .parse output _ => output = none ∨ output = some ""
  | .types => True

/-- An indentation that no text has room for. -/
def BeyondText (indentation : Int) : Prop :=
  maxIndentation < indentation ∨ indentation < -maxIndentation - 1

/-- The breakdowns of a command, each with what has to stand at the path for it. -/
inductive BreaksDown (command : Command) (found : Except Path.Obstacle ByteArray) :
    Breakdown → Prop
  | folder (obstructed : found = .error .folder) :
      BreaksDown command found (.file command.schema .folder)
  | notFolder (obstructed : found = .error .notFolder) :
      BreaksDown command found (.file command.schema .notFolder)
  | unknownEncoding {bytes : ByteArray} {name : String} {unitSize : Nat} (read : found = .ok bytes)
      (unread : Xml.readStored bytes = .error (.unknownEncoding name))
      (unknown : Xml.Encoding.ofName name unitSize = .unknown) :
      BreaksDown command found (.encoding (.unknownEncoding name))
  | transformEncoding {bytes : ByteArray} {name : String} {unitSize : Nat}
      (read : found = .ok bytes)
      (unread : Xml.readStored bytes = .error (.transformEncoding name))
      (transform : Xml.Encoding.ofName name unitSize = .transform) :
      BreaksDown command found (.encoding (.transformEncoding name))
  | indentation {output : Option String} {indentation : Int} (holds : HoldsSchema found)
      (asked : command.action = .parse output indentation) (beyond : BeyondText indentation) :
      BreaksDown command found .indentation

/-- Whether a message begins with the mark of bad news. -/
def isBadNews (message : String) : Bool := message.toList.head? = some '✗'

/-- The reports that users are promised. A schema is answered with the status of success and without
bad news. Anything else is answered with the status of failure, without output, and with bad news
once, behind the log. -/
inductive Promised (found : Except Path.Obstacle ByteArray) : Report → Prop
  | printed (holds : HoldsSchema found) (output : String) (lines : List Log.Line)
      (silent : (lines.map (·.full)).countP isBadNews = 0) :
      Promised found { ending := ⟨0, output, joinLines (lines.map (·.full))⟩ }
  | refused (lacks : ¬HoldsSchema found) (lines : List Log.Line) (news : String)
      (single : (lines.map (·.full) ++ [failedMark ++ news]).countP isBadNews = 1) :
      Promised found
        { ending := ⟨1, "", joinLines (lines.map (·.full) ++ [failedMark ++ news])⟩ }

/-- A promised report shows success exactly for a schema. -/
theorem Promised.status_eq_zero_iff {found : Except Path.Obstacle ByteArray} {done : Report}
    (promised : Promised found done) : done.ending.status = 0 ↔ HoldsSchema found := by
  cases promised with
  | printed holds => simp [holds]
  | refused lacks => simp [lacks]

/-! ## Messages -/

theorem joinLines_append (left right : List String) :
    joinLines (left ++ right) = joinLines left ++ joinLines right := by
  simp [joinLines, String.join_append]

/-- Log lines begin with the name of the program. -/
theorem isBadNews_full (line : Log.Line) : isBadNews line.full = false := by
  have begins : line.full.toList.head? = some 'x' := by
    simp [Log.Line.full, Log.programLabel]
  simp [isBadNews, begins]

/-- What follows the mark of a failure is bad news. -/
theorem isBadNews_failedMark (news : String) : isBadNews (failedMark ++ news) = true := by
  simp [isBadNews, failedMark]

/-- No line of the log is bad news. -/
theorem countP_isBadNews_log (lines : List Log.Line) :
    (lines.map (·.full)).countP isBadNews = 0 := by
  simp [List.countP_eq_zero, isBadNews_full]

/-- A log with one refusal behind it has one piece of bad news. -/
theorem countP_isBadNews_refusal (lines : List Log.Line) (news : String) :
    (lines.map (·.full) ++ [failedMark ++ news]).countP isBadNews = 1 := by
  rw [List.countP_append, countP_isBadNews_log, List.countP_singleton, isBadNews_failedMark]
  rfl

/-! ## Promised reports -/

section

variable {command : Command} {found : Except Path.Obstacle ByteArray}

/-- Where a schema was found, output behind a log is what was promised. -/
theorem promised_showLog (holds : HoldsSchema found) (output : String) (lines : List Log.Line) :
    Promised found { ending := ⟨0, output, command.showLog lines⟩ } :=
  .printed holds output _ (countP_isBadNews_log _)

/-- Where no schema was found, a failure behind a log is what was promised. -/
theorem promised_failed (lacks : ¬HoldsSchema found) (lines : List Log.Line) (news : String) :
    Promised found (failed (command.showLog lines) news) := by
  rw [showLog]
  -- Which lines are shown makes no difference, since none of them is bad news.
  generalize Log.atLeast _ lines = shown
  have errors : joinLines (shown.map (·.full)) ++ failedMark ++ news ++ "\n" =
      joinLines (shown.map (·.full) ++ [failedMark ++ news]) := by
    rw [joinLines_append]
    simp [joinLines, String.append_assoc]
  rw [failed, errors]
  exact .refused lacks shown news (countP_isBadNews_refusal shown news)

/-- A schema that was read is printed unless it is to be indented beyond all text. -/
theorem reportSchema_settles (prints : command.action.Prints) (holds : HoldsSchema found)
    (lines : List Log.Line) (schema : Node) :
    match command.reportSchema (command.showLog lines) schema with
    | .error breakdown => BreaksDown command found breakdown
    | .ok done => Promised found done := by
  rw [reportSchema]
  cases asked : command.action with
  | types => exact promised_showLog holds _ lines
  | parse output indentation =>
    by_cases beyond : maxIndentation < indentation ∨ indentation < -maxIndentation - 1
    · simp only [beyond, if_true]
      exact .indentation holds asked beyond
    · simp only [beyond, if_false]
      rw [asked] at prints
      obtain rfl | rfl := prints
      · exact promised_showLog holds _ lines
      · exact promised_showLog holds _ lines

/-! ## Bytes -/

variable {bytes : ByteArray} {root : Element}

/-- Only a document with the root of a schema makes a file hold one. -/
theorem holdsSchema_ok_iff :
    HoldsSchema (.ok bytes) ↔
      ∃ root, Xml.readStored bytes = .ok root ∧ root.localName? = some "schema" := by
  constructor
  · rintro ⟨_, root, found, read, named⟩
    cases found
    exact ⟨root, read, named⟩
  · rintro ⟨root, read, named⟩
    exact ⟨bytes, root, rfl, read, named⟩

/-- A file holds a schema if its document element has the name of one. -/
theorem holdsSchema_ok_iff_name :
    HoldsSchema (.ok bytes) ↔
      (Xml.readStored bytes).toOption.bind Element.localName? = some "schema" := by
  rw [holdsSchema_ok_iff]
  cases Xml.readStored bytes <;> simp [Except.toOption]

theorem not_holdsSchema_error (obstacle : Path.Obstacle) : ¬HoldsSchema (.error obstacle) := by
  rintro ⟨bytes, root, found, -⟩
  cases found

/-- A file that cannot be read holds no schema. -/
theorem not_holdsSchema_of_unread {error : Xml.ReadError}
    (unread : Xml.readStored bytes = .error error) : ¬HoldsSchema (.ok bytes) := by
  rw [holdsSchema_ok_iff]
  rintro ⟨root, read, -⟩
  cases unread.symm.trans read

/-- A file whose document element has another name holds no schema. -/
theorem not_holdsSchema_of_root (read : Xml.readStored bytes = .ok root)
    (other : root.localName? ≠ some "schema") : ¬HoldsSchema (.ok bytes) := by
  rw [holdsSchema_ok_iff]
  rintro ⟨_, readAgain, named⟩
  cases read.symm.trans readAgain
  exact other named

/-- A document with the root of a schema is reported by what the grammar makes of it. -/
theorem reportBytes_of_schema (command : Command) (config : Config) (warnings : List Log.Line)
    (read : Xml.readStored bytes = .ok root) (named : root.localName? = some "schema") :
    ∃ lines schema, command.reportBytes config warnings bytes =
      command.reportSchema (command.showLog lines) schema := by
  cases recognized : Schema.recognize config root with
  | none => exact absurd named (Schema.recognize_eq_none_iff.1 recognized)
  | some schema =>
    rw [reportBytes, read]
    simp only [Schema.ofElement, recognized]
    exact ⟨_, schema, rfl⟩

/-- A document with another root is refused. -/
theorem reportBytes_of_other (command : Command) (config : Config) (warnings : List Log.Line)
    (read : Xml.readStored bytes = .ok root) (other : root.localName? ≠ some "schema") :
    ∃ lines news, command.reportBytes config warnings bytes =
      .ok (failed (command.showLog lines) news) := by
  have unrecognized : Schema.recognize config root = none :=
    Schema.recognize_eq_none_iff.2 other
  rw [reportBytes, read]
  simp only [Schema.ofElement, unrecognized]
  exact ⟨_, _, rfl⟩

/-- What a command reports of a file is what was promised, unless it breaks down for one of the
reasons named. -/
theorem reportBytes_settles (prints : command.action.Prints) (config : Config)
    (warnings : List Log.Line) (bytes : ByteArray) :
    match command.reportBytes config warnings bytes with
    | .error breakdown => BreaksDown command (.ok bytes) breakdown
    | .ok done => Promised (.ok bytes) done := by
  cases read : Xml.readStored bytes with
  | error error =>
    have lacks := not_holdsSchema_of_unread read
    rw [reportBytes, read]
    cases error with
    | malformed reason => exact promised_failed lacks warnings _
    | multiByteEncoding => exact promised_failed lacks warnings _
    | refusedEncoding name refusal => exact promised_failed lacks warnings _
    | unknownEncoding name =>
      obtain ⟨_, unknown⟩ := Xml.declared_of_readStored read
      exact .unknownEncoding rfl read unknown
    | transformEncoding name =>
      obtain ⟨_, transform⟩ := Xml.declared_of_readStored read
      exact .transformEncoding rfl read transform
  | ok root =>
    by_cases named : root.localName? = some "schema"
    · obtain ⟨lines, schema, reported⟩ := reportBytes_of_schema command config warnings read named
      rw [reported]
      exact reportSchema_settles prints (holdsSchema_ok_iff.2 ⟨root, read, named⟩) lines schema
    · obtain ⟨lines, news, reported⟩ := reportBytes_of_other command config warnings read named
      rw [reported]
      exact promised_failed (not_holdsSchema_of_root read named) lines news

/-! ## Commands -/

/-- A command on a schema breaks down for its indentation only. -/
theorem not_breaksDown_of_holdsSchema (holds : HoldsSchema found)
    (room : ∀ output indentation, command.action = .parse output indentation →
      ¬BeyondText indentation) (breakdown : Breakdown) :
    ¬BreaksDown command found breakdown := by
  obtain ⟨bytes, root, rfl, read, -⟩ := holds
  rintro (⟨⟨⟩⟩ | ⟨⟨⟩⟩ | ⟨⟨⟩, unread, -⟩ | ⟨⟨⟩, unread, -⟩ | ⟨-, asked, beyond⟩)
  · cases read.symm.trans unread
  · cases read.symm.trans unread
  · exact room _ _ asked beyond

/-- Whatever stands at the path, a command breaks down for a reason or reports as promised. -/
theorem report_settles (prints : command.action.Prints) (setting : Option String)
    (found : Except Path.Obstacle ByteArray) :
    match command.report setting found with
    | .error breakdown => BreaksDown command found breakdown
    | .ok done => Promised found done := by
  cases found with
  | ok bytes =>
    rw [report]
    exact reportBytes_settles prints _ _ bytes
  | error obstacle =>
    have lacks := not_holdsSchema_error obstacle
    cases obstacle with
    | missing => exact promised_failed lacks _ _
    | zeroCharacter => exact promised_failed lacks _ _
    | folder => exact .folder rfl
    | notFolder => exact .notFolder rfl

/-- A reason for a breakdown breaks the command down, under every configuration. -/
theorem report_of_breaksDown (setting : Option String) {breakdown : Breakdown}
    (breaks : BreaksDown command found breakdown) :
    command.report setting found = .error breakdown := by
  cases breaks with
  | folder obstructed | notFolder obstructed =>
    subst obstructed
    rfl
  | unknownEncoding found unread => rw [found, report, reportBytes, unread]
  | transformEncoding found unread => rw [found, report, reportBytes, unread]
  | indentation holds asked beyond =>
    obtain ⟨bytes, root, found, read, named⟩ := holds
    obtain ⟨lines, schema, reported⟩ := reportBytes_of_schema command
      (command.configFor setting) ((Config.readOptional setting).2.map Config.Warning.line)
      read named
    rw [found, report, reported, reportSchema, asked]
    exact if_pos beyond

end

end SchemaTypes.Command
