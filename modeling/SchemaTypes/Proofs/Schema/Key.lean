import SchemaTypes.Proofs.Config.Fingerprint
import SchemaTypes.Schema.Cached

/-!
# What a key tells

A request's key is the digest of the configuration's fingerprint, a zero, and the document.
Requests for the same thing have the same key. Where the digest tells two messages apart, requests
with one key have the same bytes; for configurations with plain parts they are then requests for the
same thing. Without that they need not be, and a request may be answered with the result of another.
-/

namespace SchemaTypes.Schema.Request

/-- Requests for the same thing: one document under configurations that mean the same. -/
structure Agree (left right : Request) : Prop where
  text : left.text = right.text
  config : left.config.Agree right.config

theorem Agree.refl (request : Request) : request.Agree request := ⟨rfl, .refl request.config⟩

variable {left right : Request}

/-- Requests for the same thing have the same bytes. -/
theorem Agree.bytes_eq (agree : left.Agree right) : left.bytes = right.bytes := by
  rw [bytes, bytes, agree.config.fingerprint_eq, agree.text]

/-- Requests for the same thing have the same key. -/
theorem Agree.key_eq (agree : left.Agree right) : left.key = right.key := by
  rw [key, key, agree.bytes_eq]

/-! ## From bytes to characters -/

private theorem toList_loop (bytes : ByteArray) (position : Nat) (taken : List UInt8) :
    ByteArray.toList.loop bytes position taken =
      taken.reverse ++ bytes.data.toList.drop position := by
  fun_induction ByteArray.toList.loop bytes position taken with
  | case1 position taken inside inductionHypothesis =>
    have bound : position < bytes.data.toList.length := inside
    have byte : bytes.get! position = bytes.data.toList[position] := by
      rw [ByteArray.get!]
      exact getElem!_pos bytes.data position inside
    rw [inductionHypothesis, List.drop_eq_getElem_cons bound, byte, List.reverse_cons,
      List.append_assoc, List.singleton_append]
  | case2 position taken outside =>
    have ended : bytes.data.toList.length ≤ position := Nat.le_of_not_lt outside
    rw [List.drop_eq_nil_of_le ended, List.append_nil]

private theorem toList_toUTF8 (text : String) : text.toUTF8.toList = text.toByteArray.data.toList := by
  rw [ByteArray.toList, toList_loop]
  rfl

/-- The bytes of a request are those of one text. -/
theorem bytes_eq (request : Request) :
    request.bytes =
      (request.config.fingerprint ++ ("\x00" ++ request.text)).toByteArray.data.toList := by
  have zero : "\x00".toByteArray.data.toList = [0] := by decide
  rw [bytes, toList_toUTF8, toList_toUTF8, String.toByteArray_append, String.toByteArray_append,
    ByteArray.toList_data_append, ByteArray.toList_data_append, zero]
  rfl

/-- Requests with the same bytes have the same fingerprint, zero and document, character by
character. -/
theorem toList_eq_of_bytes_eq (same : left.bytes = right.bytes) :
    left.config.fingerprint.toList ++ '\x00' :: left.text.toList =
      right.config.fingerprint.toList ++ '\x00' :: right.text.toList := by
  rw [bytes_eq, bytes_eq] at same
  have texts := String.toByteArray_inj.1 (ByteArray.ext (Array.toList_inj.1 same))
  simpa using congrArg String.toList texts

/-- Of plain configurations, requests with the same bytes are for the same thing. -/
theorem agree_of_bytes_eq (plainLeft : left.config.Plain) (plainRight : right.config.Plain)
    (same : left.bytes = right.bytes) : left.Agree right := by
  obtain ⟨configs, texts⟩ := plainLeft.agree_of_fingerprint plainRight (toList_eq_of_bytes_eq same)
  exact ⟨String.toList_inj.1 texts, configs⟩

/-! ## Keys -/

/-- Requests for the same thing have one key, whatever the order of the overrides. Of plain
configurations, requests that the digest does not confuse have one key only if they are for the same
thing. -/
theorem key_separates (left right : Request) :
    (left.Agree right → left.key = right.key) ∧
      (left.config.Plain → right.config.Plain →
        (Digest.hex left.bytes = Digest.hex right.bytes → left.bytes = right.bytes) →
          left.key = right.key → left.Agree right) := by
  constructor
  · intro agree
    exact agree.key_eq
  · intro plainLeft plainRight separates same
    exact agree_of_bytes_eq plainLeft plainRight (separates same)

/-- A request whose configuration names two overrides in one order. -/
def ordered : Request := ⟨"<schema/>", { overrides := .ofList [("date", "Day"), ("time", "")] }⟩

/-- The request whose configuration names them in the other order. -/
def reordered : Request := ⟨"<schema/>", { overrides := .ofList [("time", ""), ("date", "Day")] }⟩

/-- The order of the overrides makes no difference to the key. -/
theorem key_separates_reordered : ordered.key = reordered.key ∧ ordered.Agree reordered := by
  have overrides : ∀ name, ordered.config.overrides.find? name =
      reordered.config.overrides.find? name := by
    intro name
    simp only [ordered, reordered, Overrides.ofList, List.foldl_cons, List.foldl_nil,
      Overrides.find?_insert]
    grind
  have same : ordered.key = reordered.key :=
    (key_separates ordered reordered).1 ⟨rfl, rfl, overrides, rfl⟩
  have bytes : ordered.bytes = reordered.bytes := Agree.bytes_eq ⟨rfl, rfl, overrides, rfl⟩
  have plain : ordered.config.Plain ∧ reordered.config.Plain :=
    ⟨⟨by decide, by decide⟩, ⟨by decide, by decide⟩⟩
  exact ⟨same, (key_separates ordered reordered).2 plain.1 plain.2 (fun _ => bytes) same⟩

/-! ## Confusion -/

/-- A document with a field of a type `c`. -/
def document : String :=
  "<schema><group name='g'><sequence><element name='f' type='c'/></sequence></group></schema>"

/-- A request with one override, whose target goes on like a second override. -/
def joined : Request := ⟨document, { overrides := .ofList [("a", "b,c=d")] }⟩

/-- The request with the two overrides that the other one looks like. -/
def parted : Request := ⟨document, { overrides := .ofList [("a", "b"), ("c", "d")] }⟩

/-- The types of the fields in what reading a document gives. -/
def fieldTypes (outcome : Except Failure Node) : List String :=
  (outcome.toOption.toList.flatMap Node.flatten).filterMap (·.fieldType)

/-- Requests for different things may have one key, although the document reads differently under
their configurations. -/
theorem key_joined_eq_key_parted :
    joined.key = parted.key ∧ ¬ joined.Agree parted ∧
      fieldTypes (ofText joined.config joined.text) = ["c"] ∧
      fieldTypes (ofText parted.config parted.text) = ["d"] := by
  have one : joined.config.overrides.sorted = [("a", "b,c=d")] := by cbv
  have two : parted.config.overrides.sorted = [("a", "b"), ("c", "d")] := by cbv
  have overrides : joined.config.overridesText = parted.config.overridesText := by
    rw [Config.overridesText, Config.overridesText, one, two]
    decide
  have fingerprints : joined.config.fingerprint = parted.config.fingerprint := by
    rw [← String.toList_inj, Config.toList_fingerprint, Config.toList_fingerprint, overrides]
    rfl
  refine ⟨?_, ?_, by decide +kernel, by decide +kernel⟩
  · rw [key, key, bytes, bytes, fingerprints]
    rfl
  · intro agree
    have targets := agree.config.overrides "c"
    revert targets
    decide

end SchemaTypes.Schema.Request
