import SchemaTypes.Text.Digit
import SchemaTypes.Xml.Charset
import SchemaTypes.Xml.Declaration

/-!
# Encodings

A stored document begins as bytes. A byte order mark or the first two bytes tell whether code units
have one byte or two, and the XML declaration may then name the encoding of everything behind it.
Decoding gives the characters up to the first bytes that encode none.
-/

namespace SchemaTypes.Xml

/-- How bytes stand for characters. -/
inductive Encoding where
  | utf8
  | utf16 (bigEndian : Bool)
  | ascii
  | latin1
  /-- ASCII below 128 without some characters, and the characters listed from there on. -/
  | oneByte (absent : List Char) (upper : List (Option Char))
  deriving DecidableEq

/-- Characters, what comes after the last of them, and which of them count as letters. -/
structure Source where
  text : List Char
  ending : Ending
  alphabet : Alphabet

namespace Encoding

/-- The number of bytes in a code unit. -/
def unitSize : Encoding → Nat
  | utf16 _ => 2
  | _ => 1

/-- Whether bytes that were found to be in one encoding cannot be in a declared one. A table for
single bytes is applied to whatever bytes there are. -/
def contradicts (declared found : Encoding) : Bool :=
  match declared with
  | oneByte .. => false
  | utf16 _ => declared != found
  | utf8 | ascii | latin1 => found.unitSize != 1

/-- Which characters count as letters in texts of an encoding. -/
def alphabet : Encoding → Alphabet
  | utf16 _ | latin1 => .latin
  | _ => .strict

/-- Whether a byte goes on with a character that takes several. -/
def isTail (byte : UInt8) : Bool := 0x80 ≤ byte && byte ≤ 0xBF

/-- The low six bits of a byte. -/
def sixBits (byte : UInt8) : Nat := byte.toNat % 64

/-- Decodes UTF-8 behind characters decoded before, last first. -/
def decodeUtf8 : List UInt8 → List Char → List Char × Ending
  | [], done => (done.reverse, .complete)
  | a :: rest, done =>
    if a < 0x80 then decodeUtf8 rest (Char.ofNat a.toNat :: done)
    else if 0xC0 ≤ a && a ≤ 0xDF then
      match rest with
      | [] => (done.reverse, .truncated)
      | b :: rest =>
        if 0xC2 ≤ a && isTail b then
          decodeUtf8 rest (Char.ofNat (a.toNat % 32 * 64 + sixBits b) :: done)
        else (done.reverse, .broken)
    else if 0xE0 ≤ a && a ≤ 0xEF then
      match rest with
      | b :: c :: rest =>
        let low : UInt8 := if a = 0xE0 then 0xA0 else 0x80
        let high : UInt8 := if a = 0xED then 0x9F else 0xBF
        if low ≤ b && b ≤ high && isTail c then
          decodeUtf8 rest
            (Char.ofNat (a.toNat % 16 * 4096 + sixBits b * 64 + sixBits c) :: done)
        else (done.reverse, .broken)
      | _ => (done.reverse, .truncated)
    else if 0xF0 ≤ a && a ≤ 0xF4 then
      match rest with
      | b :: c :: d :: rest =>
        let low : UInt8 := if a = 0xF0 then 0x90 else 0x80
        let high : UInt8 := if a = 0xF4 then 0x8F else 0xBF
        if low ≤ b && b ≤ high && isTail c && isTail d then
          decodeUtf8 rest (Char.ofNat
            (a.toNat % 8 * 262144 + sixBits b * 4096 + sixBits c * 64 + sixBits d) :: done)
        else (done.reverse, .broken)
      | _ => (done.reverse, .truncated)
    else (done.reverse, .broken)

/-- Decodes UTF-16 behind characters decoded before, last first. A unit that begins a pair forms
one with whatever follows. -/
def decodeUtf16 (bigEndian : Bool) : List UInt8 → List Char → List Char × Ending
  | [], done => (done.reverse, .complete)
  | [_], done => (done.reverse, .halfUnit)
  | a :: b :: rest, done =>
    let unit := if bigEndian then a.toNat * 256 + b.toNat else b.toNat * 256 + a.toNat
    if 0xD800 ≤ unit && unit < 0xDC00 then
      match rest with
      | c :: d :: rest =>
        let next := if bigEndian then c.toNat * 256 + d.toNat else d.toNat * 256 + c.toNat
        decodeUtf16 bigEndian rest
          (Char.ofNat (0x10000 + unit % 1024 * 1024 + next % 1024) :: done)
      | _ => (done.reverse, .truncated)
    else if 0xDC00 ≤ unit && unit < 0xE000 then (done.reverse, .broken)
    else decodeUtf16 bigEndian rest (Char.ofNat unit :: done)

/-- Decodes bytes one by one behind characters decoded before, last first. -/
def decodeBytes (character : UInt8 → Option Char) : List UInt8 → List Char → List Char × Ending
  | [], done => (done.reverse, .complete)
  | byte :: rest, done =>
    match character byte with
    | some c => decodeBytes character rest (c :: done)
    | none => (done.reverse, .broken)

/-- Decodes as many bytes as encode characters. -/
def decode (encoding : Encoding) (bytes : List UInt8) : List Char × Ending :=
  match encoding with
  | utf8 => decodeUtf8 bytes []
  | utf16 bigEndian => decodeUtf16 bigEndian bytes []
  | ascii =>
    decodeBytes (fun byte => if byte < 0x80 then some (Char.ofNat byte.toNat) else none) bytes []
  | latin1 => decodeBytes (fun byte => some (Char.ofNat byte.toNat)) bytes []
  | oneByte absent upper =>
    let high := upper.toArray
    decodeBytes (fun byte =>
      if byte < 0x80 then some (Char.ofNat byte.toNat) |>.filter fun c => !absent.contains c
      else (high[byte.toNat - 128]?).getD none) bytes []

/-- The encoding the first bytes show; none if there is but one byte and it does not tell. -/
def detect? : List UInt8 → Option Encoding
  | [] => some .utf8
  | [byte] => if [0x00, 0x3C, 0xEF, 0xFE, 0xFF].contains byte then none else some .utf8
  | [0xEF, 0xBB] => none
  | 0xFE :: 0xFF :: _ => some (.utf16 true)
  | 0xFF :: 0xFE :: _ => some (.utf16 false)
  | 0x00 :: _ :: _ => some (.utf16 true)
  | _ :: 0x00 :: _ => some (.utf16 false)
  | _ => some .utf8

/-- The characters of a table of four hexadecimal digits each. -/
def readUpper (digits : List Char) : List (Option Char) :=
  match digits with
  | a :: b :: c :: d :: rest =>
    let code := Scan.codeValue 16 [a, b, c, d]
    (if code = 0xFFFD then none else some (Char.ofNat code)) :: readUpper rest
  | _ => []

/-- What a declared name says. -/
inductive Declared where
  | encoding (found : Encoding)
  /-- The encoding the bytes were found to be in, whatever their order. -/
  | asFound
  /-- A character set of several bytes. -/
  | multiByte
  /-- A character set in which markup is not where ASCII has it. -/
  | foreign
  /-- The name of something else. -/
  | transform
  /-- An encoding that cannot be tried on bytes. -/
  | refused (refusal : Charset.Refusal)
  | unknown
  deriving DecidableEq

/-- The encoding a declaration names in a document whose code units have a given size. -/
def ofName (name : String) (unitSize : Nat) : Declared :=
  let capitals := name.toUpper
  if capitals = "UTF-8" then .encoding .utf8
  else if capitals = "UTF-16" then if unitSize = 2 then .asFound else .encoding (.utf16 true)
  else if capitals = "UTF-16BE" then .encoding (.utf16 true)
  else if capitals = "UTF-16LE" then .encoding (.utf16 false)
  else if capitals = "ISO-8859-1" then .encoding .latin1
  else if capitals = "US-ASCII" then .encoding .ascii
  else
    let known := Charset.normalizedName name
    match Charset.tables.find? (·.names.contains known) with
    | some table =>
      .encoding (.oneByte table.absent (readUpper (table.upper.flatMap String.toList)))
    | none =>
      if Charset.multiByteNames.contains known then .multiByte
      else if Charset.foreignNames.contains known then .foreign
      else if Charset.transformNames.contains known then .transform
      else match Charset.refusals.lookup known with
      | some refusal => .refused refusal
      | none => .unknown

end Encoding

end SchemaTypes.Xml
