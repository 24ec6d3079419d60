import SchemaTypes.Text.Hexadecimal

/-!
# Digests

The SHA-256 digest of a sequence of bytes. A message is padded to whole blocks of 64 bytes, and each
block is folded into a state of eight words by 64 rounds. All arithmetic is on words of 32 bits.
-/

namespace SchemaTypes.Digest

/-- The words the rounds add: the first 32 bits behind the point of the cube roots of the first 64
primes. -/
def roundConstants : List UInt32 :=
  [0x428A2F98, 0x71374491, 0xB5C0FBCF, 0xE9B5DBA5, 0x3956C25B, 0x59F111F1, 0x923F82A4, 0xAB1C5ED5,
   0xD807AA98, 0x12835B01, 0x243185BE, 0x550C7DC3, 0x72BE5D74, 0x80DEB1FE, 0x9BDC06A7, 0xC19BF174,
   0xE49B69C1, 0xEFBE4786, 0x0FC19DC6, 0x240CA1CC, 0x2DE92C6F, 0x4A7484AA, 0x5CB0A9DC, 0x76F988DA,
   0x983E5152, 0xA831C66D, 0xB00327C8, 0xBF597FC7, 0xC6E00BF3, 0xD5A79147, 0x06CA6351, 0x14292967,
   0x27B70A85, 0x2E1B2138, 0x4D2C6DFC, 0x53380D13, 0x650A7354, 0x766A0ABB, 0x81C2C92E, 0x92722C85,
   0xA2BFE8A1, 0xA81A664B, 0xC24B8B70, 0xC76C51A3, 0xD192E819, 0xD6990624, 0xF40E3585, 0x106AA070,
   0x19A4C116, 0x1E376C08, 0x2748774C, 0x34B0BCB5, 0x391C0CB3, 0x4ED8AA4A, 0x5B9CCA4F, 0x682E6FF3,
   0x748F82EE, 0x78A5636F, 0x84C87814, 0x8CC70208, 0x90BEFFFA, 0xA4506CEB, 0xBEF9A3F7, 0xC67178F2]

/-- The eight words that blocks are folded into. -/
structure State where
  a : UInt32
  b : UInt32
  c : UInt32
  d : UInt32
  e : UInt32
  f : UInt32
  g : UInt32
  h : UInt32

/-- The words before the first block: the first 32 bits behind the point of the square roots of the
first eight primes. -/
def State.initial : State :=
  ⟨0x6A09E667, 0xBB67AE85, 0x3C6EF372, 0xA54FF53A,
   0x510E527F, 0x9B05688C, 0x1F83D9AB, 0x5BE0CD19⟩

/-- The words of the state, in order. -/
def State.words (state : State) : List UInt32 :=
  [state.a, state.b, state.c, state.d, state.e, state.f, state.g, state.h]

/-- The state with another one added to it word by word. -/
def State.add (left right : State) : State :=
  ⟨left.a + right.a, left.b + right.b, left.c + right.c, left.d + right.d,
   left.e + right.e, left.f + right.f, left.g + right.g, left.h + right.h⟩

/-- The word turned to the right by a number of bits between 1 and 31. -/
def rotate (word amount : UInt32) : UInt32 := (word >>> amount) ||| (word <<< (32 - amount))

/-- One round, with a word of the message and a constant. -/
def round (state : State) (word constant : UInt32) : State :=
  let mixedE := rotate state.e 6 ^^^ rotate state.e 11 ^^^ rotate state.e 25
  let choice := (state.e &&& state.f) ^^^ (~~~state.e &&& state.g)
  let incoming := state.h + mixedE + choice + constant + word
  let mixedA := rotate state.a 2 ^^^ rotate state.a 13 ^^^ rotate state.a 22
  let majority := (state.a &&& state.b) ^^^ (state.a &&& state.c) ^^^ (state.b &&& state.c)
  ⟨incoming + (mixedA + majority), state.a, state.b, state.c, state.d + incoming, state.e, state.f,
   state.g⟩

/-- The words of a block followed by as many words made from them as asked for. -/
def extend (block : Vector UInt32 16) : (count : Nat) → Vector UInt32 (16 + count)
  | 0 => block
  | count + 1 =>
    let words := extend block count
    let early := words[count + 1]
    let late := words[count + 14]
    let mixedEarly := rotate early 7 ^^^ rotate early 18 ^^^ (early >>> 3)
    let mixedLate := rotate late 17 ^^^ rotate late 19 ^^^ (late >>> 10)
    words.push (words[count] + mixedEarly + words[count + 9] + mixedLate)

/-- The state with a block folded into it. -/
def compress (state : State) (block : Vector UInt32 16) : State :=
  let rounds := (extend block 48).toList.zip roundConstants
  state.add (rounds.foldl (fun state (word, constant) => round state word constant) state)

/-- The `count` lowest bytes of a number, highest first. -/
def bigEndian : (count value : Nat) → List UInt8
  | 0, _ => []
  | count + 1, value => bigEndian count (value / 256) ++ [UInt8.ofNat value]

/-- A message padded to whole blocks: a single one bit, zeros, and the length in bits. -/
def padded (message : List UInt8) : List UInt8 :=
  let size := message.length
  message ++ 0x80 :: List.replicate ((119 - size % 64) % 64) 0 ++ bigEndian 8 (8 * size)

/-- The word of four bytes from a position on. -/
def wordAt (bytes : Array UInt8) (position : Nat) : UInt32 :=
  (List.range 4).foldl (fun word offset =>
    (word <<< 8) ||| (bytes.getD (position + offset) 0).toUInt32) 0

/-- The block with a number, from zero. -/
def blockAt (bytes : Array UInt8) (number : Nat) : Vector UInt32 16 :=
  Vector.ofFn fun index => wordAt bytes (64 * number + 4 * index.val)

/-- The state after a whole message. -/
def ofBytes (message : List UInt8) : State :=
  let bytes := (padded message).toArray
  (List.range (bytes.size / 64)).foldl (fun state number => compress state (blockAt bytes number))
    .initial

/-- The digest of a message in 64 hexadecimal digits. -/
def hex (message : List UInt8) : String :=
  String.ofList ((ofBytes message).words.flatMap fun word => Text.hexDigits 8 word.toNat)

end SchemaTypes.Digest
