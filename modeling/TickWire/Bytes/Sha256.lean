import TickWire.Bytes.LittleEndian

/-!
# SHA-256

The 256-bit hash function of the Secure Hash Standard.  A message is padded to whole
blocks of sixteen big-endian words; each block is expanded to sixty-four words, which
are mixed one after the other into a state of eight words.
-/

namespace TickWire.Sha256

/-- The fractional parts of the cube roots of the first sixty-four primes. -/
def roundConstants : List UInt32 :=
  [0x428a2f98, 0x71374491, 0xb5c0fbcf, 0xe9b5dba5, 0x3956c25b, 0x59f111f1, 0x923f82a4,
    0xab1c5ed5, 0xd807aa98, 0x12835b01, 0x243185be, 0x550c7dc3, 0x72be5d74, 0x80deb1fe,
    0x9bdc06a7, 0xc19bf174, 0xe49b69c1, 0xefbe4786, 0x0fc19dc6, 0x240ca1cc, 0x2de92c6f,
    0x4a7484aa, 0x5cb0a9dc, 0x76f988da, 0x983e5152, 0xa831c66d, 0xb00327c8, 0xbf597fc7,
    0xc6e00bf3, 0xd5a79147, 0x06ca6351, 0x14292967, 0x27b70a85, 0x2e1b2138, 0x4d2c6dfc,
    0x53380d13, 0x650a7354, 0x766a0abb, 0x81c2c92e, 0x92722c85, 0xa2bfe8a1, 0xa81a664b,
    0xc24b8b70, 0xc76c51a3, 0xd192e819, 0xd6990624, 0xf40e3585, 0x106aa070, 0x19a4c116,
    0x1e376c08, 0x2748774c, 0x34b0bcb5, 0x391c0cb3, 0x4ed8aa4a, 0x5b9cca4f, 0x682e6ff3,
    0x748f82ee, 0x78a5636f, 0x84c87814, 0x8cc70208, 0x90befffa, 0xa4506ceb, 0xbef9a3f7,
    0xc67178f2]

/-- The eight words of the state. -/
structure State where
  a : UInt32
  b : UInt32
  c : UInt32
  d : UInt32
  e : UInt32
  f : UInt32
  g : UInt32
  h : UInt32
  deriving DecidableEq, Repr

/-- The fractional parts of the square roots of the first eight primes. -/
def State.initial : State :=
  ⟨0x6a09e667, 0xbb67ae85, 0x3c6ef372, 0xa54ff53a, 0x510e527f, 0x9b05688c, 0x1f83d9ab,
    0x5be0cd19⟩

def rotateRight (word : UInt32) (count : UInt32) : UInt32 :=
  (word >>> count) ||| (word <<< (32 - count))

/-- A word as four bytes, most significant first. -/
def wordBytes (word : UInt32) : Bytes := (LittleEndian.encode 4 word.toNat).reverse

/-- The words whose bytes are given most significant first. -/
def wordsOfBytes : Bytes → List UInt32
  | w :: x :: y :: z :: rest =>
      UInt32.ofNat (LittleEndian.decode [z, y, x, w]) :: wordsOfBytes rest
  | _ => []

/-- The message followed by a set bit, zeros, and its length in bits, so that whole
blocks of sixty-four bytes result. -/
def pad (message : Bytes) : Bytes :=
  let zeros := (119 - message.length % 64) % 64
  message ++ 0x80 :: List.replicate zeros 0
    ++ (LittleEndian.encode 8 (8 * message.length)).reverse

/-- The next word of the expanded block; `latest` are the words so far, latest first. -/
def nextWord (latest : List UInt32) : UInt32 :=
  let near := latest.getD 1 0
  let far := latest.getD 14 0
  let mixNear := rotateRight near 17 ^^^ rotateRight near 19 ^^^ (near >>> 10)
  let mixFar := rotateRight far 7 ^^^ rotateRight far 18 ^^^ (far >>> 3)
  mixNear + latest.getD 6 0 + mixFar + latest.getD 15 0

/-- Appends `count` words to the words so far, latest first. -/
def expand : (count : Nat) → List UInt32 → List UInt32
  | 0, latest => latest
  | count + 1, latest => expand count (nextWord latest :: latest)

/-- Mixes one word and its constant into the state. -/
def round (state : State) (input : UInt32 × UInt32) : State :=
  let ⟨a, b, c, d, e, f, g, h⟩ := state
  let mixE := rotateRight e 6 ^^^ rotateRight e 11 ^^^ rotateRight e 25
  let choice := (e &&& f) ^^^ (~~~e &&& g)
  let first := h + mixE + choice + input.2 + input.1
  let mixA := rotateRight a 2 ^^^ rotateRight a 13 ^^^ rotateRight a 22
  let majority := (a &&& b) ^^^ (a &&& c) ^^^ (b &&& c)
  ⟨first + (mixA + majority), a, b, c, d + first, e, f, g⟩

/-- Mixes a block of sixteen words into the state. -/
def block (state : State) (words : List UInt32) : State :=
  let mixed := ((expand 48 words.reverse).reverse.zip roundConstants).foldl round state
  ⟨state.a + mixed.a, state.b + mixed.b, state.c + mixed.c, state.d + mixed.d,
    state.e + mixed.e, state.f + mixed.f, state.g + mixed.g, state.h + mixed.h⟩

/-- Mixes `count` blocks into the state. -/
def blocks : (count : Nat) → State → List UInt32 → State
  | 0, state, _ => state
  | count + 1, state, words => blocks count (block state (words.take 16)) (words.drop 16)

/-- The thirty-two bytes of the hash of a message. -/
def digest (message : Bytes) : Bytes :=
  let words := wordsOfBytes (pad message)
  let state := blocks (words.length / 16) State.initial words
  [state.a, state.b, state.c, state.d, state.e, state.f, state.g, state.h].flatMap
    wordBytes

@[simp] theorem length_wordBytes (word : UInt32) : (wordBytes word).length = 4 := by
  simp [wordBytes]

theorem length_digest (message : Bytes) : (digest message).length = 32 := by
  simp [digest]

end TickWire.Sha256
