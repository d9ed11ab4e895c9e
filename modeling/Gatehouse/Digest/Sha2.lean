import Gatehouse.Bytes

/-!
# SHA-2 and HMAC

SHA-256, SHA-384 and SHA-512 from one definition. A `Variant` holds what sets the members of the family
apart: the width of the word, the initial state, the round constants, the rotations and the length of
the digest. `hmac` makes message authentication codes by any of them.
-/

namespace Gatehouse.Digest

namespace Sha2

/-- Three amounts by which a word is rotated, or rotated twice and shifted. -/
structure Amounts where
  first : Nat
  second : Nat
  third : Nat

/-- One member of the family. -/
structure Variant where
  /-- The width of a word in bytes; a block has sixteen words. -/
  wordBytes : Nat
  /-- The eight words of the initial state. -/
  start : List (BitVec (8 * wordBytes))
  /-- One constant for each round. -/
  constants : List (BitVec (8 * wordBytes))
  /-- The rotations of the two sums of the state. -/
  bigSums : Amounts × Amounts
  /-- The rotations, and last the shifts, of the two sums of the message schedule. -/
  smallSums : Amounts × Amounts
  /-- The length of the digest in bytes. -/
  digestBytes : Nat

namespace Variant

variable (v : Variant)

abbrev Word : Type := BitVec (8 * v.wordBytes)

def blockBytes : Nat := 16 * v.wordBytes

/-! ### Words and blocks -/

/-- The word of some bytes, the most significant one first. -/
def wordOf (b : Bytes) : v.Word :=
  b.foldl (fun w x => w <<< 8 ||| BitVec.ofNat _ x.toNat) 0

/-- The bytes of a number, the most significant one first. -/
def bigEndian : (count : Nat) → Nat → Bytes
  | 0, _ => []
  | count + 1, n => bigEndian count (n / 256) ++ [UInt8.ofNat (n % 256)]

/-- Cuts a byte string into pieces of `size` bytes; a shorter rest is dropped. -/
def pieces (size : Nat) : (fuel : Nat) → Bytes → List Bytes
  | 0, _ => []
  | fuel + 1, b =>
    let piece := b.take size
    if size = 0 ∨ piece.length < size then [] else piece :: pieces size fuel (b.drop size)

/-- A message with its padding: a one bit, zeros, and the length of the message in bits as a number of
two words. -/
def padded (message : Bytes) : Bytes :=
  let used := (message.length + 1 + 2 * v.wordBytes) % v.blockBytes
  message ++ 0x80 :: List.replicate ((v.blockBytes - used) % v.blockBytes) 0 ++
    bigEndian (2 * v.wordBytes) (8 * message.length)

/-! ### The compression function -/

/-- The sum of three rotations of a word. -/
def bigSum (a : Amounts) (w : v.Word) : v.Word :=
  w.rotateRight a.first ^^^ w.rotateRight a.second ^^^ w.rotateRight a.third

/-- The sum of two rotations and a shift of a word. -/
def smallSum (a : Amounts) (w : v.Word) : v.Word :=
  w.rotateRight a.first ^^^ w.rotateRight a.second ^^^ w >>> a.third

/-- Extends a message schedule by `count` words. The schedule is held last word first. -/
def extend : (count : Nat) → List v.Word → List v.Word
  | 0, schedule => schedule
  | count + 1, schedule =>
    let back (n : Nat) : v.Word := schedule[n - 1]?.getD 0
    extend count <|
      (v.smallSum v.smallSums.2 (back 2) + back 7 + v.smallSum v.smallSums.1 (back 15) + back 16) ::
        schedule

/-- The eight working words. -/
structure State where
  a : v.Word
  b : v.Word
  c : v.Word
  d : v.Word
  e : v.Word
  f : v.Word
  g : v.Word
  h : v.Word

/-- One round with the sum of a schedule word and a constant. -/
def round (s : v.State) (k : v.Word) : v.State :=
  let choice := (s.e &&& s.f) ^^^ (~~~s.e &&& s.g)
  let majority := (s.a &&& s.b) ^^^ (s.a &&& s.c) ^^^ (s.b &&& s.c)
  let first := s.h + v.bigSum v.bigSums.2 s.e + choice + k
  let second := v.bigSum v.bigSums.1 s.a + majority
  ⟨first + second, s.a, s.b, s.c, s.d + first, s.e, s.f, s.g⟩

def State.words {v : Variant} (s : v.State) : List v.Word := [s.a, s.b, s.c, s.d, s.e, s.f, s.g, s.h]

def stateOf (words : List v.Word) : v.State :=
  let word (n : Nat) : v.Word := words[n]?.getD 0
  ⟨word 0, word 1, word 2, word 3, word 4, word 5, word 6, word 7⟩

/-- Mixes one block into the chaining words. -/
def compress (chain : List v.Word) (block : Bytes) : List v.Word :=
  let message := (pieces v.wordBytes 16 block).map v.wordOf
  let schedule := (v.extend (v.constants.length - 16) message.reverse).reverse
  let final := (List.zipWith (· + ·) schedule v.constants).foldl v.round (v.stateOf chain)
  List.zipWith (· + ·) chain final.words

def hash (message : Bytes) : Bytes :=
  let text := v.padded message
  let chain := (pieces v.blockBytes text.length text).foldl v.compress v.start
  (chain.flatMap fun w => bigEndian v.wordBytes w.toNat).take v.digestBytes

end Variant

/-! ### The members of the family -/

/-- The round constants of the 64-bit members: the first 64 bits of the fractional parts of the cube
roots of the first eighty primes. -/
def constants64 : List (BitVec 64) :=
  [0x428a2f98d728ae22, 0x7137449123ef65cd, 0xb5c0fbcfec4d3b2f, 0xe9b5dba58189dbbc,
    0x3956c25bf348b538, 0x59f111f1b605d019, 0x923f82a4af194f9b, 0xab1c5ed5da6d8118,
    0xd807aa98a3030242, 0x12835b0145706fbe, 0x243185be4ee4b28c, 0x550c7dc3d5ffb4e2,
    0x72be5d74f27b896f, 0x80deb1fe3b1696b1, 0x9bdc06a725c71235, 0xc19bf174cf692694,
    0xe49b69c19ef14ad2, 0xefbe4786384f25e3, 0x0fc19dc68b8cd5b5, 0x240ca1cc77ac9c65,
    0x2de92c6f592b0275, 0x4a7484aa6ea6e483, 0x5cb0a9dcbd41fbd4, 0x76f988da831153b5,
    0x983e5152ee66dfab, 0xa831c66d2db43210, 0xb00327c898fb213f, 0xbf597fc7beef0ee4,
    0xc6e00bf33da88fc2, 0xd5a79147930aa725, 0x06ca6351e003826f, 0x142929670a0e6e70,
    0x27b70a8546d22ffc, 0x2e1b21385c26c926, 0x4d2c6dfc5ac42aed, 0x53380d139d95b3df,
    0x650a73548baf63de, 0x766a0abb3c77b2a8, 0x81c2c92e47edaee6, 0x92722c851482353b,
    0xa2bfe8a14cf10364, 0xa81a664bbc423001, 0xc24b8b70d0f89791, 0xc76c51a30654be30,
    0xd192e819d6ef5218, 0xd69906245565a910, 0xf40e35855771202a, 0x106aa07032bbd1b8,
    0x19a4c116b8d2d0c8, 0x1e376c085141ab53, 0x2748774cdf8eeb99, 0x34b0bcb5e19b48a8,
    0x391c0cb3c5c95a63, 0x4ed8aa4ae3418acb, 0x5b9cca4f7763e373, 0x682e6ff3d6b2b8a3,
    0x748f82ee5defb2fc, 0x78a5636f43172f60, 0x84c87814a1f0ab72, 0x8cc702081a6439ec,
    0x90befffa23631e28, 0xa4506cebde82bde9, 0xbef9a3f7b2c67915, 0xc67178f2e372532b,
    0xca273eceea26619c, 0xd186b8c721c0c207, 0xeada7dd6cde0eb1e, 0xf57d4f7fee6ed178,
    0x06f067aa72176fba, 0x0a637dc5a2c898a6, 0x113f9804bef90dae, 0x1b710b35131c471b,
    0x28db77f523047d84, 0x32caab7b40c72493, 0x3c9ebe0a15c9bebc, 0x431d67c49c100d4c,
    0x4cc5d4becb3e42b6, 0x597f299cfc657e2a, 0x5fcb6fab3ad6faec, 0x6c44198c4a475817]

/-- The round constants of the 32-bit member: the upper halves of the first 64 of the others. -/
def constants32 : List (BitVec 32) :=
  [0x428a2f98, 0x71374491, 0xb5c0fbcf, 0xe9b5dba5, 0x3956c25b, 0x59f111f1, 0x923f82a4, 0xab1c5ed5,
    0xd807aa98, 0x12835b01, 0x243185be, 0x550c7dc3, 0x72be5d74, 0x80deb1fe, 0x9bdc06a7, 0xc19bf174,
    0xe49b69c1, 0xefbe4786, 0x0fc19dc6, 0x240ca1cc, 0x2de92c6f, 0x4a7484aa, 0x5cb0a9dc, 0x76f988da,
    0x983e5152, 0xa831c66d, 0xb00327c8, 0xbf597fc7, 0xc6e00bf3, 0xd5a79147, 0x06ca6351, 0x14292967,
    0x27b70a85, 0x2e1b2138, 0x4d2c6dfc, 0x53380d13, 0x650a7354, 0x766a0abb, 0x81c2c92e, 0x92722c85,
    0xa2bfe8a1, 0xa81a664b, 0xc24b8b70, 0xc76c51a3, 0xd192e819, 0xd6990624, 0xf40e3585, 0x106aa070,
    0x19a4c116, 0x1e376c08, 0x2748774c, 0x34b0bcb5, 0x391c0cb3, 0x4ed8aa4a, 0x5b9cca4f, 0x682e6ff3,
    0x748f82ee, 0x78a5636f, 0x84c87814, 0x8cc70208, 0x90befffa, 0xa4506ceb, 0xbef9a3f7, 0xc67178f2]

def sha256 : Variant where
  wordBytes := 4
  start :=
    [0x6a09e667, 0xbb67ae85, 0x3c6ef372, 0xa54ff53a,
      0x510e527f, 0x9b05688c, 0x1f83d9ab, 0x5be0cd19]
  constants := constants32
  bigSums := (⟨2, 13, 22⟩, ⟨6, 11, 25⟩)
  smallSums := (⟨7, 18, 3⟩, ⟨17, 19, 10⟩)
  digestBytes := 32

def sha512 : Variant where
  wordBytes := 8
  start :=
    [0x6a09e667f3bcc908, 0xbb67ae8584caa73b, 0x3c6ef372fe94f82b, 0xa54ff53a5f1d36f1,
      0x510e527fade682d1, 0x9b05688c2b3e6c1f, 0x1f83d9abfb41bd6b, 0x5be0cd19137e2179]
  constants := constants64
  bigSums := (⟨28, 34, 39⟩, ⟨14, 18, 41⟩)
  smallSums := (⟨1, 8, 7⟩, ⟨19, 61, 6⟩)
  digestBytes := 64

/-- SHA-384: SHA-512 with another initial state and a shorter digest. -/
def sha384 : Variant := { sha512 with
  start :=
    [0xcbbb9d5dc1059ed8, 0x629a292a367cd507, 0x9159015a3070dd17, 0x152fecd8f70e5939,
      0x67332667ffc00b31, 0x8eb44a8768581511, 0xdb0c2e0d64f98fa7, 0x47b5481dbefa4fa4]
  digestBytes := 48 }

end Sha2

/-! ## Message authentication codes -/

/-- The key as it goes into the first block: hashed when it is longer than a block, filled with zeros
when it is shorter. -/
def Hmac.blockKey (v : Sha2.Variant) (key : Bytes) : Bytes :=
  let short := if v.blockBytes < key.length then v.hash key else key
  short ++ List.replicate (v.blockBytes - short.length) 0

/-- The authentication code of a message under a key. -/
def hmac (v : Sha2.Variant) (key message : Bytes) : Bytes :=
  let blockKey := Hmac.blockKey v key
  let inner := v.hash (blockKey.map (· ^^^ 0x36) ++ message)
  v.hash (blockKey.map (· ^^^ 0x5c) ++ inner)

end Gatehouse.Digest
