import OnDemandTls.Bytes.Base64

namespace OnDemandTls

/-!
# SHA-256

The digest of a sequence of bytes: the padded message is cut into blocks of
sixteen words, and each block is mixed into eight words in 64 rounds.
-/

namespace Sha256

/-- The eight words that blocks are mixed into. -/
structure State where
  a : UInt32
  b : UInt32
  c : UInt32
  d : UInt32
  e : UInt32
  f : UInt32
  g : UInt32
  h : UInt32

/-- The words before the first block. -/
def initial : State :=
  ⟨0x6a09e667, 0xbb67ae85, 0x3c6ef372, 0xa54ff53a, 0x510e527f, 0x9b05688c, 0x1f83d9ab, 0x5be0cd19⟩

/-- The constants of the rounds. -/
def constants : List UInt32 :=
  [ 0x428a2f98, 0x71374491, 0xb5c0fbcf, 0xe9b5dba5, 0x3956c25b, 0x59f111f1, 0x923f82a4, 0xab1c5ed5
  , 0xd807aa98, 0x12835b01, 0x243185be, 0x550c7dc3, 0x72be5d74, 0x80deb1fe, 0x9bdc06a7, 0xc19bf174
  , 0xe49b69c1, 0xefbe4786, 0x0fc19dc6, 0x240ca1cc, 0x2de92c6f, 0x4a7484aa, 0x5cb0a9dc, 0x76f988da
  , 0x983e5152, 0xa831c66d, 0xb00327c8, 0xbf597fc7, 0xc6e00bf3, 0xd5a79147, 0x06ca6351, 0x14292967
  , 0x27b70a85, 0x2e1b2138, 0x4d2c6dfc, 0x53380d13, 0x650a7354, 0x766a0abb, 0x81c2c92e, 0x92722c85
  , 0xa2bfe8a1, 0xa81a664b, 0xc24b8b70, 0xc76c51a3, 0xd192e819, 0xd6990624, 0xf40e3585, 0x106aa070
  , 0x19a4c116, 0x1e376c08, 0x2748774c, 0x34b0bcb5, 0x391c0cb3, 0x4ed8aa4a, 0x5b9cca4f, 0x682e6ff3
  , 0x748f82ee, 0x78a5636f, 0x84c87814, 0x8cc70208, 0x90befffa, 0xa4506ceb, 0xbef9a3f7, 0xc67178f2 ]

/-- Turn a word right by some bits. -/
def turn
    (x n : UInt32) :
    UInt32 :=
  (x >>> n) ||| (x <<< (32 - n))

/-- Some words, the last first, with so many more words of the schedule. -/
def extend : Nat → List UInt32 → List UInt32
  | 0, words => words
  | more + 1, words =>
      let near := words.getD 1 0
      let far := words.getD 14 0
      let next :=
        (turn near 17 ^^^ turn near 19 ^^^ (near >>> 10)) + words.getD 6 0 +
          (turn far 7 ^^^ turn far 18 ^^^ (far >>> 3)) + words.getD 15 0
      extend more (next :: words)

/-- One round with the sum of a constant and a word of the schedule. -/
def round
    (s : State)
    (addend : UInt32) :
    State :=
  let t1 :=
    s.h + (turn s.e 6 ^^^ turn s.e 11 ^^^ turn s.e 25) + ((s.e &&& s.f) ^^^ (~~~s.e &&& s.g)) +
      addend
  let t2 :=
    (turn s.a 2 ^^^ turn s.a 13 ^^^ turn s.a 22) +
      ((s.a &&& s.b) ^^^ (s.a &&& s.c) ^^^ (s.b &&& s.c))
  ⟨t1 + t2, s.a, s.b, s.c, s.d + t1, s.e, s.f, s.g⟩

/-- Mix a block of sixteen words in. -/
def mix
    (s : State)
    (block : List UInt32) :
    State :=
  let schedule := (extend 48 block.reverse).reverse
  let r := (List.zipWith (· + ·) constants schedule).foldl round s
  ⟨s.a + r.a, s.b + r.b, s.c + r.c, s.d + r.d, s.e + r.e, s.f + r.f, s.g + r.g, s.h + r.h⟩

/-- The lowest bytes of a number, so many of them, the highest first. -/
def bigEndian : Nat → Nat → Bytes
  | 0, _ => []
  | count + 1, n => bigEndian count (n / 256) ++ [UInt8.ofNat n]

/-- A message with a one bit, zeros, and its length in bits. -/
def pad (message : Bytes) : Bytes :=
  let zeros := (119 - message.length % 64) % 64
  message ++ 0x80 :: List.replicate zeros 0 ++ bigEndian 8 (8 * message.length)

/-- The words of some bytes. -/
def words : Bytes → List UInt32
  | a :: b :: c :: d :: rest =>
      ((a.toUInt32 <<< 24) ||| (b.toUInt32 <<< 16) ||| (c.toUInt32 <<< 8) ||| d.toUInt32) ::
        words rest
  | _ => []

/-- Mix so many blocks of sixteen words in. -/
def mixAll : Nat → State → List UInt32 → State
  | 0, s, _ => s
  | count + 1, s, ws => mixAll count (mix s (ws.take 16)) (ws.drop 16)

/-- The 32 bytes of the digest of a message. -/
def digest (message : Bytes) : Bytes :=
  let ws := words (pad message)
  let s := mixAll (ws.length / 16) initial ws
  [s.a, s.b, s.c, s.d, s.e, s.f, s.g, s.h].flatMap (fun word => bigEndian 4 word.toNat)

end Sha256

end OnDemandTls
