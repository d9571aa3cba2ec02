/-!
# SHA-256

The hash function, over lists of bytes.
-/

namespace ToolBridge.Sha256

/-- The chaining value. -/
structure Chain where
  a : UInt32
  b : UInt32
  c : UInt32
  d : UInt32
  e : UInt32
  f : UInt32
  g : UInt32
  h : UInt32
  deriving DecidableEq, Repr

/-- The first 32 bits of the fractional parts of the square roots of the
first eight primes. -/
def initial : Chain :=
  ⟨0x6a09e667, 0xbb67ae85, 0x3c6ef372, 0xa54ff53a,
   0x510e527f, 0x9b05688c, 0x1f83d9ab, 0x5be0cd19⟩

/-- The first 32 bits of the fractional parts of the cube roots of the first
sixty-four primes. -/
def roundConstants : List UInt32 :=
  [0x428a2f98, 0x71374491, 0xb5c0fbcf, 0xe9b5dba5,
   0x3956c25b, 0x59f111f1, 0x923f82a4, 0xab1c5ed5,
   0xd807aa98, 0x12835b01, 0x243185be, 0x550c7dc3,
   0x72be5d74, 0x80deb1fe, 0x9bdc06a7, 0xc19bf174,
   0xe49b69c1, 0xefbe4786, 0x0fc19dc6, 0x240ca1cc,
   0x2de92c6f, 0x4a7484aa, 0x5cb0a9dc, 0x76f988da,
   0x983e5152, 0xa831c66d, 0xb00327c8, 0xbf597fc7,
   0xc6e00bf3, 0xd5a79147, 0x06ca6351, 0x14292967,
   0x27b70a85, 0x2e1b2138, 0x4d2c6dfc, 0x53380d13,
   0x650a7354, 0x766a0abb, 0x81c2c92e, 0x92722c85,
   0xa2bfe8a1, 0xa81a664b, 0xc24b8b70, 0xc76c51a3,
   0xd192e819, 0xd6990624, 0xf40e3585, 0x106aa070,
   0x19a4c116, 0x1e376c08, 0x2748774c, 0x34b0bcb5,
   0x391c0cb3, 0x4ed8aa4a, 0x5b9cca4f, 0x682e6ff3,
   0x748f82ee, 0x78a5636f, 0x84c87814, 0x8cc70208,
   0x90befffa, 0xa4506ceb, 0xbef9a3f7, 0xc67178f2]

def rotate (amount : UInt32) (word : UInt32) : UInt32 :=
  (word >>> amount) ||| (word <<< (32 - amount))

def smallSigma0 (word : UInt32) : UInt32 :=
  rotate 7 word ^^^ rotate 18 word ^^^ (word >>> 3)

def smallSigma1 (word : UInt32) : UInt32 :=
  rotate 17 word ^^^ rotate 19 word ^^^ (word >>> 10)

def bigSigma0 (word : UInt32) : UInt32 :=
  rotate 2 word ^^^ rotate 13 word ^^^ rotate 22 word

def bigSigma1 (word : UInt32) : UInt32 :=
  rotate 6 word ^^^ rotate 11 word ^^^ rotate 25 word

def choose (x y z : UInt32) : UInt32 :=
  (x &&& y) ^^^ ((~~~ x) &&& z)

def majority (x y z : UInt32) : UInt32 :=
  (x &&& y) ^^^ (x &&& z) ^^^ (y &&& z)

/-- The schedule word that follows the sixteen words of a window. -/
def scheduleNext (window : List UInt32) : UInt32 :=
  smallSigma1 (window.getD 14 0) + window.getD 9 0 +
    smallSigma0 (window.getD 1 0) + window.getD 0 0

/-- The first `count` words of the schedule that starts with a window of
sixteen words. -/
def schedule : (count : Nat) → (window : List UInt32) → List UInt32
  | 0, _ => []
  | count + 1, window =>
      window.getD 0 0 ::
        schedule count (window.drop 1 ++ [scheduleNext window])

/-- One round, with a constant and a schedule word. -/
def round (chain : Chain) (constant word : UInt32) : Chain :=
  let first :=
    chain.h + bigSigma1 chain.e + choose chain.e chain.f chain.g + constant +
      word
  let second := bigSigma0 chain.a + majority chain.a chain.b chain.c
  ⟨first + second, chain.a, chain.b, chain.c,
   chain.d + first, chain.e, chain.f, chain.g⟩

/-- Absorb one block of sixteen words. -/
def absorb (chain : Chain) (block : List UInt32) : Chain :=
  let last :=
    (roundConstants.zip (schedule 64 block)).foldl
      (fun chain pair => round chain pair.1 pair.2) chain
  ⟨chain.a + last.a, chain.b + last.b, chain.c + last.c, chain.d + last.d,
   chain.e + last.e, chain.f + last.f, chain.g + last.g, chain.h + last.h⟩

/-- Big-endian words. -/
def words : List UInt8 → List UInt32
  | b0 :: b1 :: b2 :: b3 :: rest =>
      ((b0.toUInt32 <<< 24) ||| (b1.toUInt32 <<< 16) |||
        (b2.toUInt32 <<< 8) ||| b3.toUInt32) :: words rest
  | _ => []

/-- The `count` low bytes of a number, the highest first. -/
def bigEndian : (count : Nat) → Nat → List UInt8
  | 0, _ => []
  | count + 1, n => UInt8.ofNat (n / Nat.pow 256 count) :: bigEndian count n

/-- A message with its padding: one bit, zeros up to eight bytes short of a
block, and its length in bits. -/
def padded (message : List UInt8) : List UInt8 :=
  let zeros := (119 - message.length % 64) % 64
  message ++ 0x80 :: List.replicate zeros 0 ++ bigEndian 8 (message.length * 8)

/-- The chaining value after `count` blocks of sixteen words. -/
def absorbAll : (count : Nat) → Chain → List UInt32 → Chain
  | 0, chain, _ => chain
  | count + 1, chain, message =>
      absorbAll count (absorb chain (message.take 16)) (message.drop 16)

/-- The thirty-two bytes of the hash. -/
def digest (message : List UInt8) : List UInt8 :=
  let blocks := words (padded message)
  let chain := absorbAll (blocks.length / 16) initial blocks
  [chain.a, chain.b, chain.c, chain.d, chain.e, chain.f, chain.g,
    chain.h].flatMap fun word => bigEndian 4 word.toNat

end ToolBridge.Sha256
