/-!
# SHA-256

The hash function SHA-256 of the Secure Hash Standard on texts in UTF-8.  Block, schedule window and
chaining value have their widths in their types.
-/

namespace ProfileOperator

namespace Sha256

/-- The constants of the sixty-four rounds: the fractions of the cube roots of the first primes. -/
def roundConstants : List UInt32 :=
  [0x428a2f98, 0x71374491, 0xb5c0fbcf, 0xe9b5dba5, 0x3956c25b, 0x59f111f1, 0x923f82a4, 0xab1c5ed5,
    0xd807aa98, 0x12835b01, 0x243185be, 0x550c7dc3, 0x72be5d74, 0x80deb1fe, 0x9bdc06a7, 0xc19bf174,
    0xe49b69c1, 0xefbe4786, 0x0fc19dc6, 0x240ca1cc, 0x2de92c6f, 0x4a7484aa, 0x5cb0a9dc, 0x76f988da,
    0x983e5152, 0xa831c66d, 0xb00327c8, 0xbf597fc7, 0xc6e00bf3, 0xd5a79147, 0x06ca6351, 0x14292967,
    0x27b70a85, 0x2e1b2138, 0x4d2c6dfc, 0x53380d13, 0x650a7354, 0x766a0abb, 0x81c2c92e, 0x92722c85,
    0xa2bfe8a1, 0xa81a664b, 0xc24b8b70, 0xc76c51a3, 0xd192e819, 0xd6990624, 0xf40e3585, 0x106aa070,
    0x19a4c116, 0x1e376c08, 0x2748774c, 0x34b0bcb5, 0x391c0cb3, 0x4ed8aa4a, 0x5b9cca4f, 0x682e6ff3,
    0x748f82ee, 0x78a5636f, 0x84c87814, 0x8cc70208, 0x90befffa, 0xa4506ceb, 0xbef9a3f7, 0xc67178f2]

abbrev Chain := Vector UInt32 8

/-- The first chaining value: the fractions of the square roots of the first primes. -/
def initial : Chain :=
  #v[0x6a09e667, 0xbb67ae85, 0x3c6ef372, 0xa54ff53a,
    0x510e527f, 0x9b05688c, 0x1f83d9ab, 0x5be0cd19]

def rotate (w : UInt32) (n : UInt32) : UInt32 :=
  w >>> n ||| w <<< (32 - n)

/-- The sixteen schedule words that start with the word of the present round. -/
abbrev Window := Vector UInt32 16

def Window.next (w : Window) : Window :=
  let s0 := rotate w[1] 7 ^^^ rotate w[1] 18 ^^^ w[1] >>> 3
  let s1 := rotate w[14] 17 ^^^ rotate w[14] 19 ^^^ w[14] >>> 10
  Vector.ofFn fun i =>
    if h : i.val + 1 < 16 then w[i.val + 1] else w[0] + s0 + w[9] + s1

def round (v : Chain) (constant word : UInt32) : Chain :=
  let s1 := rotate v[4] 6 ^^^ rotate v[4] 11 ^^^ rotate v[4] 25
  let choice := (v[4] &&& v[5]) ^^^ (~~~v[4] &&& v[6])
  let t1 := v[7] + s1 + choice + constant + word
  let s0 := rotate v[0] 2 ^^^ rotate v[0] 13 ^^^ rotate v[0] 22
  let majority := (v[0] &&& v[1]) ^^^ (v[0] &&& v[2]) ^^^ (v[1] &&& v[2])
  #v[t1 + s0 + majority, v[0], v[1], v[2], v[3] + t1, v[4], v[5], v[6]]

def rounds (window : Window) (v : Chain) : List UInt32 -> Chain
  | [] => v
  | constant :: rest => rounds window.next (round v constant window[0]) rest

def compress (v : Chain) (block : Window) : Chain :=
  Vector.zipWith (· + ·) v (rounds block v roundConstants)

/-! ### Padding -/

def bigEndian64 (n : Nat) : List UInt8 :=
  [56, 48, 40, 32, 24, 16, 8, 0].map fun shift => (n >>> shift).toUInt8

def zeroCount (size : Nat) : Nat :=
  (119 - size % 64) % 64

/-- The message, a one bit, zeros, and the length in bits. -/
def pad (message : List UInt8) : List UInt8 :=
  message ++ 0x80 :: List.replicate (zeroCount message.length) 0 ++
    bigEndian64 (message.length * 8)

/-- Padding fills whole blocks of sixty-four bytes. -/
theorem length_pad (message : List UInt8) : (pad message).length % 64 = 0 := by
  simp only [pad, bigEndian64, zeroCount, List.length_append, List.length_cons,
    List.length_replicate, List.length_map, List.length_nil]
  omega

def wordAt (bytes : List UInt8) (i : Nat) : UInt32 :=
  [0, 1, 2, 3].foldl (fun w k => w <<< 8 ||| (bytes.getD (4 * i + k) 0).toUInt32) 0

def blockWords (bytes : List UInt8) : Window :=
  Vector.ofFn fun i => wordAt bytes i.val

def absorb (v : Chain) : Nat -> List UInt8 -> Chain
  | 0, _ => v
  | blocks + 1, bytes => absorb (compress v (blockWords (bytes.take 64))) blocks (bytes.drop 64)

def hash (message : List UInt8) : Chain :=
  let padded := pad message
  absorb initial (padded.length / 64) padded

def wordDigits (w : UInt32) : List Char :=
  [28, 24, 20, 16, 12, 8, 4, 0].map fun shift => Nat.digitChar (w.toNat >>> shift % 16)

def hexDigest (text : String) : List Char :=
  (hash text.toUTF8.toList).toList.flatMap wordDigits

/-- The example of the standard. -/
example : hexDigest "abc" =
    "ba7816bf8f01cfea414140de5dae2223b00361a396177a9cb410ff61f20015ad".toList := by
  decide +kernel

end Sha256

end ProfileOperator
