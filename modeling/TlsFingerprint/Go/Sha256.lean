import TlsFingerprint.Go.Basic

/-!
# `crypto/sha256`: `Sum256`

The spec cache keys and the JA4 hashes are SHA-256 digests. `sum256` is the hash of FIPS 180-4
over bytes: the message is padded to whole 64-byte blocks, each block is expanded to the 64-word
schedule and compressed into the eight-word state in 64 rounds, and the final state is written out
big-endian. A `Digest` carries its length, 32 bytes, as a field.

The results that use a digest hold for every function into `Digest` and take it as a parameter;
`sum256` is the one the program calls.
-/

namespace TlsFingerprint.Go

/-- A SHA-256 digest: 32 bytes. -/
structure Digest where
  bytes : List UInt8
  length_bytes : bytes.length = 32

namespace Sha256

/-- The round constants `K`. -/
def k : Array UInt32 := #[
  0x428a2f98, 0x71374491, 0xb5c0fbcf, 0xe9b5dba5, 0x3956c25b, 0x59f111f1, 0x923f82a4, 0xab1c5ed5,
  0xd807aa98, 0x12835b01, 0x243185be, 0x550c7dc3, 0x72be5d74, 0x80deb1fe, 0x9bdc06a7, 0xc19bf174,
  0xe49b69c1, 0xefbe4786, 0x0fc19dc6, 0x240ca1cc, 0x2de92c6f, 0x4a7484aa, 0x5cb0a9dc, 0x76f988da,
  0x983e5152, 0xa831c66d, 0xb00327c8, 0xbf597fc7, 0xc6e00bf3, 0xd5a79147, 0x06ca6351, 0x14292967,
  0x27b70a85, 0x2e1b2138, 0x4d2c6dfc, 0x53380d13, 0x650a7354, 0x766a0abb, 0x81c2c92e, 0x92722c85,
  0xa2bfe8a1, 0xa81a664b, 0xc24b8b70, 0xc76c51a3, 0xd192e819, 0xd6990624, 0xf40e3585, 0x106aa070,
  0x19a4c116, 0x1e376c08, 0x2748774c, 0x34b0bcb5, 0x391c0cb3, 0x4ed8aa4a, 0x5b9cca4f, 0x682e6ff3,
  0x748f82ee, 0x78a5636f, 0x84c87814, 0x8cc70208, 0x90befffa, 0xa4506ceb, 0xbef9a3f7, 0xc67178f2]

/-- The initial hash value `H(0)`. -/
def initialHash : List UInt32 :=
  [0x6a09e667, 0xbb67ae85, 0x3c6ef372, 0xa54ff53a, 0x510e527f, 0x9b05688c, 0x1f83d9ab, 0x5be0cd19]

/-- Rotation right by `n` bits. -/
def rotr (x n : UInt32) : UInt32 := (x >>> n) ||| (x <<< (32 - n))

def bigSigma0 (x : UInt32) : UInt32 := rotr x 2 ^^^ rotr x 13 ^^^ rotr x 22

def bigSigma1 (x : UInt32) : UInt32 := rotr x 6 ^^^ rotr x 11 ^^^ rotr x 25

def smallSigma0 (x : UInt32) : UInt32 := rotr x 7 ^^^ rotr x 18 ^^^ (x >>> 3)

def smallSigma1 (x : UInt32) : UInt32 := rotr x 17 ^^^ rotr x 19 ^^^ (x >>> 10)

def ch (x y z : UInt32) : UInt32 := (x &&& y) ^^^ (~~~x &&& z)

def maj (x y z : UInt32) : UInt32 := (x &&& y) ^^^ (x &&& z) ^^^ (y &&& z)

/-- The message padded to whole 64-byte blocks: `0x80`, zeros, and the length in bits as a
big-endian 64-bit number. -/
def pad (msg : List UInt8) : List UInt8 :=
  msg ++ (0x80 : UInt8) :: List.replicate ((119 - msg.length % 64) % 64) (0 : UInt8) ++
    (List.range 8).reverse.map fun i => UInt8.ofNat ((msg.length * 8) >>> (8 * i))

/-- The big-endian word of four bytes. -/
def word (b : List UInt8) : UInt32 := b.foldl (fun w x => (w <<< 8) ||| x.toUInt32) 0

/-- The 64-byte blocks of a padded message, with fuel for the number of blocks. -/
def blocks : Nat → List UInt8 → List (List UInt8)
  | 0, _ => []
  | n + 1, bs => if bs.isEmpty then [] else bs.take 64 :: blocks n (bs.drop 64)

/-- The message schedule `W` of a block: its 16 words, then 48 more. -/
def schedule (block : List UInt8) : Array UInt32 :=
  (List.range' 16 48).foldl (fun w t => w.push (smallSigma1 (w.getD (t - 2) 0) + w.getD (t - 7) 0 +
      smallSigma0 (w.getD (t - 15) 0) + w.getD (t - 16) 0))
    ((List.range 16).map fun t => word ((block.drop (4 * t)).take 4)).toArray

/-- Round `t` on the working variables `a, …, h`. -/
def round (w : Array UInt32) : List UInt32 → Nat → List UInt32
  | [a, b, c, d, e, f, g, h], t =>
    let t1 := h + bigSigma1 e + ch e f g + k.getD t 0 + w.getD t 0
    let t2 := bigSigma0 a + maj a b c
    [t1 + t2, a, b, c, d + t1, e, f, g]
  | v, _ => v

/-- One block compressed into the hash value. -/
def compress (hash : List UInt32) (block : List UInt8) : List UInt32 :=
  List.zipWith (· + ·) hash ((List.range 64).foldl (round (schedule block)) hash)

end Sha256

/-- `sha256.Sum256(msg)`. -/
def sum256 (msg : List UInt8) : Digest :=
  let padded := Sha256.pad msg
  let hash := (Sha256.blocks padded.length padded).foldl Sha256.compress Sha256.initialHash
  ⟨(List.range 32).map fun i => ((hash.getD (i / 4) 0) >>> (8 * (3 - i % 4)).toUInt32).toUInt8,
    by simp⟩

end TlsFingerprint.Go
