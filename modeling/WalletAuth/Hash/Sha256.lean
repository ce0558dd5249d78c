/-!
# WalletAuth.Hash.Sha256 — SHA-256 and HMAC-SHA-256

Deterministic signing draws its per-signature secret from an HMAC-SHA-256 bit generator, so
both are needed byte-exact.

* `compress`: the 64-round compression of one 64-byte block into the eight state words.
* `digest`: Merkle–Damgård with the length in bits appended big-endian.
* `hmac`: `H((K ⊕ opad) ‖ H((K ⊕ ipad) ‖ m))`, with keys longer than a block hashed first.
-/

namespace WalletAuth
namespace Sha256

/-- The 64 round constants. -/
def roundConstants : Array UInt32 := #[
  0x428a2f98, 0x71374491, 0xb5c0fbcf, 0xe9b5dba5, 0x3956c25b, 0x59f111f1, 0x923f82a4, 0xab1c5ed5,
  0xd807aa98, 0x12835b01, 0x243185be, 0x550c7dc3, 0x72be5d74, 0x80deb1fe, 0x9bdc06a7, 0xc19bf174,
  0xe49b69c1, 0xefbe4786, 0x0fc19dc6, 0x240ca1cc, 0x2de92c6f, 0x4a7484aa, 0x5cb0a9dc, 0x76f988da,
  0x983e5152, 0xa831c66d, 0xb00327c8, 0xbf597fc7, 0xc6e00bf3, 0xd5a79147, 0x06ca6351, 0x14292967,
  0x27b70a85, 0x2e1b2138, 0x4d2c6dfc, 0x53380d13, 0x650a7354, 0x766a0abb, 0x81c2c92e, 0x92722c85,
  0xa2bfe8a1, 0xa81a664b, 0xc24b8b70, 0xc76c51a3, 0xd192e819, 0xd6990624, 0xf40e3585, 0x106aa070,
  0x19a4c116, 0x1e376c08, 0x2748774c, 0x34b0bcb5, 0x391c0cb3, 0x4ed8aa4a, 0x5b9cca4f, 0x682e6ff3,
  0x748f82ee, 0x78a5636f, 0x84c87814, 0x8cc70208, 0x90befffa, 0xa4506ceb, 0xbef9a3f7, 0xc67178f2]

/-- The initial state words. -/
def initial : Array UInt32 := #[
  0x6a09e667, 0xbb67ae85, 0x3c6ef372, 0xa54ff53a, 0x510e527f, 0x9b05688c, 0x1f83d9ab, 0x5be0cd19]

/-- Rotation of a word towards its low end. -/
def rotr (w n : UInt32) : UInt32 := (w >>> n) ||| (w <<< (32 - n))

/-- The big-endian word of the four bytes from `off`. -/
def wordAt (bytes : ByteArray) (off : Nat) : UInt32 :=
  (List.range 4).foldl (fun w j => (w <<< 8) ||| (bytes.get! (off + j)).toUInt32) 0

/-- The message schedule of the block at `off`: sixteen words read, forty-eight derived. -/
def schedule (bytes : ByteArray) (off : Nat) : Array UInt32 :=
  let first := (List.range 16).toArray.map fun j => wordAt bytes (off + 4 * j)
  (List.range 48).foldl
    (fun w i =>
      let t := i + 16
      let x := w[t - 15]!
      let y := w[t - 2]!
      let s0 := rotr x 7 ^^^ rotr x 18 ^^^ (x >>> 3)
      let s1 := rotr y 17 ^^^ rotr y 19 ^^^ (y >>> 10)
      w.push (w[t - 16]! + s0 + w[t - 7]! + s1))
    first

/-- The working variables `a … h` after one round. -/
def step (v : Array UInt32) (kw : UInt32) : Array UInt32 :=
  let a := v[0]!; let b := v[1]!; let c := v[2]!; let d := v[3]!
  let e := v[4]!; let f := v[5]!; let g := v[6]!; let h := v[7]!
  let s1 := rotr e 6 ^^^ rotr e 11 ^^^ rotr e 25
  let ch := (e &&& f) ^^^ ((~~~ e) &&& g)
  let t1 := h + s1 + ch + kw
  let s0 := rotr a 2 ^^^ rotr a 13 ^^^ rotr a 22
  let maj := (a &&& b) ^^^ (a &&& c) ^^^ (b &&& c)
  #[t1 + s0 + maj, a, b, c, d + t1, e, f, g]

/-- Compresses the block at `off` into the state. -/
def compress (bytes : ByteArray) (st : Array UInt32) (off : Nat) : Array UInt32 :=
  let w := schedule bytes off
  let v := (List.range 64).foldl (fun v i => step v (roundConstants[i]! + w[i]!)) st
  (List.range 8).toArray.map fun i => st[i]! + v[i]!

/-- Padding: `0x80`, zeros up to 56 mod 64, then the bit length as eight big-endian bytes. -/
def pad (msg : ByteArray) : ByteArray :=
  let zeros := (119 - msg.size % 64) % 64
  let bits := 8 * msg.size
  let lenBytes := (List.range 8).map fun j => (bits / Nat.pow 2 (8 * (7 - j)) % 256).toUInt8
  msg ++ ⟨(0x80 :: List.replicate zeros 0 ++ lenBytes).toArray⟩

/-- The 32-byte SHA-256 digest. -/
def digest (msg : ByteArray) : ByteArray :=
  let padded := pad msg
  let st := (List.range (padded.size / 64)).foldl (fun s k => compress padded s (64 * k)) initial
  ⟨(List.range 32).toArray.map fun i => (st[i / 4]! >>> (8 * (3 - i % 4)).toUInt32).toUInt8⟩

/-- The block size of SHA-256 in bytes. -/
def blockSize : Nat := 64

/-- HMAC-SHA-256 of `msg` under `key`. -/
def hmac (key msg : ByteArray) : ByteArray :=
  let k := if key.size > blockSize then digest key else key
  let block := k.toList ++ List.replicate (blockSize - k.size) 0
  let inner := ByteArray.mk (block.map (· ^^^ 0x36)).toArray
  let outer := ByteArray.mk (block.map (· ^^^ 0x5c)).toArray
  digest (outer ++ digest (inner ++ msg))

end Sha256
end WalletAuth
