/-!
# WalletAuth.Hash.Sha1 — the SHA-1 digest

A key-value server names a loaded script by the SHA-1 of its text, in lowercase hex.

* `compress`: the 80 steps over one 64-byte block, in four rounds of twenty.
* `digest`: Merkle–Damgård with the length in bits appended big-endian, as for SHA-256.
-/

namespace WalletAuth
namespace Sha1

/-- The initial state words. -/
def initial : Array UInt32 := #[0x67452301, 0xEFCDAB89, 0x98BADCFE, 0x10325476, 0xC3D2E1F0]

/-- Rotation of a word towards its high end. -/
def rotl (w n : UInt32) : UInt32 := (w <<< n) ||| (w >>> (32 - n))

/-- The big-endian word of the four bytes from `off`. -/
def wordAt (bytes : ByteArray) (off : Nat) : UInt32 :=
  (List.range 4).foldl (fun w j => (w <<< 8) ||| (bytes.get! (off + j)).toUInt32) 0

/-- The eighty schedule words of the block at `off`. -/
def schedule (bytes : ByteArray) (off : Nat) : Array UInt32 :=
  let first := (List.range 16).toArray.map fun j => wordAt bytes (off + 4 * j)
  (List.range 64).foldl
    (fun w i =>
      let t := i + 16
      w.push (rotl (w[t - 3]! ^^^ w[t - 8]! ^^^ w[t - 14]! ^^^ w[t - 16]!) 1))
    first

/-- The round function and constant of step `i`. -/
def mix (i : Nat) (b c d : UInt32) : UInt32 × UInt32 :=
  if i < 20 then ((b &&& c) ||| ((~~~ b) &&& d), 0x5A827999)
  else if i < 40 then (b ^^^ c ^^^ d, 0x6ED9EBA1)
  else if i < 60 then ((b &&& c) ||| (b &&& d) ||| (c &&& d), 0x8F1BBCDC)
  else (b ^^^ c ^^^ d, 0xCA62C1D6)

/-- Compresses the block at `off` into the state. -/
def compress (bytes : ByteArray) (st : Array UInt32) (off : Nat) : Array UInt32 :=
  let w := schedule bytes off
  let v := (List.range 80).foldl
    (fun v i =>
      let a := v[0]!; let b := v[1]!; let c := v[2]!; let d := v[3]!; let e := v[4]!
      let (f, k) := mix i b c d
      #[rotl a 5 + f + e + k + w[i]!, a, rotl b 30, c, d])
    st
  (List.range 5).toArray.map fun i => st[i]! + v[i]!

/-- Padding: `0x80`, zeros up to 56 mod 64, then the bit length as eight big-endian bytes. -/
def pad (msg : ByteArray) : ByteArray :=
  let zeros := (119 - msg.size % 64) % 64
  let bits := 8 * msg.size
  let lenBytes := (List.range 8).map fun j => (bits / Nat.pow 2 (8 * (7 - j)) % 256).toUInt8
  msg ++ ⟨(0x80 :: List.replicate zeros 0 ++ lenBytes).toArray⟩

/-- The 20-byte SHA-1 digest. -/
def digest (msg : ByteArray) : ByteArray :=
  let padded := pad msg
  let st := (List.range (padded.size / 64)).foldl (fun s k => compress padded s (64 * k)) initial
  ⟨(List.range 20).toArray.map fun i => (st[i / 4]! >>> (8 * (3 - i % 4)).toUInt32).toUInt8⟩

end Sha1
end WalletAuth
