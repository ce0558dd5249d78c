/-!
# WalletAuth.Hash.Keccak — the Keccak-256 digest

Account addresses, their checksums and the personal-message digest are all Keccak-256: the
Keccak sponge over the 1600-bit permutation with a 1088-bit rate and the first multi-rate
padding (`0x01 … 0x80`), not the later `0x06` domain byte.

* `permute`: the 24 rounds of θ, ρ, π, χ and ι on the 25 lanes, lane `x + 5 y`.
* `absorb`: one rate-sized block is xored into the first 17 lanes, then the state is permuted.
* `digest`: pads, absorbs block by block, and reads 32 bytes off the lanes, least significant
  byte first.
-/

namespace WalletAuth
namespace Keccak

/-- The round constants of ι, one per round. -/
def roundConstants : Array UInt64 := #[
  0x0000000000000001, 0x0000000000008082, 0x800000000000808A, 0x8000000080008000,
  0x000000000000808B, 0x0000000080000001, 0x8000000080008081, 0x8000000000008009,
  0x000000000000008A, 0x0000000000000088, 0x0000000080008009, 0x000000008000000A,
  0x000000008000808B, 0x800000000000008B, 0x8000000000008089, 0x8000000000008003,
  0x8000000000008002, 0x8000000000000080, 0x000000000000800A, 0x800000008000000A,
  0x8000000080008081, 0x8000000000008080, 0x0000000080000001, 0x8000000080008008]

/-- The ρ offsets, lane `x + 5 y`. -/
def rotations : Array UInt64 := #[
  0, 1, 62, 28, 27,
  36, 44, 6, 55, 20,
  3, 10, 43, 25, 39,
  41, 45, 15, 21, 8,
  18, 2, 61, 56, 14]

/-- Rotation of a lane towards its high end. -/
def rotl (w n : UInt64) : UInt64 :=
  if n = 0 then w else (w <<< n) ||| (w >>> (64 - n))

/-- The lane at column `x` and row `y`. -/
@[inline] def lane (a : Array UInt64) (x y : Nat) : UInt64 :=
  a[x % 5 + 5 * (y % 5)]!

/-- θ: every lane takes the parity of the two neighbouring columns. -/
def theta (a : Array UInt64) : Array UInt64 :=
  let parity := (List.range 5).toArray.map fun x =>
    lane a x 0 ^^^ lane a x 1 ^^^ lane a x 2 ^^^ lane a x 3 ^^^ lane a x 4
  let d := (List.range 5).toArray.map fun x =>
    parity[(x + 4) % 5]! ^^^ rotl parity[(x + 1) % 5]! 1
  (List.range 25).toArray.map fun i => a[i]! ^^^ d[i % 5]!

/-- ρ and π together: lane `(x, y)` is rotated and moved to `(y, 2x + 3y)`. -/
def rhoPi (a : Array UInt64) : Array UInt64 :=
  (List.range 25).foldl
    (fun b i =>
      let x := i % 5
      let y := i / 5
      b.set! (y + 5 * ((2 * x + 3 * y) % 5)) (rotl a[i]! rotations[i]!))
    (Array.replicate 25 0)

/-- χ: the only non-linear step, along each row. -/
def chi (b : Array UInt64) : Array UInt64 :=
  (List.range 25).toArray.map fun i =>
    let x := i % 5
    let y := i / 5
    lane b x y ^^^ ((~~~ lane b (x + 1) y) &&& lane b (x + 2) y)

/-- One round, with its round constant added by ι. -/
def round (a : Array UInt64) (rc : UInt64) : Array UInt64 :=
  let b := chi (rhoPi (theta a))
  b.set! 0 (b[0]! ^^^ rc)

/-- Keccak-f[1600]: the 24 rounds in order. -/
def permute (a : Array UInt64) : Array UInt64 :=
  roundConstants.foldl round a

/-- The rate of Keccak-256 in bytes. -/
def rate : Nat := 136

/-- The little-endian word of the eight bytes from `off`. -/
def wordAt (bytes : ByteArray) (off : Nat) : UInt64 :=
  (List.range 8).foldl (fun w j => w ||| ((bytes.get! (off + j)).toUInt64 <<< (8 * j).toUInt64)) 0

/-- Xors the block at byte offset `off` into the first 17 lanes and permutes. -/
def absorb (bytes : ByteArray) (a : Array UInt64) (off : Nat) : Array UInt64 :=
  permute <| (List.range (rate / 8)).foldl
    (fun s j => s.set! j (s[j]! ^^^ wordAt bytes (off + 8 * j))) a

/-- The multi-rate padding: a `0x01` byte, zeros, and `0x80` on the last byte of the block;
one byte `0x81` when a single byte is missing. -/
def pad (msg : ByteArray) : ByteArray :=
  let padLen := rate - msg.size % rate
  let tail := (List.range padLen).map fun j =>
    (if j = 0 then (0x01 : UInt8) else 0) ||| (if j + 1 = padLen then 0x80 else 0)
  msg ++ ⟨tail.toArray⟩

/-- The 32-byte Keccak-256 digest. -/
def digest (msg : ByteArray) : ByteArray :=
  let padded := pad msg
  let state := (List.range (padded.size / rate)).foldl
    (fun s k => absorb padded s (k * rate)) (Array.replicate 25 0)
  ⟨(List.range 32).toArray.map fun i =>
    ((state[i / 8]! >>> (8 * (i % 8)).toUInt64) &&& 0xff).toUInt8⟩

end Keccak
end WalletAuth
