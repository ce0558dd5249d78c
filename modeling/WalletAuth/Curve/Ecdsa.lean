import WalletAuth.Curve.Secp256k1
import WalletAuth.Hash.Sha256
import WalletAuth.Encoding.BigEndian

/-!
# WalletAuth.Curve.Ecdsa — deterministic ECDSA signatures and public-key recovery

Signatures are made over a 32-byte digest with the per-signature secret drawn
deterministically from the key and the digest (HMAC-SHA-256 bit generator), and are always
given in low-`s` form, the parity of `R.y` flipping with `s`. Recovery inverts signing: from
`(r, s)`, the parity of `R.y` and the digest it rebuilds the one public key that makes the
signature valid.

* `Drbg`: the HMAC bit generator, seeded with the key and the digest reduced modulo `n`.
* `sign`: `r = (k G).x mod n`, `s = k⁻¹ (z + r d) mod n`, then `s` folded into the low half.
* `recover`: `Q = r⁻¹ (s R − z G)`, defined only when `r` and `s` lie in `[1, n)`, `R` exists
  and `Q` is not the point at infinity.
-/

namespace WalletAuth
namespace Ecdsa

open Secp256k1

/-- A signature with the parity of the `y` coordinate of its nonce point. -/
structure Signature where
  r : Nat
  s : Nat
  odd : Bool
  deriving DecidableEq, Repr

/-- The state `(K, V)` of the HMAC bit generator. -/
structure Drbg where
  key : ByteArray
  value : ByteArray

namespace Drbg

/-- Seeds the generator with the secret `x` and the reduced digest `h`, both 32 bytes. -/
def init (x h : ByteArray) : Drbg :=
  let k0 := ByteArray.mk (Array.replicate 32 0)
  let v0 := ByteArray.mk (Array.replicate 32 1)
  let k1 := Sha256.hmac k0 (v0 ++ ⟨#[0]⟩ ++ x ++ h)
  let v1 := Sha256.hmac k1 v0
  let k2 := Sha256.hmac k1 (v1 ++ ⟨#[1]⟩ ++ x ++ h)
  ⟨k2, Sha256.hmac k2 v1⟩

/-- The next 32 output bytes and the generator after them. -/
def next (g : Drbg) : ByteArray × Drbg :=
  let v := Sha256.hmac g.key g.value
  let k := Sha256.hmac g.key (v ++ ⟨#[0]⟩)
  (v, ⟨k, Sha256.hmac k v⟩)

end Drbg

/-- The first output of the generator that is a scalar in `[1, n)`, among `fuel` outputs. -/
def firstScalar : Nat → Drbg → Option Nat
  | 0, _ => none
  | fuel + 1, g =>
    let (out, g') := g.next
    let k := BigEndian.toNat out
    if 0 < k ∧ k < n then some k else firstScalar fuel g'

/-- The deterministic per-signature secret for key `d` and digest value `z`. Each candidate
is out of range with probability below `2⁻¹²⁷`, so eight candidates always suffice. -/
def secretFor (d z : Nat) : Option Nat :=
  firstScalar 8 (Drbg.init (BigEndian.ofNat 32 d) (BigEndian.ofNat 32 (z % n)))

/-- Folds `s` into the low half `[1, n/2]`, flipping the parity with it. -/
def Signature.lowS (sig : Signature) : Signature :=
  if sig.s > n / 2 then { sig with s := n - sig.s, odd := !sig.odd } else sig

/-- Signs the digest `hash` with the secret scalar `d`. -/
def sign (d : Nat) (hash : ByteArray) : Option Signature := do
  let z := BigEndian.toNat hash
  let k ← secretFor d z
  let R ← mul k G
  let r := R.x % n
  let s := invMod n k * ((z + r * d) % n) % n
  if r = 0 ∨ s = 0 then none
  else some (Signature.lowS ⟨r, s, R.y % 2 == 1⟩)

/-- The public key of a secret scalar. -/
def publicKey (d : Nat) : Option Point := mul d G

/-- The public key that makes `sig` a valid signature of `hash`, if there is one. -/
def recover (hash : ByteArray) (sig : Signature) : Option Point := do
  if sig.r = 0 ∨ sig.r ≥ n ∨ sig.s = 0 ∨ sig.s ≥ n then none
  let R ← liftX sig.r sig.odd
  let z := BigEndian.toNat hash % n
  let rInv := invMod n sig.r
  lincomb ((n - z * rInv % n) % n) (sig.s * rInv % n) R

end Ecdsa
end WalletAuth
