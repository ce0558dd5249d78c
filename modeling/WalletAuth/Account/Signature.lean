import WalletAuth.Account.Key
import WalletAuth.Auth.Error

/-!
# WalletAuth.Account.Signature — checking a personal-message signature against an account

A signature is 65 bytes `r ‖ s ‖ v`; the recovery byte `v` is 0, 1, 27 or 28, its parity
naming the parity of `R.y`. A high `s` is folded to `n − s` with the parity flipped before
recovery, so a signature and its mirror image verify alike.

* `decodeSignature`: hex text to bytes, `0x` optional; anything else is a malformed signature.
* `recoverSigner`: the account whose key made a signature, if any.
* `verifySignature`: the recovered account must be the claimed one, byte for byte.
-/

namespace WalletAuth

/-- Length of an `r ‖ s ‖ v` signature. -/
def signatureLength : Nat := 65

/-- Decodes a signature as wallets submit it. -/
def decodeSignature (s : String) : Except AuthError ByteArray :=
  match Hex.decode s with
  | .ok b => .ok b
  | .error _ => .error .malformedSignature

/-- The recovery bytes that carry a parity. -/
def recoveryParity? (v : UInt8) : Option Bool :=
  if v == 0 || v == 27 then some false
  else if v == 1 || v == 28 then some true
  else none

/-- The signature in the bytes, if they are 65 long with a known recovery byte. -/
def parseSignature? (bytes : ByteArray) : Option Ecdsa.Signature :=
  if bytes.size ≠ signatureLength then none
  else
    (recoveryParity? (bytes.get! 64)).map fun odd =>
      ⟨BigEndian.toNat (bytes.extract 0 32), BigEndian.toNat (bytes.extract 32 64), odd⟩

/-- The account that signed `text`, if the signature recovers one. -/
def recoverSigner (text : String) (sig : Ecdsa.Signature) : Option Address :=
  (Ecdsa.recover (personalDigest text) sig.lowS).map Address.ofPublicKey

/-- Checks that `bytes` is a signature of `text` by the `claimed` account. -/
def verifySignature (text : String) (bytes : ByteArray) (claimed : Address) :
    Except AuthError Address :=
  match parseSignature? bytes with
  | none => .error .malformedSignature
  | some sig =>
    match recoverSigner text sig with
    | none => .error .recoveryFailed
    | some a => if a = claimed then .ok a else .error .signatureMismatch

end WalletAuth
