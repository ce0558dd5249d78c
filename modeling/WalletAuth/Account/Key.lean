import WalletAuth.Account.Address
import WalletAuth.Curve.Ecdsa
import WalletAuth.Text.Blank

/-!
# WalletAuth.Account.Key — secret keys and personal-message signatures

A secret key is a scalar in `[1, n)`. It is read from hex (blanks around it ignored, `0x`
optional); 24 to 31 bytes are taken as the low bytes of a 32-byte scalar, any other length
but 32 is refused. A key signs the personal-message digest of a text and answers 65 bytes
`r ‖ s ‖ v` with `v = 27 + parity`.

* `personalDigest`: Keccak-256 of `"\x19Ethereum Signed Message:\n"`, the decimal byte length
  and the text.
* `SecretKey.ofBytes`, `SecretKey.ofHex`: reading a key; `SecretKey.address` its account.
* `SecretKey.signText`: the signature bytes.
-/

namespace WalletAuth

/-- The digest an account signs for a text: the personal-message prefix, the length of the
text in bytes, and the text. -/
def personalDigest (text : String) : ByteArray :=
  Keccak.digest ("\x19Ethereum Signed Message:\n".toUTF8 ++ (toString text.utf8ByteSize).toUTF8 ++
    text.toUTF8)

/-- A secret scalar in `[1, n)`. -/
structure SecretKey where
  d : Nat
  pos : 0 < d
  lt : d < Secp256k1.n

/-- Why a text or byte string is not a secret key. -/
inductive KeyError where
  | hex (e : Hex.DecodeError)
  | outOfRange
  deriving DecidableEq, Repr

/-- The wording of a key failure. -/
def KeyError.message : KeyError → String
  | .hex e => e.message
  | .outOfRange => "signature error"

/-- Why signing failed. -/
inductive SignerError where
  | invalidKey (e : KeyError)
  | failed (reason : String)
  deriving DecidableEq, Repr

/-- The wording of a signer failure. -/
def SignerError.message : SignerError → String
  | .invalidKey e => "Invalid private key: " ++ e.message
  | .failed r => "Signing failed: " ++ r

/-- The name of a signer failure. -/
def SignerError.kind : SignerError → String
  | .invalidKey _ => "InvalidKey"
  | .failed _ => "Failed"

namespace SecretKey

/-- The key of a scalar, if it is in range. -/
def ofNat? (d : Nat) : Option SecretKey :=
  if h : 0 < d ∧ d < Secp256k1.n then some ⟨d, h.1, h.2⟩ else none

/-- A key from 32 bytes, or from 24 to 31 bytes read as the low bytes. -/
def ofBytes (b : ByteArray) : Except KeyError SecretKey :=
  if 24 ≤ b.size ∧ b.size ≤ 32 then
    match ofNat? (BigEndian.toNat b) with
    | some k => .ok k
    | none => .error .outOfRange
  else .error .outOfRange

/-- A key from hex text, blanks around it ignored and `0x` optional. -/
def ofHex (s : String) : Except KeyError SecretKey :=
  match Hex.decode (Text.trimBlank s) with
  | .error e => .error (.hex e)
  | .ok b => ofBytes b

/-- `0x` and the 64 lowercase hex digits of the scalar. -/
def toHex (k : SecretKey) : String := Hex.encodePrefixed (BigEndian.ofNat 32 k.d)

/-- The public key of the scalar. -/
def publicKey? (k : SecretKey) : Option Secp256k1.Point := Ecdsa.publicKey k.d

/-- The account of the key; a scalar in range never yields the point at infinity. -/
def address (k : SecretKey) : Address :=
  match k.publicKey? with
  | some P => Address.ofPublicKey P
  | none => ⟨⟨0, Nat.two_pow_pos 160⟩⟩

/-- `r ‖ s ‖ v` over the personal-message digest of `text`, with `v` 27 or 28. -/
def signText (k : SecretKey) (text : String) : Except SignerError ByteArray :=
  (Ecdsa.sign k.d (personalDigest text)).elim (.error (.failed "signature error")) fun sig =>
    .ok (BigEndian.ofNat 32 sig.r ++ BigEndian.ofNat 32 sig.s ++ ⟨#[if sig.odd then 28 else 27]⟩)

/-- The debug view of a signer: the key is never shown, the address in lowercase hex. -/
def redactedView (k : SecretKey) : String :=
  "LocalKeySigner \x7b key: \"[REDACTED]\", address: " ++ k.address.lowerPrefixed ++ " \x7d"

end SecretKey
end WalletAuth
