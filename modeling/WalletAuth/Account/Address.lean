import WalletAuth.Encoding.Hex
import WalletAuth.Encoding.BigEndian
import WalletAuth.Hash.Keccak
import WalletAuth.Curve.Secp256k1

/-!
# WalletAuth.Account.Address — 20-byte account addresses and their checksummed form

An account is named by the last 20 bytes of the Keccak-256 digest of its public key. Its
canonical text is `0x` and 40 hex digits in mixed case (EIP-55): a letter digit is uppercase
exactly when the matching nibble of the Keccak-256 digest of the lowercase digits is 8 or more.

* `Address.checksummed` writes the canonical text; `Address.lowerHex` the plain digits.
* `Address.parseChecksummed` accepts only the canonical text, `Address.parseHex` any case.
* `Address.parseAccount` is the rule for caller-supplied accounts: `0x`, 40 hex digits, all
  lowercase, all uppercase, or exactly checksummed.
-/

namespace WalletAuth

/-- A 20-byte account address. -/
structure Address where
  val : Fin (Nat.pow 2 160)
  deriving DecidableEq, Hashable, Repr

namespace Address

/-- The address of a byte string of length 20 (extra high bytes are dropped). -/
def ofBytes (b : ByteArray) : Address := ⟨Fin.ofNat _ (BigEndian.toNat b)⟩

/-- The 20 bytes, most significant first. -/
def toBytes (a : Address) : ByteArray := BigEndian.ofNat 20 a.val.val

/-- The 40 lowercase hex digits, without prefix. -/
def lowerHex (a : Address) : String := Hex.encode a.toBytes

/-- `0x` and the 40 lowercase hex digits. -/
def lowerPrefixed (a : Address) : String := "0x" ++ a.lowerHex

/-- The EIP-55 case of each digit: uppercase where the digest nibble is at least 8. -/
def checksumDigits (lower : String) : String :=
  let digest := Keccak.digest lower.toUTF8
  let nibble (i : Nat) : Nat :=
    let b := (digest.get! (i / 2)).toNat
    if i % 2 = 0 then b / 16 else b % 16
  String.ofList <| (lower.toList.zipIdx).map fun (c, i) =>
    if nibble i ≥ 8 then c.toUpper else c

/-- The canonical text: `0x` and the EIP-55 checksummed digits. -/
def checksummed (a : Address) : String := "0x" ++ checksumDigits a.lowerHex

/-- The address of a public key: the last 20 bytes of the digest of `x ‖ y`. -/
def ofPublicKey (P : Secp256k1.Point) : Address :=
  ofBytes ((Keccak.digest (BigEndian.ofNat 32 P.x ++ BigEndian.ofNat 32 P.y)).extract 12 32)

/-- Why a text is not a checksummed address. -/
inductive ParseError where
  | hex (e : Hex.DecodeError)
  | badChecksum
  deriving DecidableEq, Repr

/-- The wording of an address failure. -/
def ParseError.message : ParseError → String
  | .hex e => e.message
  | .badChecksum => "Bad address checksum"

/-- Any-case hex of 20 bytes, with an optional `0x` or `0X`. -/
def parseHex (s : String) : Except Hex.DecodeError Address :=
  (Hex.decodeExact 20 s).map ofBytes

/-- Only the canonical checksummed text. -/
def parseChecksummed (s : String) : Except ParseError Address :=
  if !s.startsWith "0x" then .error (.hex .wrongLength)
  else
    match parseHex s with
    | .error e => .error (.hex e)
    | .ok a => if s == a.checksummed then .ok a else .error .badChecksum

/-- A hex digit in either case. -/
def isHexDigit (c : Char) : Bool :=
  c.isDigit || ('a' ≤ c && c ≤ 'f') || ('A' ≤ c && c ≤ 'F')

/-- A caller-supplied account: `0x` and 40 hex digits, in one case or checksummed. -/
def parseAccount (s : String) : Option Address :=
  if !s.startsWith "0x" then none
  else
    let digits := s.drop 2 |>.toString
    if digits.length ≠ 40 || !digits.toList.all isHexDigit then none
    else
      let uniform := digits == digits.toLower || digits == digits.toUpper
      if uniform then (parseHex s).toOption
      else (parseChecksummed s).toOption

end Address
end WalletAuth
