import WalletAuth.Text.Escaped

/-!
# WalletAuth.Encoding.Hex — hexadecimal byte strings

Keys and signatures travel as hexadecimal text, with or without a `0x` (or `0X`) prefix.
Decoding works on the UTF-8 bytes of the text: an odd number of digits is refused first, then
a wrong length where the width is fixed, then the first byte that is not a hex digit, reported
with its position after the prefix and read as a Latin-1 character.
-/

namespace WalletAuth
namespace Hex

/-- Why a text is not the hexadecimal form of a byte string. -/
inductive DecodeError where
  | oddLength
  | wrongLength
  | badDigit (c : Char) (index : Nat)
  deriving DecidableEq, Repr

/-- The wording of a decoding failure. -/
def DecodeError.message : DecodeError → String
  | .oddLength => "odd number of digits"
  | .wrongLength => "invalid string length"
  | .badDigit c i => "invalid character " ++ Text.quoteChar c ++ " at position " ++ toString i

/-- The value of a hex digit byte, either case. -/
def digitValue (b : UInt8) : Option UInt8 :=
  if 48 ≤ b ∧ b ≤ 57 then some (b - 48)
  else if 97 ≤ b ∧ b ≤ 102 then some (b - 87)
  else if 65 ≤ b ∧ b ≤ 70 then some (b - 55)
  else none

/-- The bytes after an optional `0x` or `0X`. -/
def stripPrefix (bs : List UInt8) : List UInt8 :=
  match bs with
  | 48 :: 120 :: rest => rest
  | 48 :: 88 :: rest => rest
  | _ => bs

/-- Pairs of digits to bytes; the index counts digits already read. -/
def decodePairs : List UInt8 → Nat → Except DecodeError (List UInt8)
  | [], _ => .ok []
  | [b], i => .error (.badDigit (Char.ofNat b.toNat) i)
  | hi :: lo :: rest, i =>
    match digitValue hi, digitValue lo with
    | some h, some l => (decodePairs rest (i + 2)).map ((h * 16 + l) :: ·)
    | none, _ => .error (.badDigit (Char.ofNat hi.toNat) i)
    | some _, none => .error (.badDigit (Char.ofNat lo.toNat) (i + 1))

/-- Decodes a hex text of any even length. -/
def decode (s : String) : Except DecodeError ByteArray :=
  let bs := s.toUTF8.toList
  if bs.length % 2 ≠ 0 then .error .oddLength
  else (decodePairs (stripPrefix bs) 0).map fun l => ⟨l.toArray⟩

/-- Decodes a hex text of exactly `width` bytes. -/
def decodeExact (width : Nat) (s : String) : Except DecodeError ByteArray :=
  let bs := s.toUTF8.toList
  if bs.length % 2 ≠ 0 then .error .oddLength
  else
    let digits := stripPrefix bs
    if digits.length ≠ 2 * width then .error .wrongLength
    else (decodePairs digits 0).map fun l => ⟨l.toArray⟩

/-- The lowercase hex digit of a value below 16. -/
def digitChar (v : Nat) : Char :=
  if v < 10 then Char.ofNat (48 + v) else Char.ofNat (87 + v)

/-- Lowercase hex of a byte string, without prefix. -/
def encode (b : ByteArray) : String :=
  String.ofList (b.toList.flatMap fun x => [digitChar (x.toNat / 16), digitChar (x.toNat % 16)])

/-- Lowercase hex of a byte string, with `0x`. -/
def encodePrefixed (b : ByteArray) : String := "0x" ++ encode b

end Hex
end WalletAuth
