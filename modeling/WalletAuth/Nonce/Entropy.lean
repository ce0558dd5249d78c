import WalletAuth.Encoding.Hex

/-!
# WalletAuth.Nonce.Entropy — where nonces come from

A nonce is sixteen bytes drawn from an entropy source, written as 32 lowercase hex digits.
The source here is a counter: its `k`-th draw (from 0) fills all sixteen bytes with
`start + k * step` modulo 256, so that nonces are distinct for 256 draws when the step is odd.
-/

namespace WalletAuth

/-- The bytes of one nonce. -/
def nonceBytes : Nat := 16

/-- A counting entropy source. -/
structure SteppedEntropy where
  start : Nat := 0
  step : Nat := 1
  drawn : Nat := 0
  deriving DecidableEq, Repr

/-- The text of a nonce: its bytes in lowercase hex. -/
def nonceText (bytes : ByteArray) : String := Hex.encode bytes

namespace SteppedEntropy

/-- The byte of the next draw. -/
def nextByte (e : SteppedEntropy) : UInt8 := UInt8.ofNat ((e.start + e.drawn * e.step) % 256)

/-- A nonce of the next draw, and the source after it. -/
def draw (e : SteppedEntropy) : String × SteppedEntropy :=
  (nonceText ⟨(List.replicate nonceBytes e.nextByte).toArray⟩, { e with drawn := e.drawn + 1 })

end SteppedEntropy
end WalletAuth
