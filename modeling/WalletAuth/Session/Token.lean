import WalletAuth.Encoding.Base64
import WalletAuth.Encoding.BigEndian

/-!
# WalletAuth.Session.Token — where session tokens come from

A session token is 32 bytes written in base64, 44 characters. The source here is a counter: its
`k`-th token (from 0) is the big-endian number `k + 1` in 32 bytes, so that no two tokens it
hands out are equal.
-/

namespace WalletAuth

/-- The bytes of one session token. -/
def tokenBytes : Nat := 32

/-- A counting source of session tokens. -/
structure TokenSource where
  issued : Nat := 0
  deriving DecidableEq, Repr

/-- The text of a session token: its bytes in base64. -/
def tokenText (bytes : ByteArray) : String := Base64.encode bytes

namespace TokenSource

/-- The token of the next draw, and the source after it. -/
def draw (t : TokenSource) : String × TokenSource :=
  (tokenText (BigEndian.ofNat tokenBytes (t.issued + 1)), { issued := t.issued + 1 })

end TokenSource
end WalletAuth
