import WalletAuth.Time.Rfc3339
import WalletAuth.Message.Error

/-!
# WalletAuth.Message.Timestamp — message instants that keep their text

A signed message is a text, so an instant inside it keeps the exact text it was read from
(any offset, any number of fraction digits) beside the instant it denotes: writing the message
again gives back the bytes that were signed. Instants the server makes itself are cut to whole
milliseconds and written `YYYY-MM-DDTHH:MM:SS.sssZ`.
-/

namespace WalletAuth

/-- An instant together with the text that names it. -/
structure Timestamp where
  text : String
  at_ : Instant
  deriving DecidableEq, Repr

namespace Timestamp

/-- Reads a timestamp, keeping its text. -/
def parse (text : String) : Except MessageError Timestamp :=
  match Rfc3339.parse text with
  | .ok t => .ok ⟨text, t⟩
  | .error e => .error (.invalidField "timestamp" (text ++ ": " ++ e.message))

/-- The timestamp of an instant, cut to milliseconds and written with three fraction digits. -/
def ofInstant (t : Instant) : Timestamp :=
  let t' := t.truncMillis
  ⟨Rfc3339.formatMillis t', t'⟩

end Timestamp
end WalletAuth
